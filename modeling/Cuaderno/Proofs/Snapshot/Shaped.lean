import Cuaderno.Proofs.Calendar.Epoch
import Cuaderno.Proofs.Snapshot.Entries
import Mathlib.Algebra.Group.Int.Defs

/-!
# Documents with the shape of a snapshot

A record that breaks the rules of its kind is reported as a defect, but the readers do not look at
the shape of what they read: they take a mapping for a mapping, a list for a list and a number for
one of a size that they can hold. What they rely on is a test that a document can be put to before
it is read (`Snapshot.isShaped`), and a document that passes it is read or has a defect
(`Snapshot.read_shaped`). Without it there are faults of every other kind.
-/

namespace Cuaderno

open Outcome

private theorem Choice.only_ofDocument {α : Type} [Choice α] (d : Document) :
    Only Fault.IsReported (Choice.ofDocument d : Except Fault α) := by
  unfold ofDocument
  dsimp only
  split
  · exact .ok _
  · exact Document.only_spellShown.bind fun shown _ => .error (.inr ⟨_, rfl⟩)

private theorem Choice.isWritable_of_ofDocument {α : Type} [Choice α] {d : Document} {a : α}
    (h : (Choice.ofDocument d : Except Fault α) = .ok a) : d.isWritable = true := by
  cases d with
  | text s => rfl
  | _ =>
    obtain ⟨shown, -, h⟩ := bind_eq_ok.1 h
    cases h

open Document

/-! ## Types -/

/-- Whether a document has the shape of a property. -/
def Property.isShaped (d : Document) : Bool :=
  d.isRecord && d.entryIs "id" isWritable && d.entryIs "name" isWritable &&
    d.entryIs "type" isWritable && d.entryIs "options" (absentOr (listsOnly isWritable))

def ItemType.isShaped (d : Document) : Bool :=
  d.isRecord && d.entryIs "id" isWritable && d.entryIs "name" isWritable &&
    d.entryIs "namePlural" isWritable && d.entryIs "icon" isWritable &&
    d.entryIs "color" isWritable &&
    d.entryIs "properties" (absentOr (listsOnly Property.isShaped))

theorem PropertyKind.only_read (name : String) : Only Fault.IsDefect (PropertyKind.read name) := by
  unfold read
  split
  · exact .ok _
  · split
    · exact .ok _
    · exact .error ⟨_, rfl⟩

theorem Property.only_read {d : Document} (h : isShaped d = true) :
    Only Fault.IsDefect (Property.read d) := by
  simp only [isShaped, Bool.and_eq_true] at h
  obtain ⟨⟨⟨⟨hrecord, hid⟩, hname⟩, htype⟩, hoptions⟩ := h
  refine (only_required hrecord).bind fun v hv => ?_
  refine .ok_bind (exists_spell (test_of_entryIs hid (entry?_of_required hv))) fun id => ?_
  refine .ok_bind (exists_fieldText hrecord hname) fun name => ?_
  refine .ok_bind (exists_fieldText hrecord htype) fun type => ?_
  refine (PropertyKind.only_read type).bind fun kind _ => ?_
  refine .ok_bind (exists_fieldTexts hrecord hoptions) fun options => ?_
  rw [fieldOrNull_of_isRecord hrecord]
  exact .ok _

theorem ItemType.only_read {d : Document} (h : isShaped d = true) :
    Only Fault.IsDefect (ItemType.read d) := by
  simp only [isShaped, Bool.and_eq_true] at h
  obtain ⟨⟨⟨⟨⟨⟨hrecord, hid⟩, hname⟩, hplural⟩, hicon⟩, hcolor⟩, hproperties⟩ := h
  obtain ⟨items, hitems, hshaped⟩ := exists_fieldList hrecord hproperties
  refine (only_required hrecord).bind fun v hv => ?_
  refine .ok_bind (exists_spell (test_of_entryIs hid (entry?_of_required hv))) fun id => ?_
  refine .ok_bind (exists_fieldText hrecord hname) fun name => ?_
  refine .ok_bind (exists_fieldText hrecord hplural) fun plural => ?_
  refine .ok_bind (exists_fieldText hrecord hicon) fun icon => ?_
  refine .ok_bind (exists_fieldText hrecord hcolor) fun color => ?_
  rw [hitems]
  refine (Only.mapM fun item hitem => Property.only_read (hshaped item hitem)).bind
    fun properties _ => ?_
  split
  · exact .ok _
  · exact .error ⟨_, rfl⟩

theorem Property.isShaped_of_read {d : Document} {p : Property} (h : Property.read d = .ok p) :
    isShaped d = true := by
  simp only [Property.read, bind_eq_ok] at h
  obtain ⟨_, hrequired, _, hid, _, hname, _, htype, _, _, _, hoptions, _⟩ := h
  simp only [isShaped, Bool.and_eq_true]
  exact ⟨⟨⟨⟨isRecord_of_required hrequired,
    entryIs_of_required hrequired (isWritable_of_spell hid)⟩, entryIs_of_fieldText hname⟩,
    entryIs_of_fieldText htype⟩, entryIs_of_fieldTexts hoptions⟩

theorem ItemType.isShaped_of_read {d : Document} {t : ItemType} (h : ItemType.read d = .ok t) :
    isShaped d = true := by
  simp only [ItemType.read, bind_eq_ok] at h
  obtain ⟨_, hrequired, _, hid, _, hname, _, hplural, _, hicon, _, hcolor, _, hlist, _,
    hproperties, -⟩ := h
  simp only [isShaped, Bool.and_eq_true]
  exact ⟨⟨⟨⟨⟨⟨isRecord_of_required hrequired,
    entryIs_of_required hrequired (isWritable_of_spell hid)⟩, entryIs_of_fieldText hname⟩,
    entryIs_of_fieldText hplural⟩, entryIs_of_fieldText hicon⟩, entryIs_of_fieldText hcolor⟩,
    entryIs_of_mapM hlist hproperties fun _ _ => Property.isShaped_of_read⟩

/-! ## Items -/

/-- Whether a text writes a stamp whose moment lies outside the calendar. -/
def Moment.isBeyondText (s : String) : Bool :=
  (Iso.stamp? (withoutZ s.toList)).any fun stamp => decide stamp.IsBeyond

theorem Moment.only_readText {s : String} (h : isBeyondText s = false) :
    Only Fault.IsDefect (readText s) := by
  unfold readText isBeyondText at *
  cases hs : Iso.stamp? (withoutZ s.toList) with
  | none => exact .error ⟨_, rfl⟩
  | some stamp =>
    rw [hs] at h
    intro e he
    obtain ⟨-, hbeyond⟩ := Stamp.moment_eq_error.1 he
    simp [hbeyond] at h

/-- Whether a document has the shape of a moment: a time stamp lies in the calendar with the day
before it, and no text writes a moment outside of it. -/
def Moment.isShaped : Document → Bool
  | .stamp s => !decide s.IsBeyond
  | .int n => Epoch.isWithin (Epoch.secondsOf n)
  | .float x => Epoch.isWithin (x.divCount 1000)
  | .text s => !isBeyondText s
  | d => d.isWritable

theorem Moment.only_read {d : Document} (h : isShaped d = true) :
    Only Fault.IsDefect (Moment.read d) := by
  cases d with
  | stamp s =>
    rw [isShaped, Bool.not_eq_true', decide_eq_false_iff_not] at h
    exact .of_exists (Stamp.exists_moment h)
  | date d => exact .ok _
  | bool b =>
    have hwithin : Epoch.isWithin (Epoch.secondsOf (if b then 1 else 0)) = true := by
      cases b <;> decide +kernel
    rw [Moment.read]
    exact .of_exists (Epoch.exists_ofMillis hwithin)
  | int n =>
    rw [Moment.read]
    exact .of_exists (Epoch.exists_ofMillis h)
  | float x =>
    rw [Moment.read, Epoch.ofNumber]
    exact .of_exists (Epoch.exists_ofSeconds h)
  | text s =>
    rw [isShaped, Bool.not_eq_true'] at h
    exact only_readText h
  | null | list items | map entries | value v =>
    rw [Moment.read]
    · exact .ok_bind (exists_spellShown h) fun s => .error ⟨_, rfl⟩
    all_goals simp

theorem Moment.isShaped_of_read {d : Document} {m : Moment} (h : Moment.read d = .ok m) :
    isShaped d = true := by
  cases d with
  | stamp s =>
    rw [isShaped, Bool.not_eq_true', decide_eq_false_iff_not]
    exact Stamp.not_isBeyond_of_moment h
  | date d => rfl
  | bool b => rfl
  | int n => exact Epoch.isWithin_of_ofSeconds (Epoch.ofSeconds_of_ofMillis h)
  | float x => exact Epoch.isWithin_of_ofSeconds h
  | text s =>
    rw [isShaped, isBeyondText]
    rw [Moment.read, readText] at h
    cases hs : Iso.stamp? (withoutZ s.toList) with
    | none => rfl
    | some stamp =>
      rw [hs] at h
      rw [Option.any_some, Bool.not_eq_true', decide_eq_false_iff_not]
      exact Stamp.not_isBeyond_of_moment h
  | null | list items | map entries | value v =>
    obtain ⟨s, -, h⟩ := bind_eq_ok.1 h
    cases h

/-- The moment of an entry of a document that has the shape of one. -/
theorem Moment.only_readOrFirst {d : Document} (h : isShaped d = true) :
    Only Fault.IsDefect (Moment.readOrFirst d) := by
  unfold readOrFirst
  split
  · exact .ok _
  · exact only_read h

theorem Moment.isShaped_of_readOrFirst {d : Document} {m : Moment}
    (h : Moment.readOrFirst d = .ok m) : isShaped d = true := by
  unfold readOrFirst at h
  split at h
  · rename_i hnull
    cases d with
    | null => rfl
    | _ => cases hnull
  · exact isShaped_of_read h

private theorem Value.exists_readText {s : String} {property : Option Property}
    (h : (property.any (·.kind.isTemporal) && Moment.isBeyondText s) = false) :
    ∃ v, Value.readText s property = .ok v := by
  unfold readText
  split
  · rename_i htemporal
    rw [Bool.and_eq_true] at htemporal
    rw [htemporal.1, Bool.true_and] at h
    split
    · exact ⟨_, rfl⟩
    · exact ⟨_, rfl⟩
    · rename_i e hnot he
      obtain ⟨d, rfl⟩ := Moment.only_readText h e he
      exact absurd rfl (hnot d)
  · exact ⟨_, rfl⟩

def Value.isShaped (property : Option Property) : Document → Bool
  | .null | .bool _ | .float _ | .date _ => true
  | .int n => (Number.ofInt? n).isSome
  | .stamp s => !decide s.IsBeyond
  | .list items =>
    match items.mapM Link.parts? with
    | some parts => parts.all fun (id, title) => id.isWritable && title.isWritable
    | none => items.all isWritable
  | d => d.isWritable && !(property.any (·.kind.isTemporal) && Moment.isBeyondText d.plain)

private theorem Link.exists_read {parts : Document × Document}
    (h : (parts.1.isWritable && parts.2.isWritable) = true) :
    ∃ link, Link.read parts = .ok link := by
  rw [Bool.and_eq_true] at h
  obtain ⟨id, hid⟩ := exists_spell h.1
  obtain ⟨title, htitle⟩ := exists_spell h.2
  exact ⟨⟨id, title⟩, by rw [Link.read, hid, htitle]; rfl⟩

private theorem Value.exists_readSpelled {property : Option Property} {d : Document}
    (h : (d.isWritable && !(property.any (·.kind.isTemporal) && Moment.isBeyondText d.plain)) =
      true) : ∃ v, (do return some (← Value.readText (← d.spell) property)) = Except.ok v := by
  rw [Bool.and_eq_true, Bool.not_eq_true'] at h
  obtain ⟨v, hv⟩ := exists_readText h.2
  have hspell : d.spell = .ok d.plain := if_pos h.1
  exact ⟨some v, by rw [hspell, Outcome.ok_bind, hv]; rfl⟩

private theorem Value.exists_read {property : Option Property} {d : Document}
    (h : isShaped property d = true) : ∃ v, Value.read d property = .ok v := by
  unfold isShaped at h
  unfold Value.read
  -- What an integer is as a number makes no difference, and must not be computed.
  obtain ⟨toNumber, hnumber⟩ : ∃ f : Int → Option Number, Number.ofInt? = f := ⟨_, rfl⟩
  rw [hnumber] at h ⊢
  cases d with
  | null | bool b | float x | date day => exact ⟨_, rfl⟩
  | int n =>
    obtain ⟨x, hx⟩ := Option.isSome_iff_exists.1 h
    exact ⟨_, by dsimp only; rw [hx]⟩
  | stamp s =>
    simp only [Bool.not_eq_true', decide_eq_false_iff_not] at h
    obtain ⟨m, hm⟩ := Stamp.exists_moment h
    exact ⟨some (.moment m), by simp [Moment.read, hm]⟩
  | list items =>
    dsimp only at h ⊢
    split
    · rename_i first rest hparts
      rw [hparts] at h
      obtain ⟨links, hlinks⟩ := exists_mapM_of_forall fun parts hmem =>
        Link.exists_read (List.all_eq_true.1 h parts hmem)
      exact ⟨_, by rw [hlinks]; rfl⟩
    · rename_i hnone
      have hwritable : ∀ item ∈ items, item.isWritable = true := by
        cases hparts : items.mapM Link.parts? with
        | none =>
          rw [hparts] at h
          exact List.all_eq_true.1 h
        | some parts =>
          cases parts with
          | nil =>
            cases mapM_eq_some.1 hparts
            simp
          | cons first rest => exact absurd hparts (hnone first rest)
      obtain ⟨texts, htexts⟩ := exists_mapM_of_forall fun item hitem =>
        exists_spell (hwritable item hitem)
      exact ⟨_, by rw [htexts]; rfl⟩
  | text s | map entries | value v => exact exists_readSpelled h

/-- A text that is read under a property writes no moment outside the calendar where it counts. -/
theorem Value.not_isBeyondText_of_readText {s : String} {property : Option Property} {v : Value}
    (h : Value.readText s property = .ok v) :
    (property.any (·.kind.isTemporal) && Moment.isBeyondText s) = false := by
  rw [Bool.and_eq_false_iff]
  by_contra hbeyond
  simp only [not_or, Bool.not_eq_false] at hbeyond
  obtain ⟨htemporal, hbeyond⟩ := hbeyond
  have hne : (s != "") = true := by
    rw [bne_iff_ne]
    rintro rfl
    cases hbeyond
  obtain ⟨stamp, hstamp, hstampBeyond⟩ := (Option.any_eq_true _ _).1 hbeyond
  rw [decide_eq_true_eq] at hstampBeyond
  rw [readText, htemporal, hne, Moment.readText, hstamp] at h
  simp only [Bool.and_self, if_true] at h
  rw [Stamp.moment_eq_error.2 ⟨rfl, hstampBeyond⟩] at h
  cases h

theorem Value.isShaped_of_readSpelled {property : Option Property} {d : Document}
    {v : Option Value}
    (h : (do return some (← Value.readText (← d.spell) property)) = Except.ok v) :
    (d.isWritable && !(property.any (·.kind.isTemporal) && Moment.isBeyondText d.plain)) =
      true := by
  obtain ⟨s, hs, h⟩ := bind_eq_ok.1 h
  obtain ⟨own, hown, -⟩ := bind_eq_ok.1 h
  have hwritable := isWritable_of_spell hs
  rw [spell, if_pos hwritable] at hs
  cases hs
  rw [hwritable, not_isBeyondText_of_readText hown]
  rfl

theorem Link.isWritable_of_read {parts : Document × Document} {link : Link}
    (h : Link.read parts = .ok link) : (parts.1.isWritable && parts.2.isWritable) = true := by
  obtain ⟨id, hid, h⟩ := bind_eq_ok.1 h
  obtain ⟨title, htitle, -⟩ := bind_eq_ok.1 h
  rw [isWritable_of_spell hid, isWritable_of_spell htitle]
  rfl

theorem Value.isShaped_of_read {property : Option Property} {d : Document} {v : Option Value}
    (h : Value.read d property = .ok v) : isShaped property d = true := by
  unfold Value.read at h
  unfold isShaped
  -- What an integer is as a number makes no difference, and must not be computed.
  obtain ⟨toNumber, hnumber⟩ : ∃ f : Int → Option Number, Number.ofInt? = f := ⟨_, rfl⟩
  rw [hnumber] at h ⊢
  cases d with
  | null | bool b | float x | date day => rfl
  | int n =>
    dsimp only at h ⊢
    split at h
    · rename_i x hx
      rw [hx]
      rfl
    · cases h
  | stamp s =>
    obtain ⟨m, hm, -⟩ := bind_eq_ok.1 h
    exact Moment.isShaped_of_read hm
  | list items =>
    dsimp only at h ⊢
    split at h
    · rename_i first rest hparts
      obtain ⟨links, hlinks, -⟩ := bind_eq_ok.1 h
      rw [hparts]
      refine List.all_eq_true.2 fun parts hmem => ?_
      obtain ⟨link, hlink⟩ := exists_of_mapM_eq_ok hlinks parts hmem
      exact Link.isWritable_of_read hlink
    · rename_i hnone
      obtain ⟨texts, htexts, -⟩ := bind_eq_ok.1 h
      cases hparts : items.mapM Link.parts? with
      | none =>
        refine List.all_eq_true.2 fun item hmem => ?_
        obtain ⟨s, hs⟩ := exists_of_mapM_eq_ok htexts item hmem
        exact isWritable_of_spell hs
      | some parts =>
        cases parts with
        | nil => rfl
        | cons first rest => exact absurd hparts (hnone first rest)
  | text s | map entries | value v => exact isShaped_of_readSpelled h

theorem Value.isNull_of_read {property : Option Property} {d : Document}
    (h : Value.read d property = .ok none) : d.isNull = true := by
  unfold Value.read at h
  -- What an integer is as a number makes no difference, and must not be computed.
  obtain ⟨toNumber, hnumber⟩ : ∃ f : Int → Option Number, Number.ofInt? = f := ⟨_, rfl⟩
  rw [hnumber] at h
  cases d with
  | null => rfl
  | bool b | float x => cases h
  | int n =>
    dsimp only at h
    split at h
    · cases h
    · cases h
  | date day | stamp s =>
    obtain ⟨m, -, h⟩ := bind_eq_ok.1 h
    cases h
  | list items =>
    dsimp only at h
    split at h
    · obtain ⟨links, -, h⟩ := bind_eq_ok.1 h
      cases h
    · obtain ⟨texts, -, h⟩ := bind_eq_ok.1 h
      cases h
  | text s | map entries | value v =>
    obtain ⟨s, -, h⟩ := bind_eq_ok.1 h
    obtain ⟨own, -, h⟩ := bind_eq_ok.1 h
    cases h

/-- Whether a document has the shape of the properties of an item of a type. A name counts only
where it names something. -/
def Item.hasShapedProperties (type : Option ItemType) : Document → Bool
  | .map entries => entries.all fun (key, d) =>
    (d.isNull || key.isWritable) && Value.isShaped (key.property? type) d
  | _ => false

private theorem Item.exists_readProperty {type : Option ItemType}
    (properties : List (String × Value))
    {key : Key} {d : Document} (hkey : (d.isNull || key.isWritable) = true)
    (hvalue : Value.isShaped (key.property? type) d = true) :
    ∃ more, Item.readProperty type properties (key, d) = .ok more := by
  obtain ⟨v, hv⟩ := Value.exists_read hvalue
  cases v with
  | none => exact ⟨properties, by simp [readProperty, hv]⟩
  | some v =>
    have hwritable : key.isWritable = true := by
      cases d with
      | null => cases hv
      | _ => exact hkey
    have hspell : key.spell = .ok key.name := if_pos hwritable
    exact ⟨Fields.put key.name v properties, by simp [readProperty, hv, hspell]⟩

private theorem Item.exists_readProperties {type : Option ItemType} {d : Document}
    (h : hasShapedProperties type d = true) :
    ∃ properties, Item.readProperties d type = .ok properties := by
  cases d with
  | map entries =>
    rw [hasShapedProperties, List.all_eq_true] at h
    have hstep : ∀ properties, ∀ entry ∈ entries,
        Only (fun _ => False) (Item.readProperty type properties entry) := by
      rintro properties ⟨key, value⟩ hentry
      have hshape := h _ hentry
      rw [Bool.and_eq_true] at hshape
      obtain ⟨more, hmore⟩ := exists_readProperty properties hshape.1 hshape.2
      rw [hmore]
      exact .ok more
    exact exists_eq_ok fun e he => Only.foldlM hstep e he
  | _ => cases h

theorem Item.isShaped_of_readProperty {type : Option ItemType}
    {properties more : List (String × Value)} {key : Key} {d : Document}
    (h : Item.readProperty type properties (key, d) = .ok more) :
    ((d.isNull || key.isWritable) && Value.isShaped (key.property? type) d) = true := by
  obtain ⟨v, hv, h⟩ := bind_eq_ok.1 h
  rw [Value.isShaped_of_read hv, Bool.and_true]
  cases v with
  | none => rw [Value.isNull_of_read hv, Bool.true_or]
  | some v =>
    obtain ⟨name, hname, -⟩ := bind_eq_ok.1 h
    have hwritable : key.isWritable = true := by
      by_contra hlong
      rw [Key.spell, if_neg hlong] at hname
      cases hname
    rw [hwritable, Bool.or_true]

private theorem Item.hasShapedProperties_of_readProperties {type : Option ItemType} {d : Document}
    {properties : List (String × Value)} (h : Item.readProperties d type = .ok properties) :
    hasShapedProperties type d = true := by
  obtain ⟨entries, hentries, hfold⟩ := bind_eq_ok.1 h
  cases d with
  | map own =>
    cases hentries
    rw [hasShapedProperties, List.all_eq_true]
    rintro ⟨key, value⟩ hentry
    obtain ⟨before, after, hstep⟩ := exists_of_foldlM_eq_ok hfold _ hentry
    exact isShaped_of_readProperty hstep
  | _ => cases hentries

/-- Whether a document has the shape of a component of an embedding. -/
def Number.isShaped : Document → Bool
  | .bool _ | .float _ => true
  | .int n => (Number.ofInt? n).isSome
  | .text s => (Number.read? s.toList).isSome
  | _ => false

private theorem Number.exists_read {d : Document} (h : isShaped d = true) :
    ∃ x, Number.read d = .ok x := by
  unfold isShaped at h
  unfold Number.read
  -- What an integer is as a number makes no difference, and must not be computed.
  obtain ⟨toNumber, hnumber⟩ : ∃ f : Int → Option Number, Number.ofInt? = f := ⟨_, rfl⟩
  rw [hnumber] at h ⊢
  cases d with
  | bool b | float x => exact ⟨_, rfl⟩
  | int n =>
    obtain ⟨x, hx⟩ := Option.isSome_iff_exists.1 h
    exact ⟨x, by dsimp only; rw [hx]⟩
  | text s =>
    obtain ⟨x, hx⟩ := Option.isSome_iff_exists.1 h
    exact ⟨x, by dsimp only; rw [hx]⟩
  | _ => cases h

theorem Number.isShaped_of_read {d : Document} {x : Number} (h : Number.read d = .ok x) :
    isShaped d = true := by
  unfold Number.read at h
  unfold isShaped
  -- What an integer is as a number makes no difference, and must not be computed.
  obtain ⟨toNumber, hnumber⟩ : ∃ f : Int → Option Number, Number.ofInt? = f := ⟨_, rfl⟩
  rw [hnumber] at h ⊢
  cases d with
  | bool b | float x => rfl
  | int n | text s =>
    dsimp only at h ⊢
    split at h
    · rename_i x hx
      rw [hx]
      rfl
    · cases h
  | _ => cases h

/-- The type that a document of an item names, among types of which the last counts. -/
def Item.typeOf? (types : List ItemType) (d : Document) : Option ItemType :=
  (d.entry? "type").bind fun name => ItemType.last? types name.plain

/-- Whether a document has the shape of an item, its properties read under some types. -/
def Item.isShaped (types : List ItemType) (d : Document) : Bool :=
  d.isRecord && d.entryIs "id" isWritable && d.entryIs "type" isWritable &&
    d.entryIs "properties" (absentOr (hasShapedProperties (typeOf? types d))) &&
    d.entryIs "title" isWritable && d.entryIs "content" isWritable &&
    d.entryIs "tags" (absentOr (listsOnly isWritable)) &&
    d.entryIs "links" (absentOr (listsOnly isWritable)) &&
    d.entryIs "backlinks" (absentOr (listsOnly isWritable)) &&
    d.entryIs "createdAt" Moment.isShaped && d.entryIs "updatedAt" Moment.isShaped &&
    d.entryIs "embedding" (absentOr (listsOnly Number.isShaped))

theorem Item.only_read {types : List ItemType} {d : Document} (h : isShaped types d = true) :
    Only Fault.IsDefect (Item.read types d) := by
  simp only [isShaped, Bool.and_eq_true] at h
  obtain ⟨⟨⟨⟨⟨⟨⟨⟨⟨⟨⟨hrecord, hid⟩, htype⟩, hproperties⟩, htitle⟩, hcontent⟩, htags⟩, hlinks⟩,
    hbacklinks⟩, hcreated⟩, hupdated⟩, hembedding⟩ := h
  have hcreatedShape := test_getD_null hcreated rfl
  refine (only_required hrecord).bind fun v hv => ?_
  refine .ok_bind (exists_spell (test_of_entryIs hid (entry?_of_required hv))) fun id => ?_
  refine (only_required hrecord).bind fun v hv => ?_
  have htypeWritable := test_of_entryIs htype (entry?_of_required hv)
  have hspell : v.spell = .ok v.plain := if_pos htypeWritable
  have htypeOf : typeOf? types d = ItemType.last? types v.plain := by
    rw [typeOf?, entry?_of_required hv, Option.bind_some]
  rw [htypeOf] at hproperties
  have hstored := test_getD_null hproperties rfl
  have hembeddingShape := test_getD_null hembedding rfl
  simp only [hspell, fieldOrNull_of_isRecord hrecord, field?_of_isRecord hrecord,
    Outcome.ok_bind]
  refine .ok_bind (exists_readProperties (test_or_default hstored rfl)) fun properties => ?_
  refine .ok_bind (exists_fieldText hrecord htitle) fun title => ?_
  refine .ok_bind (exists_fieldText hrecord hcontent) fun content => ?_
  refine .ok_bind (exists_fieldTexts hrecord htags) fun tags => ?_
  refine .ok_bind (exists_fieldTexts hrecord hlinks) fun links => ?_
  refine .ok_bind (exists_fieldTexts hrecord hbacklinks) fun backlinks => ?_
  refine (Moment.only_readOrFirst hcreatedShape).bind fun created _ => ?_
  refine (Moment.only_readOrFirst (test_getD hupdated hcreatedShape)).bind fun updated _ => ?_
  generalize (d.entry? "embedding").getD .null = embedding at hembeddingShape ⊢
  split
  · rename_i hpresent
    obtain ⟨items, hitems, hnumbers⟩ := exists_listed (test_of_absentOr hembeddingShape hpresent)
    rw [hitems, Outcome.ok_bind]
    refine .ok_bind ?_ fun xs => .ok _
    exact exists_mapM_of_forall fun item hitem => Number.exists_read (hnumbers item hitem)
  · exact .ok _

theorem Item.isShaped_of_read {types : List ItemType} {d : Document} {item : Item}
    (h : Item.read types d = .ok item) : isShaped types d = true := by
  simp only [Item.read, bind_eq_ok] at h
  obtain ⟨_, hrequired, _, hid, named, hnamed, typeId, htypeId, stored, hstored, _, hproperties,
    created, hcreated, updated, hupdated, embedding, hembedding, _, htitle, _, hcontent, _, htags,
    _, hlinks, _, hbacklinks, _, hreadCreated, _, hreadUpdated, h⟩ := h
  have hwritable := isWritable_of_spell htypeId
  rw [spell, if_pos hwritable] at htypeId
  cases htypeId
  have htypeOf : typeOf? types d = ItemType.last? types named.plain := by
    rw [typeOf?, entry?_of_required hnamed, Option.bind_some]
  have hvalues := hasShapedProperties_of_readProperties hproperties
  have hcomponents : absentOr (listsOnly Number.isShaped) embedding = true := by
    refine absentOr_of_isPresent fun hpresent => ?_
    rw [if_pos hpresent] at h
    simp only [bind_eq_ok] at h
    obtain ⟨items, hitems, xs, hxs, -⟩ := h
    refine listsOnly_of_listed hitems fun item hmem => ?_
    obtain ⟨x, hx⟩ := exists_of_mapM_eq_ok hxs item hmem
    exact Number.isShaped_of_read hx
  simp only [isShaped, Bool.and_eq_true, htypeOf]
  refine ⟨⟨⟨⟨⟨⟨⟨⟨⟨⟨⟨isRecord_of_required hrequired,
    entryIs_of_required hrequired (isWritable_of_spell hid)⟩,
    entryIs_of_required hnamed hwritable⟩, ?_⟩, entryIs_of_fieldText htitle⟩,
    entryIs_of_fieldText hcontent⟩, entryIs_of_fieldTexts htags⟩, entryIs_of_fieldTexts hlinks⟩,
    entryIs_of_fieldTexts hbacklinks⟩,
    entryIs_of_fieldOrNull hcreated (Moment.isShaped_of_readOrFirst hreadCreated)⟩,
    entryIs_of_getD hupdated (Moment.isShaped_of_readOrFirst hreadUpdated)⟩,
    entryIs_of_fieldOrNull hembedding hcomponents⟩
  refine entryIs_of_fieldOrNull hstored (absentOr_of_isPresent fun hpresent => ?_)
  rwa [if_pos hpresent] at hvalues

/-! ## Panels -/

/-- Whether a document has the shape of a bound of a period: the clock of the system can name the
second of a time stamp. -/
def Period.isShapedBound : Document → Bool
  | .stamp s => !decide s.IsBeyond
  | .int n => Epoch.isNameable (Epoch.secondsOf n)
  | .float x => Epoch.isNameable (x.divCount 1000)
  | _ => true

theorem Period.only_readBound {d : Document} (h : isShapedBound d = true) :
    Only Fault.IsReported (Period.readBound d) := by
  have hseconds {x : Number} (hx : Epoch.isNameable x = true) :
      Only Fault.IsReported (Epoch.ofSeconds x) := fun e he =>
    .inr (Epoch.ofSeconds_error_of_isNameable hx he)
  cases d with
  | null => exact .ok _
  | text s => exact .ok _
  | date day => exact .ok _
  | stamp s =>
    refine Only.bind (fun e he => ?_) fun m _ => .ok _
    simp only [isShapedBound, Bool.not_eq_true', decide_eq_false_iff_not] at h
    exact absurd (Stamp.moment_eq_error.1 he).2 h
  | int n =>
    refine Only.bind ?_ fun m _ => .ok _
    rw [Epoch.ofMillis_of_isNameable h]
    exact hseconds h
  | float x => exact Only.bind (hseconds h) fun m _ => .ok _
  | bool b | list items | map entries | value v =>
    refine Only.bind ?_ fun s _ => .error (.inl ⟨_, rfl⟩)
    exact only_spellShown

theorem Period.isShapedBound_of_readBound {d b : Document} (h : Period.readBound d = .ok b) :
    isShapedBound d = true := by
  cases d with
  | null | text s | date day | bool b | list items | map entries | value v => rfl
  | stamp s =>
    obtain ⟨m, hm, -⟩ := bind_eq_ok.1 h
    rw [isShapedBound, Bool.not_eq_true', decide_eq_false_iff_not]
    exact Stamp.not_isBeyond_of_moment hm
  | int n =>
    obtain ⟨m, hm, -⟩ := bind_eq_ok.1 h
    exact Epoch.isNameable_of_ofSeconds (Epoch.ofSeconds_of_ofMillis hm)
  | float x =>
    obtain ⟨m, hm, -⟩ := bind_eq_ok.1 h
    exact Epoch.isNameable_of_ofSeconds hm

/-- Whether a document has the shape of a period; what is no mapping is reported. -/
def Period.isShaped (d : Document) : Bool :=
  !d.isRecord || (d.entryIs "start" isShapedBound && d.entryIs "end" isShapedBound)

theorem Period.only_read {d : Document} (h : isShaped d = true) :
    Only Fault.IsReported (Period.read d) := by
  cases d with
  | map entries =>
    have hrecord : (Document.map entries).isRecord = true := rfl
    simp only [isShaped, hrecord, Bool.not_true, Bool.false_or, Bool.and_eq_true] at h
    obtain ⟨hstart, hstop⟩ := h
    simp only [Period.read, fieldOrNull_of_isRecord hrecord, Outcome.ok_bind]
    refine (only_fieldText hrecord).bind fun field _ => ?_
    refine (only_readBound (test_getD_null hstart rfl)).bind fun start _ => ?_
    exact (only_readBound (test_getD_null hstop rfl)).bind fun stop _ => .ok _
  | _ => exact .error (.inl ⟨_, rfl⟩)

theorem Period.isShaped_of_read {d : Document} {p : Period} (h : Period.read d = .ok p) :
    isShaped d = true := by
  unfold Period.read at h
  split at h
  · simp only [bind_eq_ok] at h
    obtain ⟨_, _, _, hstart, _, hreadStart, _, hstop, _, hreadStop, -⟩ := h
    simp only [isShaped, Bool.or_eq_true, Bool.and_eq_true]
    exact .inr ⟨entryIs_of_fieldOrNull hstart (isShapedBound_of_readBound hreadStart),
      entryIs_of_fieldOrNull hstop (isShapedBound_of_readBound hreadStop)⟩
  · cases h

def Query.isShaped (d : Document) : Bool :=
  d.isRecord && d.entryIs "types" (absentOr (listsOnly fun _ => true)) &&
    d.entryIs "propertyFilters" (absentOr (listsOnly isRecord)) &&
    d.entryIs "dateRange" (absentOr Period.isShaped)

theorem Condition.only_read {d : Document} (h : d.isRecord = true) :
    Only Fault.IsReported (Condition.read d) := by
  refine ((only_required h).mono fun e he => he.isReported).bind fun v _ => ?_
  refine only_spell.bind fun propertyId _ => ?_
  refine ((only_required h).mono fun e he => he.isReported).bind fun v _ => ?_
  refine (Choice.only_ofDocument v).bind fun operator _ => ?_
  rw [fieldOrNull_of_isRecord h]
  exact .ok _

theorem Condition.isRecord_of_read {d : Document} {c : Condition} (h : Condition.read d = .ok c) :
    d.isRecord = true := by
  obtain ⟨_, hrequired, -⟩ := bind_eq_ok.1 h
  exact isRecord_of_required hrequired

/-- A document that is read only when it is present adds the faults of its reading. -/
theorem only_whenPresent {α : Type} {kind : Fault → Prop} {read : Document → Except Fault α}
    {v : Document} (h : v.isPresent = true → Only kind (read v)) :
    Only kind (if v.isPresent then some <$> read v else pure none) := by
  split
  · intro e he
    exact h ‹_› e (map_eq_error.1 he)
  · exact .ok none

/-- A document that was read where it was present has the shape that its reading asks for. -/
theorem absentOr_of_whenPresent {α : Type} {read : Document → Except Fault α}
    {test : Document → Bool} {v : Document} {o : Option α}
    (h : (if v.isPresent then some <$> read v else pure none) = .ok o)
    (hread : ∀ a, read v = .ok a → test v = true) : absentOr test v = true := by
  refine absentOr_of_isPresent fun hpresent => ?_
  rw [if_pos hpresent] at h
  obtain ⟨a, ha, -⟩ := map_eq_ok.1 h
  exact hread a ha

theorem Query.only_read {d : Document} (h : isShaped d = true) :
    Only Fault.IsDefect (Query.read d) := by
  simp only [isShaped, Bool.and_eq_true] at h
  obtain ⟨⟨⟨hrecord, htypes⟩, hfilters⟩, hrange⟩ := h
  obtain ⟨filters, hlist, hrecords⟩ := exists_fieldList hrecord hfilters
  apply only_withDefect
  simp only [fieldOrNull_of_isRecord hrecord, field?_of_isRecord hrecord, hlist, Outcome.ok_bind,
    ite_bind]
  refine (only_fieldTexts hrecord htypes).bind fun types _ => ?_
  refine (only_whenPresent fun _ => Choice.only_ofDocument _).bind fun preset _ => ?_
  refine (Only.mapM fun filter hmem => Condition.only_read (hrecords filter hmem)).bind
    fun conditions _ => ?_
  refine (only_whenPresent fun hpresent =>
    Period.only_read (test_of_absentOr (test_getD_null hrange rfl) hpresent)).bind
    fun period _ => ?_
  refine (only_fieldText hrecord).bind fun sortBy _ => ?_
  exact (Choice.only_ofDocument _).bind fun direction _ => .ok _

theorem Query.isShaped_of_read {d : Document} {q : Query} (h : Query.read d = .ok q) :
    isShaped d = true := by
  have h := of_withDefect_eq_ok h
  simp only [ite_bind, bind_eq_ok] at h
  obtain ⟨_, hfield, period, hperiod, _, htypes, _, _, filters, hfilters, _, hconditions, _,
    hreadPeriod, -⟩ := h
  obtain ⟨types, hlist, -⟩ := bind_eq_ok.1 htypes
  obtain ⟨o, ho, -⟩ := bind_eq_ok.1 hfield
  simp only [isShaped, Bool.and_eq_true]
  exact ⟨⟨⟨(entry?_of_field? ho).1, entryIs_of_fieldList hlist fun _ _ => rfl⟩,
    entryIs_of_mapM hfilters hconditions fun _ _ => Condition.isRecord_of_read⟩,
    entryIs_of_fieldOrNull hperiod
      (absentOr_of_whenPresent hreadPeriod fun _ => Period.isShaped_of_read)⟩

def ChartConfig.isShaped (d : Document) : Bool :=
  d.isRecord && d.entryIs "colors" (absentOr (listsOnly fun _ => true))

theorem ChartConfig.only_read {d : Document} (h : isShaped d = true) :
    Only Fault.IsDefect (ChartConfig.read d) := by
  simp only [isShaped, Bool.and_eq_true] at h
  obtain ⟨hrecord, hcolors⟩ := h
  apply only_withDefect
  refine ((only_required hrecord).mono fun e he => he.isReported).bind fun v _ => ?_
  refine (Choice.only_ofDocument v).bind fun kind _ => ?_
  simp only [fieldOrNull_of_isRecord hrecord, field?_of_isRecord hrecord, Outcome.ok_bind]
  refine (only_fieldText hrecord).bind fun groupBy _ => ?_
  refine (only_fieldText hrecord).bind fun timelineBy _ => ?_
  refine (Choice.only_ofDocument _).bind fun grouping _ => ?_
  exact (only_fieldTexts hrecord hcolors).bind fun colors _ => .ok _

theorem ChartConfig.isShaped_of_read {d : Document} {c : ChartConfig}
    (h : ChartConfig.read d = .ok c) : isShaped d = true := by
  have h := of_withDefect_eq_ok h
  simp only [bind_eq_ok] at h
  obtain ⟨_, hrequired, _, _, _, _, _, _, _, _, _, _, _, _, _, _, _, hcolors, -⟩ := h
  obtain ⟨colors, hlist, -⟩ := bind_eq_ok.1 hcolors
  simp only [isShaped, Bool.and_eq_true]
  exact ⟨isRecord_of_required hrequired, entryIs_of_fieldList hlist fun _ _ => rfl⟩

def Document.isCount : Document → Bool
  | .bool _ | .int _ => true
  | .float x => x.truncate?.isSome
  | .text s => (Number.readInt? s.toList).isSome
  | _ => false

private theorem Document.exists_integer {d : Document} (h : d.isCount = true) :
    ∃ n, d.integer = .ok n := by
  cases d with
  | bool b => exact ⟨_, rfl⟩
  | int n => exact ⟨n, rfl⟩
  | float x =>
    obtain ⟨n, hn⟩ := Option.isSome_iff_exists.1 h
    exact ⟨n, by rw [integer, hn]⟩
  | text s =>
    obtain ⟨n, hn⟩ := Option.isSome_iff_exists.1 h
    exact ⟨n, by rw [integer, hn]⟩
  | _ => cases h

private theorem Document.isCount_of_integer {d : Document} {n : Int} (h : d.integer = .ok n) :
    d.isCount = true := by
  cases d with
  | bool b => rfl
  | int n => rfl
  | float x =>
    rw [integer] at h
    split at h
    · rename_i hn
      rw [isCount, hn]
      rfl
    · split at h
      · cases h
      · cases h
  | text s =>
    rw [integer] at h
    split at h
    · rename_i hn
      rw [isCount, hn]
      rfl
    · cases h
  | _ => cases h

theorem DisplayMode.only_read {d : Document} (h : d.isWritable = true) :
    Only Fault.IsDefect (DisplayMode.read d) := by
  unfold read
  split
  · exact .ok _
  · exact .ok_bind (exists_spellShown h) fun s => .error ⟨_, rfl⟩

theorem DisplayMode.isWritable_of_read {d : Document} {mode : DisplayMode}
    (h : DisplayMode.read d = .ok mode) : d.isWritable = true := by
  unfold read at h
  split at h
  · exact Choice.isWritable_of_ofDocument ‹_›
  · obtain ⟨s, -, h⟩ := bind_eq_ok.1 h
    cases h

def Panel.isShaped (d : Document) : Bool :=
  d.isRecord && d.entryIs "id" isWritable && d.entryIs "name" isWritable &&
    d.entryIs "icon" isWritable && d.entryIs "displayMode" isWritable &&
    d.entryIs "query" (absentOr Query.isShaped) &&
    d.entryIs "chartConfig" (absentOr ChartConfig.isShaped) && d.entryIs "maxItems" isCount

theorem Panel.only_read {d : Document} (h : isShaped d = true) :
    Only Fault.IsDefect (Panel.read d) := by
  simp only [isShaped, Bool.and_eq_true] at h
  obtain ⟨⟨⟨⟨⟨⟨⟨hrecord, hid⟩, hname⟩, hicon⟩, hmode⟩, hquery⟩, hchart⟩, hmaximum⟩ := h
  refine (only_required hrecord).bind fun v hv => ?_
  refine .ok_bind (exists_spell (test_of_entryIs hid (entry?_of_required hv))) fun id => ?_
  simp only [fieldOrNull_of_isRecord hrecord, field?_of_isRecord hrecord, Outcome.ok_bind,
    ite_bind]
  refine (DisplayMode.only_read (test_getD hmode rfl)).bind fun mode _ => ?_
  refine .ok_bind (exists_fieldText hrecord hname) fun name => ?_
  refine (Query.only_read (test_or_default (test_getD_null hquery rfl) rfl)).bind fun query _ => ?_
  refine .ok_bind (exists_fieldText hrecord hicon) fun icon => ?_
  refine (only_whenPresent fun hpresent =>
    ChartConfig.only_read (test_of_absentOr (test_getD_null hchart rfl) hpresent)).bind
    fun chart _ => ?_
  exact .ok_bind (exists_integer (test_getD hmaximum rfl)) fun maximum => .ok _

theorem Panel.isShaped_of_read {d : Document} {p : Panel} (h : Panel.read d = .ok p) :
    isShaped d = true := by
  simp only [Panel.read, ite_bind, bind_eq_ok] at h
  obtain ⟨_, hrequired, _, hid, chart, hchart, mode, hmode, _, hreadMode, _, hname, query, hquery,
    _, hreadQuery, _, hicon, _, _, _, hreadChart, maximum, hmaximum, _, hcount, -⟩ := h
  have hqueryShape : absentOr Query.isShaped query = true := by
    refine absentOr_of_isPresent fun hpresent => ?_
    rw [if_pos hpresent] at hreadQuery
    exact Query.isShaped_of_read hreadQuery
  simp only [isShaped, Bool.and_eq_true]
  exact ⟨⟨⟨⟨⟨⟨⟨isRecord_of_required hrequired,
    entryIs_of_required hrequired (isWritable_of_spell hid)⟩, entryIs_of_fieldText hname⟩,
    entryIs_of_fieldText hicon⟩,
    entryIs_of_getD hmode (DisplayMode.isWritable_of_read hreadMode)⟩,
    entryIs_of_fieldOrNull hquery hqueryShape⟩,
    entryIs_of_fieldOrNull hchart
      (absentOr_of_whenPresent hreadChart fun _ => ChartConfig.isShaped_of_read)⟩,
    entryIs_of_getD hmaximum (isCount_of_integer hcount)⟩

/-! ## Snapshots -/

/-- The types that a document of a snapshot describes; none when they have a fault. -/
def Snapshot.typesOf (d : Document) : List ItemType :=
  match (do (← d.fieldList "types").mapM ItemType.read : Except Fault (List ItemType)) with
  | .ok types => types
  | .error _ => []

/-- Whether a document has the shape of a snapshot; what is no mapping is reported. -/
def Snapshot.isShaped (d : Document) : Bool :=
  !d.isRecord || (d.entryIs "types" (absentOr (listsOnly ItemType.isShaped)) &&
    d.entryIs "objects" (absentOr (listsOnly (Item.isShaped (typesOf d)))) &&
    d.entryIs "panels" (absentOr (listsOnly Panel.isShaped)))

theorem Snapshot.only_read {d : Document} (h : isShaped d = true) :
    Only Fault.IsDefect (Snapshot.read d) := by
  cases d with
  | map entries =>
    generalize hd : Document.map entries = d at h
    have hrecord : d.isRecord = true := by rw [← hd]; rfl
    simp only [isShaped, hrecord, Bool.not_true, Bool.false_or, Bool.and_eq_true] at h
    obtain ⟨⟨htypes, hitems⟩, hpanels⟩ := h
    obtain ⟨typeDocuments, htypeList, htypeShaped⟩ := exists_fieldList hrecord htypes
    obtain ⟨itemDocuments, hitemList, hitemShaped⟩ := exists_fieldList hrecord hitems
    obtain ⟨panelDocuments, hpanelList, hpanelShaped⟩ := exists_fieldList hrecord hpanels
    subst hd
    simp only [Snapshot.read, htypeList, hitemList, hpanelList, Outcome.ok_bind]
    refine (Only.mapM fun t ht => ItemType.only_read (htypeShaped t ht)).bind
      fun types htypesRead => ?_
    have htypesOf : typesOf (.map entries) = types := by
      rw [typesOf, htypeList, Outcome.ok_bind, htypesRead]
    rw [htypesOf] at hitemShaped
    refine (Only.mapM fun item hmem => Item.only_read (hitemShaped item hmem)).bind
      fun items _ => ?_
    exact (Only.mapM fun panel hmem => Panel.only_read (hpanelShaped panel hmem)).bind
      fun panels _ => .ok _
  | _ => exact .error ⟨_, rfl⟩

theorem Snapshot.isShaped_of_read {d : Document} {s : Snapshot} (h : Snapshot.read d = .ok s) :
    isShaped d = true := by
  unfold Snapshot.read at h
  split at h
  · rename_i entries
    simp only [bind_eq_ok] at h
    obtain ⟨_, htypeList, types, htypes, _, hitemList, _, hitems, _, hpanelList, _, hpanels, -⟩ := h
    have htypesOf : typesOf (.map entries) = types := by
      rw [typesOf, htypeList, Outcome.ok_bind, htypes]
    simp only [isShaped, Bool.or_eq_true, Bool.and_eq_true, htypesOf]
    exact .inr ⟨⟨entryIs_of_mapM htypeList htypes fun _ _ => ItemType.isShaped_of_read,
      entryIs_of_mapM hitemList hitems fun _ _ => Item.isShaped_of_read⟩,
      entryIs_of_mapM hpanelList hpanels fun _ _ => Panel.isShaped_of_read⟩
  · cases h

/-- A document with the shape of a snapshot is read or has a defect, and no other fault. A document
without it is not read. The shape of a time stamp is that of one within the calendar when local time
is universal time (`Stamp.moment?`, `Epoch.ofSeconds`). -/
theorem Snapshot.read_shaped (d : Document) :
    (isShaped d = true →
      (∃ s, Snapshot.read d = .ok s) ∨ ∃ defect, Snapshot.read d = .error (.defect defect)) ∧
    (isShaped d = false → ∃ fault, Snapshot.read d = .error fault) := by
  constructor
  · intro h
    cases hread : Snapshot.read d with
    | ok s => exact .inl ⟨s, rfl⟩
    | error e =>
      obtain ⟨defect, rfl⟩ := Snapshot.only_read h e hread
      exact .inr ⟨defect, rfl⟩
  · intro h
    cases hread : Snapshot.read d with
    | ok s =>
      rw [isShaped_of_read hread] at h
      cases h
    | error fault => exact ⟨fault, rfl⟩

/-- Meetings with a panel of those that took place, compared with some operator. -/
def Document.meetings (operator : String) : Document := .ofFields [
  ("types", .list [.ofFields [("id", .text "meeting"), ("name", .text "Reunión"),
    ("properties", .list [
      .ofFields [("id", .text "day"), ("type", .text "datetime")],
      .ofFields [("id", .text "room"), ("type", .text "select"),
        ("options", .list [.text "Norte", .text "Sur"])]])]]),
  ("objects", .list [.ofFields [("id", .text "m"), ("type", .text "meeting"),
    ("properties", .ofFields [("day", .text "2031-03-09T10:00Z"), ("held", .bool true)]),
    ("tags", .list [.text "ventas"]), ("createdAt", .int 1900000000000),
    ("embedding", .list [.int 1, .text "0.5"])]]),
  ("panels", .list [.ofFields [("id", .text "p"), ("displayMode", .text "list"),
    ("maxItems", .text "5"),
    ("query", .ofFields [
      ("propertyFilters", .list [.ofFields [("propertyId", .text "held"),
        ("operator", .text operator), ("value", .bool true)]]),
      ("dateRange", .ofFields [("start", .int 0), ("end", .text "hoy")])]),
    ("chartConfig", .ofFields [("type", .text "bar")])]])]

theorem Snapshot.read_shaped_meetings :
    (isShaped (meetings "equals") = true ∧ ∃ s, Snapshot.read (meetings "equals") = .ok s) ∧
    (isShaped (meetings "near") = true ∧ Snapshot.read (meetings "near") =
      .error (.defect (.badQuery (.notAMember "'near'" "FilterOperator")))) ∧
    isShaped (.ofFields [("objects", .int 5)]) = false ∧
      ∃ fault, Snapshot.read (.ofFields [("objects", .int 5)]) = .error fault := by
  have hequals : isShaped (meetings "equals") = true := by decide +kernel
  have hobjects : isShaped (.ofFields [("objects", .int 5)]) = false := by decide +kernel
  have hok : (Snapshot.read (meetings "equals")).isOk = true := by decide +kernel
  refine ⟨⟨hequals, ((Snapshot.read_shaped (meetings "equals")).1 hequals).resolve_right ?_⟩,
    ⟨?_, ?_⟩, hobjects, (Snapshot.read_shaped (.ofFields [("objects", .int 5)])).2 hobjects⟩
  · rintro ⟨defect, hdefect⟩
    rw [hdefect] at hok
    cases hok
  all_goals decide +kernel

def Document.createdAt (d : Document) : Document := .ofFields [
  ("objects", .list [.ofFields [("id", .text "a"), ("type", .text "task"), ("createdAt", d)]])]

/-- A number stands where the types are listed, a text where a query is described and a word where
the items of a panel are counted; three integers stand for times that have no moment. Each has a
fault that is no defect, and they are of five kinds. -/
theorem Snapshot.read_unreported :
    Snapshot.read (.ofFields [("types", .int 5)]) = .error .wrongKind ∧
    Snapshot.read (.ofFields [("panels", .list [.ofFields [("id", .text "p"),
      ("query", .text "x")]])]) = .error .noField ∧
    Snapshot.read (.ofFields [("panels", .list [.ofFields [("id", .text "p"),
      ("maxItems", .text "x")]])]) = .error (.invalid .unreadable) ∧
    Snapshot.read (createdAt (.int (10 ^ 15))) = .error (.invalid (.yearOutOfRange 33658)) ∧
    Snapshot.read (createdAt (.int (10 ^ 400))) = .error .outOfRange ∧
    Snapshot.read (createdAt (.int (10 ^ 20))) = .error .beyondClock := by
  refine ⟨?_, ?_, ?_, ?_, ?_, ?_⟩
  all_goals decide +kernel

end Cuaderno
