import Cuaderno.Proofs.Calendar.Beyond
import Cuaderno.Proofs.Snapshot.Accepted
import Cuaderno.Proofs.Snapshot.Shaped
import Mathlib.Data.List.Nodup

/-!
# Types that share an id

Nothing keeps a document from declaring several types with one id. The properties of an item are
read under the last of them, but the catalog that queries and searches look at holds the first. Only
the text of a stamp is read in another way under another type: as a moment where its property is
temporal, and as it is where it is not. So a stored value is the one that its entry has under the
catalog unless its entry is such a text and the two types disagree about the property
(`Snapshot.read_values`), which cannot happen when the ids are distinct.
-/

namespace Cuaderno

open Document Outcome

section Found

variable {types : List ItemType} {t : ItemType} {id : String}

private theorem ItemType.of_find?_eq_some (h : types.find? (·.id == id) = some t) :
    t ∈ types ∧ t.id = id := by
  have hid := List.find?_some h
  rw [beq_iff_eq] at hid
  exact ⟨List.mem_of_find?_eq_some h, hid⟩

private theorem ItemType.find?_eq_none :
    types.find? (·.id == id) = none ↔ ∀ t ∈ types, t.id ≠ id := by
  simp

end Found

private theorem Catalog.type?_add (c : Catalog) (t : ItemType) (id : String) :
    (c.add t).type? id = (c.types ++ [t]).find? (·.id == id) := by
  unfold add
  split
  · rename_i hmem
    -- a type that is left out comes behind one with the same id
    rw [List.find?_append, type?]
    cases hfound : c.types.find? (·.id == id) with
    | some own => rfl
    | none =>
      have hne : t.id ≠ id := by
        rintro rfl
        obtain ⟨own, hown, hid⟩ := List.mem_map.1 hmem
        exact ItemType.find?_eq_none.1 hfound own hown hid
      simp [hne]
  · rfl

private theorem Catalog.type?_foldl_add (types : List ItemType) (c : Catalog) (id : String) :
    (types.foldl add c).type? id = (c.types ++ types).find? (·.id == id) := by
  induction types generalizing c with
  | nil => rw [List.append_nil]; rfl
  | cons t types ih =>
    have hadd := c.type?_add t id
    rw [type?, List.find?_append] at hadd
    rw [List.foldl_cons, ih, List.find?_append, hadd, List.append_cons, List.find?_append,
      List.find?_append]

/-- A catalog of types has the first type with an id. -/
theorem Catalog.type?_ofTypes (types : List ItemType) (id : String) :
    (ofTypes types).type? id = types.find? (·.id == id) :=
  type?_foldl_add types empty id

/-- Where ids are distinct, the first type with an id is the last. -/
theorem ItemType.last?_eq_find? {types : List ItemType} (h : (types.map (·.id)).Nodup)
    (id : String) : last? types id = types.find? (·.id == id) := by
  cases hlast : last? types id with
  | none =>
    symm
    rw [ItemType.find?_eq_none]
    intro t ht
    exact ItemType.find?_eq_none.1 hlast t (List.mem_reverse.2 ht)
  | some t =>
    obtain ⟨ht, hid⟩ := ItemType.of_find?_eq_some hlast
    rw [List.mem_reverse] at ht
    cases hfirst : types.find? (·.id == id) with
    | none => exact absurd hid (ItemType.find?_eq_none.1 hfirst t ht)
    | some u =>
      obtain ⟨hu, huid⟩ := ItemType.of_find?_eq_some hfirst
      rw [List.inj_on_of_nodup_map h ht hu (hid.trans huid.symm)]

private theorem Iso.stamp?_withoutZ_of_head? {cs : List Char}
    (h : ∀ c ∈ cs.head?, isDigit c = false) : stamp? (withoutZ cs) = none := by
  rw [Option.eq_none_iff_forall_ne_some]
  intro s hs
  obtain ⟨d, rest, htext, hd⟩ := exists_isDigit_of_stamp? hs
  cases cs with
  | nil => cases htext
  | cons c cs =>
    -- neither the character nor the sign that is written for `Z` is a digit
    rw [withoutZ, List.flatMap_cons] at htext
    split at htext
    · cases htext
      cases hd
    · cases htext
      rw [h d rfl] at hd
      cases hd

/-- Whether a document is a text that writes a stamp. -/
def Document.writesStamp : Document → Bool
  | .text s => (Iso.stamp? (withoutZ s.toList)).isSome
  | _ => false

namespace Value

variable {p q : Option Property} {s : String}

theorem readText_congr (h : p.any (·.kind.isTemporal) = q.any (·.kind.isTemporal)) (s : String) :
    readText s p = readText s q := by
  rw [readText, readText, h]

private theorem readText_of_not_isTemporal (h : p.any (·.kind.isTemporal) = false) (s : String) :
    readText s p = .ok (.text s) := by
  rw [readText, h, Bool.false_and]
  rfl

private theorem readText_of_stamp?_eq_none (h : Iso.stamp? (withoutZ s.toList) = none)
    (p : Option Property) : readText s p = .ok (.text s) := by
  have hmoment : Moment.readText s = .error (.defect (.badTimestamp (shownText s))) := by
    rw [Moment.readText, h]
  rw [readText, hmoment]
  exact ite_self _

/-- The text of a stamp does not stay a text under a temporal property. -/
theorem readText_ne_text (h : (Iso.stamp? (withoutZ s.toList)).isSome)
    (hp : p.any (·.kind.isTemporal) = true) : readText s p ≠ .ok (.text s) := by
  obtain ⟨stamp, hstamp⟩ := Option.isSome_iff_exists.1 h
  have hne : (s != "") = true := by
    rw [bne_iff_ne]
    rintro rfl
    cases h
  have hread : Moment.readText s = stamp.moment := by
    rw [Moment.readText, hstamp]
  rw [readText, hp, hne, hread, Bool.and_self, if_pos rfl]
  cases hmoment : stamp.moment with
  | ok m => simp
  | error e =>
    obtain ⟨rfl, -⟩ := Stamp.moment_eq_error.1 hmoment
    simp

/-- The texts of mappings and of values start with no digit, so that they write no stamp. -/
theorem stamp?_plain_eq_none {d : Document}
    (h : (∃ entries, d = .map entries) ∨ ∃ v, d = .value v) :
    Iso.stamp? (withoutZ d.plain.toList) = none := by
  apply Iso.stamp?_withoutZ_of_head?
  rcases h with ⟨entries, rfl⟩ | ⟨v, rfl⟩
  · simp only [plain, Document.shown, String.toList_append]
    rintro c ⟨⟩
    decide
  · cases v
    all_goals
      simp only [plain, Document.shown, Value.shown, kindName, String.toList_append]
      rintro c ⟨⟩
      decide

/-- Only the text of a stamp is read in another way under another property. -/
theorem read_congr {d : Document}
    (h : d.writesStamp = true → p.any (·.kind.isTemporal) = q.any (·.kind.isTemporal)) :
    Value.read d p = Value.read d q := by
  have hspelled (hnone : Iso.stamp? (withoutZ d.plain.toList) = none) :
      (do return some (← readText (← d.spell) p)) =
        (do return some (← readText (← d.spell) q) : Except Fault (Option Value)) := by
    rw [spell]
    split
    · rw [ok_bind, ok_bind, readText_of_stamp?_eq_none hnone, readText_of_stamp?_eq_none hnone]
    · rfl
  -- only texts are read under a property, those of mappings and values among them
  cases d with
  | text s =>
    rw [read_text, read_text]
    cases hs : Iso.stamp? (withoutZ s.toList) with
    | none => rw [readText_of_stamp?_eq_none hs, readText_of_stamp?_eq_none hs]
    | some stamp => rw [readText_congr (h (by rw [writesStamp, hs]; rfl))]
  | map entries => exact hspelled (stamp?_plain_eq_none (.inl ⟨entries, rfl⟩))
  | value v => exact hspelled (stamp?_plain_eq_none (.inr ⟨v, rfl⟩))
  | _ => rfl

/-- The text of a stamp is read as two values under two properties of which one is temporal. -/
theorem read_ne_of_writesStamp {d : Document} {v : Value} (hd : d.writesStamp = true)
    (h : p.any (·.kind.isTemporal) ≠ q.any (·.kind.isTemporal))
    (hp : Value.read d p = .ok (some v)) : Value.read d q ≠ .ok (some v) := by
  cases d with
  | text s =>
    rw [read_text] at hp ⊢
    intro hq
    obtain ⟨own, hown, heq⟩ := bind_eq_ok.1 hp
    cases heq
    obtain ⟨own, hownq, heq⟩ := bind_eq_ok.1 hq
    cases heq
    cases htemporal : p.any (·.kind.isTemporal) with
    | true =>
      rw [htemporal, ne_comm, ne_eq, Bool.not_eq_true] at h
      rw [readText_of_not_isTemporal h] at hownq
      cases hownq
      exact readText_ne_text hd htemporal hown
    | false =>
      rw [htemporal, ne_comm, ne_eq, Bool.not_eq_false] at h
      rw [readText_of_not_isTemporal htemporal] at hown
      cases hown
      exact readText_ne_text hd h hownq
  | _ => cases hd

end Value

/-- Whether a record gives a document to a property: it is not null, and no entry behind it is
written for the same property, such as that of an integer with the same text. -/
def Document.Gives (record : Document) (id : String) (raw : Document) : Prop :=
  ∃ before after, record.entry? "properties" = some (.map (before ++ (.text id, raw) :: after)) ∧
    raw ≠ .null ∧ ∀ entry ∈ after, entry.1.name = id → entry.2 = .null

namespace Item

variable {type : Option ItemType} {properties more : List (String × Value)} {id : String}

/-- An entry that is not null is written as the value that it is read as. -/
theorem lookup_readProperty {raw : Document} (hraw : raw ≠ .null)
    (h : readProperty type properties (.text id, raw) = .ok more) :
    ∃ v, more.lookup id = some v ∧
      Value.read raw (type.bind (·.property? id)) = .ok (some v) := by
  obtain ⟨v, hv, h⟩ := bind_eq_ok.1 h
  cases v with
  | none =>
    have hnull := Value.isNull_of_read hv
    cases raw with
    | null => exact absurd rfl hraw
    | _ => cases hnull
  | some v =>
    cases h
    exact ⟨v, Fields.lookup_put_self id v properties, hv⟩

/-- An entry of another property, or null, leaves a property as it is. -/
theorem lookup_readProperty_of_ne {entry : Key × Document}
    (hentry : entry.1.name = id → entry.2 = .null)
    (h : readProperty type properties entry = .ok more) :
    more.lookup id = properties.lookup id := by
  obtain ⟨key, d⟩ := entry
  obtain ⟨v, hv, h⟩ := bind_eq_ok.1 h
  cases v with
  | none =>
    cases h
    rfl
  | some v =>
    obtain ⟨name, hname, h⟩ := bind_eq_ok.1 h
    cases h
    have hne : id ≠ name := by
      rintro rfl
      rw [Key.spell] at hname
      split at hname
      · cases hname
        cases hentry rfl
        cases hv
      · cases hname
    exact Fields.lookup_put_of_ne hne v properties

private theorem lookup_foldlM_readProperty {entries : List (Key × Document)}
    (hentries : ∀ entry ∈ entries, entry.1.name = id → entry.2 = .null)
    (h : entries.foldlM (readProperty type) properties = .ok more) :
    more.lookup id = properties.lookup id := by
  induction entries generalizing properties with
  | nil =>
    cases h
    rfl
  | cons entry entries ih =>
    rw [List.foldlM_cons] at h
    obtain ⟨next, hnext, h⟩ := bind_eq_ok.1 h
    rw [ih (fun e he => hentries e (List.mem_cons_of_mem _ he)) h,
      lookup_readProperty_of_ne (hentries entry (List.mem_cons_self ..)) hnext]

/-- An item has, for what its record gives to a property, the value under the last type with its
id. -/
theorem value?_of_gives {types : List ItemType} {record raw : Document} {item : Item}
    (h : Item.read types record = .ok item) (hgives : record.Gives id raw) :
    ∃ v, item.value? id = some v ∧ Value.read raw
      ((ItemType.last? types item.typeId).bind (·.property? id)) = .ok (some v) := by
  obtain ⟨before, after, hentry, hraw, hafter⟩ := hgives
  obtain ⟨⟨stored, hstored, hproperties⟩, -⟩ := parts_of_read h
  have hmap : stored = .map (before ++ (.text id, raw) :: after) := by
    obtain ⟨o, ho, heq⟩ := bind_eq_ok.1 hstored
    cases heq
    rw [(entry?_of_field? ho).2] at hentry
    rw [hentry]
    rfl
  have hpresent : stored.isPresent = true := by
    rw [hmap, isPresent]
    cases before <;> rfl
  rw [if_pos hpresent, hmap, readProperties, Document.entries, ok_bind, List.foldlM_append]
    at hproperties
  obtain ⟨first, -, hproperties⟩ := bind_eq_ok.1 hproperties
  rw [List.foldlM_cons] at hproperties
  obtain ⟨next, hnext, hproperties⟩ := bind_eq_ok.1 hproperties
  obtain ⟨v, hlookup, hv⟩ := lookup_readProperty hraw hnext
  rw [value?, lookup_foldlM_readProperty hafter hproperties]
  exact ⟨v, hlookup, hv⟩

end Item

namespace Snapshot

/-- The property under which the entries of the items of a snapshot were read. -/
def loadedProperty? (s : Snapshot) (typeId id : String) : Option Property :=
  (ItemType.last? s.types typeId).bind (·.property? id)

/-- Whether an entry is read in another way under the catalog of a snapshot than it was read when
the snapshot was: it is the text of a stamp, and only one of the two properties is temporal. -/
def ReadsApart (s : Snapshot) (typeId id : String) (raw : Document) : Prop :=
  raw.writesStamp = true ∧ (s.loadedProperty? typeId id).any (·.kind.isTemporal) ≠
    (s.catalog.property? typeId id).any (·.kind.isTemporal)

variable {s : Snapshot}

/-- Where the ids of types are distinct, the catalog has the property that entries were read
under. -/
theorem catalog_property?_eq (h : (s.types.map (·.id)).Nodup) (typeId id : String) :
    s.catalog.property? typeId id = s.loadedProperty? typeId id := by
  rw [Catalog.property?, catalog, Catalog.type?_ofTypes, loadedProperty?,
    ItemType.last?_eq_find? h]

private theorem not_readsApart (h : (s.types.map (·.id)).Nodup) (typeId id : String)
    (raw : Document) :
    ¬ s.ReadsApart typeId id raw := by
  rintro ⟨-, hne⟩
  rw [catalog_property?_eq h] at hne
  exact hne rfl

theorem read_catalog_iff {typeId id : String} {raw : Document} {v : Value}
    (h : Value.read raw (s.loadedProperty? typeId id) = .ok (some v)) :
    Value.read raw (s.catalog.property? typeId id) = .ok (some v) ↔
      ¬ s.ReadsApart typeId id raw := by
  constructor
  · rintro hcatalog ⟨hstamp, hne⟩
    exact Value.read_ne_of_writesStamp hstamp hne h hcatalog
  · intro hagree
    rw [← h]
    refine Value.read_congr fun hstamp => ?_
    by_contra hne
    exact hagree ⟨hstamp, Ne.symm hne⟩

/-- In the items of a snapshot that was read, each entry of a property has a value: the one that it
has under the last type with the id of the item's type. It is the value that it has under the
catalog unless the two types read it apart, and no types do when their ids are distinct. -/
theorem read_values {d : Document} (h : Snapshot.read d = .ok s) :
    (∃ records, d.fieldList "objects" = .ok records ∧
      List.Forall₂ (fun record item => ∀ id raw, record.Gives id raw →
        ∃ v, item.value? id = some v ∧
          Value.read raw (s.loadedProperty? item.typeId id) = .ok (some v) ∧
          (Value.read raw (s.catalog.property? item.typeId id) = .ok (some v) ↔
            ¬ s.ReadsApart item.typeId id raw)) records s.items) ∧
      ((s.types.map (·.id)).Nodup → ∀ typeId id raw, ¬ s.ReadsApart typeId id raw) := by
  refine ⟨?_, not_readsApart⟩
  cases d with
  | map entries =>
    obtain ⟨typeRecords, -, h⟩ := bind_eq_ok.1 h
    obtain ⟨types, -, h⟩ := bind_eq_ok.1 h
    obtain ⟨records, hrecords, h⟩ := bind_eq_ok.1 h
    obtain ⟨items, hitems, h⟩ := bind_eq_ok.1 h
    obtain ⟨panelRecords, -, h⟩ := bind_eq_ok.1 h
    obtain ⟨panels, -, h⟩ := bind_eq_ok.1 h
    cases h
    refine ⟨records, hrecords, (mapM_eq_ok.1 hitems).imp ?_⟩
    intro record item hitem id raw hgives
    obtain ⟨v, hvalue, hread⟩ := Item.value?_of_gives hitem hgives
    exact ⟨v, hvalue, hread, read_catalog_iff hread⟩
  | _ => cases h

def taskDocument (types : List Document) (entries : List (Key × Document)) : Document := .ofFields [
  ("types", .list types),
  ("objects", .list [.ofFields [("id", .text "a"), ("type", .text "task"),
    ("properties", .map entries)]])]

def datedTask : Document := .ofFields [("id", .text "task"),
  ("properties", .list [.ofFields [("id", .text "due"), ("type", .text "date")]])]

theorem read_values_datedTask : ∃ s item v,
    Snapshot.read (taskDocument [datedTask] [(.text "due", .text "2024-05-15")]) = .ok s ∧
      s.items = [item] ∧ item.value? "due" = some v ∧
      Value.read (.text "2024-05-15") (s.catalog.property? item.typeId "due") = .ok (some v) := by
  obtain ⟨s, hs⟩ : ∃ s, Snapshot.read
      (taskDocument [datedTask] [(.text "due", .text "2024-05-15")]) = .ok s := ⟨_, rfl⟩
  have hdistinct : (s.types.map (·.id)).Nodup := by
    cases hs
    decide
  obtain ⟨⟨records, hrecords, hitems⟩, hagree⟩ := read_values hs
  cases hrecords
  generalize hown : s.items = items at hitems
  cases hitems with
  | cons hitem hrest =>
    cases hrest
    obtain ⟨v, hvalue, -, hcatalog⟩ :=
      hitem "due" (.text "2024-05-15") ⟨[], [], rfl, by simp, by simp⟩
    exact ⟨s, _, v, hs, hown, hvalue, hcatalog.2 (hagree hdistinct _ _ _)⟩

def namedTask (name text : String) : Item where
  id := "a"
  typeId := "task"
  title := ""
  content := ""
  properties := [(name, .text text)]
  tags := []
  links := []
  backlinks := []
  created := .first
  updated := .first
  embedding := none

/-- A type of tasks without a date comes behind one with it. The day of a task is stored as a text,
although the catalog has a date for it, under which it is a moment. And an entry is lost when an
integer with its name comes behind it. -/
theorem read_apart :
    (∃ s, Snapshot.read (taskDocument [datedTask, .ofFields [("id", .text "task")]]
        [(.text "due", .text "2024-05-15")]) = .ok s ∧
      s.items = [namedTask "due" "2024-05-15"] ∧
      Value.read (.text "2024-05-15") (s.catalog.property? "task" "due") =
        .ok (some (.moment (.startOf ⟨2024, 5, 15, by decide⟩)))) ∧
    Snapshot.read (taskDocument [] [(.text "1", .text "a"), (.int 1, .text "b")]) =
      .ok { items := [namedTask "1" "b"] } := by
  refine ⟨⟨_, rfl, rfl, ?_⟩, ?_⟩
  all_goals decide +kernel

end Snapshot

end Cuaderno
