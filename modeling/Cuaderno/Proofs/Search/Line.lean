import Cuaderno.Proofs.Search.Tokens

/-!
# What a search line asks for

The form of a token decides what it stands for: a type, a tag, a value for a property or free text
(`Kind.Fits`, `fits_iff`). The request keeps all of them, each kind in the order of the tokens, but
for the values that a later one under the same name replaces (`routed_ofLine`). Together with what
the tokens keep of the line this says that a request loses nothing (`ofLine_conserves`).
-/

namespace Cuaderno.Search

/-- A token that writes a value under a name: the name is not made of digits alone, as in a time,
and the value does not start with two slashes, as in an address. -/
structure Named (t name value : List Char) : Prop where
  split : t = name ++ ':' :: value
  colon : ':' ∉ name
  quote : '"' ∉ name
  letter : ∃ c ∈ name, Text.isDigitCharacter c = false
  value_ne_nil : value ≠ []
  line : '\n' ∉ value
  slashes : ¬ ['/', '/'] <+: value

/-- A text is cut before its first colon when no quote comes before that. -/
theorem cut_iff {t name value : List Char} :
    t.takeWhile (fun c => c != ':' && c != '"') = name ∧
        t.dropWhile (fun c => c != ':' && c != '"') = ':' :: value ↔
      t = name ++ ':' :: value ∧ ':' ∉ name ∧ '"' ∉ name := by
  constructor
  · rintro ⟨rfl, hdrop⟩
    have hkept : ∀ c ∈ t.takeWhile fun c => c != ':' && c != '"', c ≠ ':' ∧ c ≠ '"' := by
      intro c hc
      simpa using List.mem_takeWhile_imp hc
    refine ⟨?_, fun h => (hkept _ h).1 rfl, fun h => (hkept _ h).2 rfl⟩
    rw [← hdrop, List.takeWhile_append_dropWhile]
  · rintro ⟨rfl, hcolon, hquote⟩
    have hkeep : ∀ c ∈ name, (c != ':' && c != '"') = true := by
      intro c hc
      simp [ne_of_mem_of_not_mem hc hcolon, ne_of_mem_of_not_mem hc hquote]
    rw [List.takeWhile_append_of_pos hkeep, List.dropWhile_append_of_pos hkeep]
    simp

theorem nameAndValue?_eq_some_iff {t name value : List Char} :
    nameAndValue? t = some (name, value) ↔ Named t name value := by
  constructor
  · intro h
    unfold nameAndValue? at h
    dsimp only at h
    split at h
    · rename_i rest hdrop
      split at h
      · cases h
      · rename_i hgiven
        split at h
        · cases h
        · rename_i hform
          cases h
          obtain ⟨hsplit, hcolon, hquote⟩ := cut_iff.1 ⟨rfl, hdrop⟩
          rw [Bool.or_eq_true, Bool.or_eq_true, not_or, not_or] at hgiven
          rw [Bool.or_eq_true, not_or] at hform
          exact {
            split := hsplit
            colon := hcolon
            quote := hquote
            letter := by simpa only [List.all_eq_true, not_forall, exists_prop, Bool.not_eq_true]
              using hform.1
            value_ne_nil := fun hnil => hgiven.1.2 (List.isEmpty_iff.2 hnil)
            line := fun hmem => hgiven.2 (List.contains_iff_mem.2 hmem)
            slashes := fun hprefix => hform.2 (List.isPrefixOf_iff_prefix.2 hprefix) }
    · cases h
  · intro h
    obtain ⟨htake, hdrop⟩ := cut_iff.2 ⟨h.split, h.colon, h.quote⟩
    have hname : name ≠ [] := by
      obtain ⟨c, hc, -⟩ := h.letter
      exact List.ne_nil_of_mem hc
    have hdigits : ¬ name.all Text.isDigitCharacter = true := by
      obtain ⟨c, hc, hletter⟩ := h.letter
      intro hall
      rw [List.all_eq_true.1 hall c hc] at hletter
      cases hletter
    have hslashes : ¬ ['/', '/'].isPrefixOf value = true := by
      rw [List.isPrefixOf_iff_prefix]
      exact h.slashes
    unfold nameAndValue?
    rw [htake, hdrop]
    simp [hname, h.value_ne_nil, h.line, hdigits, hslashes]

/-- What a token may stand for. -/
inductive Kind where
  | type
  | tag
  | property
  | free
  deriving DecidableEq, Repr

/-- Whether a token starts with a sign and goes on. -/
def Signed (sign : Char) (t : List Char) : Prop := t.head? = some sign ∧ 1 < t.length

instance (sign : Char) (t : List Char) : Decidable (Signed sign t) :=
  inferInstanceAs (Decidable (_ ∧ _))

instance (t : List Char) : Decidable (∃ name value, Named t name value) :=
  decidable_of_iff ((nameAndValue? t).isSome = true) <| by
    simp only [Option.isSome_iff_exists, Prod.exists, nameAndValue?_eq_some_iff]

/-- Whether a token has the form of a kind. A sign decides before a colon does. -/
def Kind.Fits (t : List Char) : Kind → Prop
  | .type => Signed '/' t
  | .tag => Signed '#' t
  | .property => ¬ Signed '/' t ∧ ¬ Signed '#' t ∧ ∃ name value, Named t name value
  | .free => ¬ Signed '/' t ∧ ¬ Signed '#' t ∧ ¬ ∃ name value, Named t name value

instance (kind : Kind) (t : List Char) : Decidable (kind.Fits t) := by
  cases kind <;> unfold Kind.Fits <;> infer_instance

def bare (t : List Char) : String := String.ofList (unquoted t)

/-- Whether a token writes a value for a property. -/
def Assigns (t : List Char) (p : String × String) : Prop :=
  ∃ name value, Named t name value ∧ p = (String.ofList name, bare value)

def Part.kind : Part → Kind
  | .type _ => .type
  | .tag _ => .tag
  | .property _ _ => .property
  | .free _ => .free

private theorem exists_of_signed {sign : Char} {t : List Char} (h : Signed sign t) :
    ∃ c rest, t = sign :: c :: rest := by
  obtain ⟨hhead, hlength⟩ := h
  match t with
  | [] => cases hhead
  | [_] => exact absurd hlength (Nat.lt_irrefl 1)
  | s :: c :: rest =>
    cases hhead
    exact ⟨c, rest, rfl⟩

private theorem ofToken_of_type {t : List Char} (h : Kind.type.Fits t) :
    Part.ofToken t = .type (bare t.tail) := by
  obtain ⟨c, rest, rfl⟩ := exists_of_signed h
  rfl

private theorem ofToken_of_tag {t : List Char} (h : Kind.tag.Fits t) :
    Part.ofToken t = .tag (bare t.tail) := by
  obtain ⟨c, rest, rfl⟩ := exists_of_signed h
  rfl

private theorem ofToken_of_not_signed {t : List Char} (htype : ¬ Signed '/' t)
    (htag : ¬ Signed '#' t) :
    Part.ofToken t = match nameAndValue? t with
      | some (name, value) => .property (String.ofList name) (bare value)
      | none => .free (bare t) := by
  unfold Part.ofToken
  dsimp only
  split
  · exact absurd ⟨rfl, by simp⟩ htype
  · exact absurd ⟨rfl, by simp⟩ htag
  · rfl

private theorem ofToken_of_property {t : List Char} (h : Kind.property.Fits t) :
    ∃ p, Part.ofToken t = .property p.1 p.2 ∧ Assigns t p := by
  obtain ⟨htype, htag, name, value, hnamed⟩ := h
  refine ⟨(String.ofList name, bare value), ?_, name, value, hnamed, rfl⟩
  rw [ofToken_of_not_signed htype htag, nameAndValue?_eq_some_iff.2 hnamed]

private theorem ofToken_of_free {t : List Char} (h : Kind.free.Fits t) :
    Part.ofToken t = .free (bare t) := by
  obtain ⟨htype, htag, hnone⟩ := h
  rw [ofToken_of_not_signed htype htag]
  cases hnamed : nameAndValue? t with
  | none => rfl
  | some p => exact absurd ⟨p.1, p.2, nameAndValue?_eq_some_iff.1 hnamed⟩ hnone

private theorem exists_fits (t : List Char) : ∃ kind : Kind, kind.Fits t := by
  by_cases htype : Signed '/' t
  · exact ⟨.type, htype⟩
  by_cases htag : Signed '#' t
  · exact ⟨.tag, htag⟩
  by_cases hnamed : ∃ name value, Named t name value
  · exact ⟨.property, htype, htag, hnamed⟩
  · exact ⟨.free, htype, htag, hnamed⟩

private theorem kind_ofToken {t : List Char} {kind : Kind} (h : kind.Fits t) :
    (Part.ofToken t).kind = kind := by
  cases kind with
  | type =>
    rw [ofToken_of_type h]
    rfl
  | tag =>
    rw [ofToken_of_tag h]
    rfl
  | property =>
    obtain ⟨p, hp, -⟩ := ofToken_of_property h
    rw [hp]
    rfl
  | free =>
    rw [ofToken_of_free h]
    rfl

/-- A token has the form of the kind that it stands for, and of no other. -/
theorem fits_iff {t : List Char} {kind : Kind} : kind.Fits t ↔ (Part.ofToken t).kind = kind := by
  refine ⟨kind_ofToken, ?_⟩
  rintro rfl
  obtain ⟨kind, hkind⟩ := exists_fits t
  rwa [kind_ofToken hkind]

section OneKind

variable {β : Type} {kind : Kind} {field : Part → Option β}

/-- What the parts of one kind say is what its tokens say, in their order. -/
theorem forall₂_field {R : List Char → β → Prop}
    (hkind : ∀ t, kind.Fits t → ∃ b, field (Part.ofToken t) = some b ∧ R t b)
    (hother : ∀ part : Part, part.kind ≠ kind → field part = none) (ts : List (List Char)) :
    List.Forall₂ R (ts.filter (kind.Fits ·)) ((ts.map Part.ofToken).filterMap field) := by
  induction ts with
  | nil => exact .nil
  | cons t ts ih =>
    by_cases ht : kind.Fits t
    · obtain ⟨b, hb, hR⟩ := hkind t ht
      rw [List.filter_cons_of_pos (by simpa using ht), List.map_cons,
        List.filterMap_cons_some hb]
      exact .cons hR ih
    · have hnone : field (Part.ofToken t) = none := hother _ fun heq => ht (fits_iff.2 heq)
      rw [List.filter_cons_of_neg (by simpa using ht), List.map_cons,
        List.filterMap_cons_none hnone]
      exact ih

private theorem filterMap_field {out : List Char → β}
    (hkind : ∀ t, kind.Fits t → field (Part.ofToken t) = some (out t))
    (hother : ∀ part : Part, part.kind ≠ kind → field part = none) (ts : List (List Char)) :
    (ts.map Part.ofToken).filterMap field = (ts.filter (kind.Fits ·)).map out := by
  have hall : List.Forall₂ (fun t b => out t = b) (ts.filter (kind.Fits ·))
      ((ts.map Part.ofToken).filterMap field) :=
    forall₂_field (fun t ht => ⟨out t, hkind t ht, rfl⟩) hother ts
  rw [← List.forall₂_map_left_iff (R := Eq), List.forall₂_eq_eq_eq] at hall
  exact hall.symm

end OneKind

private theorem ofList_concat (pairs : List (String × String)) (p : String × String) :
    Fields.ofList (pairs ++ [p]) = Fields.put p.1 p.2 (Fields.ofList pairs) := by
  rw [Fields.ofList, Fields.putAll, List.foldl_append]
  rfl

private theorem names_ofList (pairs : List (String × String)) :
    (Fields.ofList pairs).map Prod.fst = (pairs.map Prod.fst).eraseDups := by
  induction pairs using List.reverseRecOn with
  | nil => rfl
  | append_singleton pairs p ih =>
    rw [ofList_concat, Fields.map_fst_put, ih, List.map_append, List.map_singleton]
    by_cases hp : p.1 ∈ pairs.map Prod.fst
    · rw [if_pos (List.mem_eraseDups.2 hp), Sorting.eraseDups_concat_of_mem hp]
    · rw [if_neg (mt List.mem_eraseDups.1 hp), Sorting.eraseDups_concat_of_not_mem hp]

/-- The last value under a name counts. -/
theorem lookup_ofList (pairs : List (String × String)) (name : String) :
    (Fields.ofList pairs).lookup name = pairs.reverse.lookup name := by
  induction pairs using List.reverseRecOn with
  | nil => rfl
  | append_singleton pairs p ih =>
    rw [ofList_concat, List.reverse_append, List.reverse_singleton, List.singleton_append]
    by_cases hname : name = p.1
    · rw [hname, Fields.lookup_put_self, List.lookup_cons_self]
    · rw [Fields.lookup_put_of_ne hname, ih, List.lookup_cons, beq_false_of_ne hname]

/-- A request that keeps what tokens stand for, each kind in their order. Of the values under one
name it keeps the last. -/
structure Routed (ts : List (List Char)) (r : Request) : Prop where
  types : r.types = (ts.filter (Kind.type.Fits ·)).map fun t => bare t.tail
  tags : r.tags = (ts.filter (Kind.tag.Fits ·)).map fun t => bare t.tail
  properties : ∃ pairs, List.Forall₂ Assigns (ts.filter (Kind.property.Fits ·)) pairs ∧
    r.properties.map Prod.fst = (pairs.map Prod.fst).eraseDups ∧
    ∀ name, r.properties.lookup name = pairs.reverse.lookup name
  text : r.text = " ".intercalate ((ts.filter (Kind.free.Fits ·)).map bare)

theorem routed_ofLine (line : String) : Routed (tokens line.toList) (Request.ofLine line) where
  types := by
    refine filterMap_field (fun t ht => ?_) (fun part hpart => ?_) _
    · rw [ofToken_of_type ht]
    · cases part with
      | type _ => exact absurd rfl hpart
      | _ => rfl
  tags := by
    refine filterMap_field (fun t ht => ?_) (fun part hpart => ?_) _
    · rw [ofToken_of_tag ht]
    · cases part with
      | tag _ => exact absurd rfl hpart
      | _ => rfl
  properties := by
    refine ⟨valuesOf (parts line), ?_, names_ofList _, lookup_ofList _⟩
    refine forall₂_field (fun t ht => ?_) (fun part hpart => ?_) _
    · obtain ⟨p, hp, hassigns⟩ := ofToken_of_property ht
      exact ⟨p, by rw [hp], hassigns⟩
    · cases part with
      | property _ _ => exact absurd rfl hpart
      | _ => rfl
  text := by
    refine congrArg (" ".intercalate ·) (filterMap_field (fun t ht => ?_) (fun part hpart => ?_) _)
    · rw [ofToken_of_free ht]
    · cases part with
      | free _ => exact absurd rfl hpart
      | _ => rfl

theorem Routed.eq_plain {ts : List (List Char)} {r : Request} (h : Routed ts r)
    (hfree : ∀ t ∈ ts, Kind.free.Fits t) : r = .plain (" ".intercalate (ts.map bare)) := by
  have hnone {kind : Kind} (hkind : kind ≠ .free) : ts.filter (kind.Fits ·) = [] := by
    refine List.filter_eq_nil_iff.2 fun t ht hfits => hkind ?_
    rw [← fits_iff.1 (hfree t ht), fits_iff.1 (of_decide_eq_true hfits)]
  have hall : ts.filter (Kind.free.Fits ·) = ts :=
    List.filter_eq_self.2 fun t ht => decide_eq_true (hfree t ht)
  obtain ⟨text, types, tags, properties⟩ := r
  obtain ⟨htypes, htags, ⟨pairs, hpairs, hnames, -⟩, htext⟩ := h
  rw [hnone (by decide)] at htypes htags hpairs
  rw [hall] at htext
  cases hpairs
  have hproperties : properties = [] := List.map_eq_nil_iff.1 hnames
  rw [Request.plain, Request.mk.injEq]
  exact ⟨htext, htypes, htags, hproperties⟩

private theorem fits_free {t : List Char} (htype : '/' ∉ t) (htag : '#' ∉ t) (hcolon : ':' ∉ t) :
    Kind.free.Fits t := by
  refine ⟨fun h => htype ?_, fun h => htag ?_, ?_⟩
  · exact List.mem_of_mem_head? h.1
  · exact List.mem_of_mem_head? h.1
  · rintro ⟨name, value, h⟩
    rw [h.split] at hcolon
    exact hcolon (List.mem_append_right _ List.mem_cons_self)

private theorem bare_of_not_mem {t : List Char} (h : '"' ∉ t) : bare t = String.ofList t := by
  have hhead : t.head? ≠ some '"' := fun hhead => h (List.mem_of_mem_head? hhead)
  simp [bare, unquoted, hhead]

/-- A line without signs, colons and quotes is free text, word by word. -/
theorem ofLine_eq_plain {line : String}
    (hsigns : ∀ sign ∈ ['/', '#', ':', '"'], sign ∉ line.toList) :
    Request.ofLine line =
      .plain (" ".intercalate ((Text.words line.toList).map String.ofList)) := by
  have htokenized := tokenized_tokens line.toList
  have hsign {sign : Char} (hmem : sign ∈ ['/', '#', ':', '"']) :
      ∀ t ∈ tokens line.toList, sign ∉ t :=
    fun t ht hsign => hsigns sign hmem (htokenized.subset t ht hsign)
  have hfree : ∀ t ∈ tokens line.toList, Kind.free.Fits t := fun t ht =>
    fits_free (hsign (by simp) t ht) (hsign (by simp) t ht) (hsign (by simp) t ht)
  have hbare : (tokens line.toList).map bare = (tokens line.toList).map String.ofList :=
    List.map_congr_left fun t ht => bare_of_not_mem (hsign (by simp) t ht)
  rw [(routed_ofLine line).eq_plain hfree, hbare, htokenized.eq_words (hsigns '"' (by simp))]

/-- Nothing of a line is lost but the blanks and the lone quote between its tokens. Every token has
the form of exactly one kind, and the request keeps the tokens of each kind in their order. -/
theorem ofLine_conserves (line : String) :
    (tokens line.toList).flatten = condensed false (paired line.toList) ∧
    (∀ t ∈ tokens line.toList, t ≠ [] ∧ ∃! kind : Kind, kind.Fits t) ∧
    Routed (tokens line.toList) (Request.ofLine line) ∧
    ((∀ sign ∈ ['/', '#', ':', '"'], sign ∉ line.toList) → Request.ofLine line =
      .plain (" ".intercalate ((Text.words line.toList).map String.ofList))) := by
  have htokenized := tokenized_tokens line.toList
  refine ⟨htokenized.flatten, fun t ht => ⟨htokenized.ne_nil t ht, ?_⟩, routed_ofLine line,
    ofLine_eq_plain⟩
  exact ⟨_, fits_iff.2 rfl, fun kind hkind => (fits_iff.1 hkind).symm⟩

example : Request.ofLine "/tarea #casa estado:hecho 10:30 estado:\"en curso\" \"a  b\" c\"d" =
    { text := "10:30 a  b c d", types := ["tarea"], tags := ["casa"],
      properties := [("estado", "en curso")] } := by
  decide +kernel

end Cuaderno.Search
