import Cuaderno.Proofs.QuickEntry.Phases
import Cuaderno.Text.Piece
import Mathlib.Tactic.Tauto

/-!
# The one reading of a quick entry

What a line means can be said without tokens and states: it is cut at its first `/`, at every `>`
and, in each segment behind the name, at the first `=`. The main theorem says that a scan accepts
exactly the lines of the grammar, and gives each of them the parts that these cuts give.
-/

namespace Cuaderno.QuickEntry

open Cuaderno.Text (isBlank trim trimStart cut)

/-! ## The grammar -/

/-- The word for a type: no sign in it, and not all blank. -/
def IsTypeWord (cs : List Char) : Prop :=
  (∀ c ∈ cs, c ≠ '@' ∧ c ≠ '/' ∧ c ≠ '>' ∧ c ≠ '=') ∧ trim cs ≠ []

/-- A name: no `>` in it, and not all blank. -/
def IsName (cs : List Char) : Prop := '>' ∉ cs ∧ trim cs ≠ []

def IsAssignment (cs : List Char) : Prop :=
  ∃ property value, cs = property ++ '=' :: value ∧ '>' ∉ cs ∧ '=' ∉ property ∧
    trim property ≠ []

/-- What may follow a name: assignments, and at the end a segment that is still being typed. -/
inductive AreSegments : List Char → Prop where
  | done : AreSegments []
  | unfinished {cs} (plain : '>' ∉ cs ∧ '=' ∉ cs) : AreSegments ('>' :: cs)
  | more {cs rest} (first : IsAssignment cs) (others : AreSegments rest) :
      AreSegments ('>' :: cs ++ rest)

/-- The lines of the grammar. -/
def IsEntryLine (line : List Char) : Prop :=
  ∃ blanks typed named rest, line = blanks ++ '@' :: (typed ++ '/' :: (named ++ rest)) ∧
    (∀ c ∈ blanks, isBlank c = true) ∧ IsTypeWord typed ∧ IsName named ∧ AreSegments rest

/-! ## The cuts of a line -/

/-- What a segment behind the name assigns: the text before its first `=` and the text behind it. -/
def assignment? (segment : List Char) : Option (String × String) :=
  match segment.dropWhile (· != '=') with
  | [] => none
  | _ :: value => some (trimmed (segment.takeWhile (· != '=')), trimmed value)

/-- The pairs whose name does not come again behind them. -/
def lastOfEach : List (String × String) → List (String × String)
  | [] => []
  | (name, value) :: rest =>
    if name ∈ rest.map Prod.fst then lastOfEach rest else (name, value) :: lastOfEach rest

/-- The cuts of a line that is a quick entry. -/
structure Cuts (line : List Char) where
  typed : List Char
  rest : List Char
  named : List Char
  segments : List (List Char)
  /-- The line is cut at the first `/`. -/
  opens : trimStart line = '@' :: (typed ++ '/' :: rest)
  isTypeWord : IsTypeWord typed
  /-- What follows is cut at every `>`. -/
  cut_rest : cut '>' rest = named :: segments
  named_ne : trim named ≠ []
  /-- Only the last segment may do without a `=`. -/
  closed : ∀ s ∈ segments.dropLast, '=' ∈ s
  property_ne : ∀ s ∈ segments, '=' ∈ s → trim (s.takeWhile (· != '=')) ≠ []

/-- The entry that the cuts of a line give. -/
def Cuts.entry {line : List Char} (c : Cuts line) : Entry :=
  ⟨trimmed c.typed, trimmed c.named, lastOfEach (c.segments.filterMap assignment?)⟩

/-! ## A segment and its assignment -/

private theorem assignment?_of_not_mem {segment : List Char} (h : '=' ∉ segment) :
    assignment? segment = none := by
  have hd : segment.dropWhile (· != '=') = [] := by
    rw [List.dropWhile_eq_nil_iff]
    intro c hc
    simp only [bne_iff_ne, ne_eq]
    rintro rfl
    exact h hc
  rw [assignment?, hd]

theorem takeWhile_equals {property : List Char} (h : '=' ∉ property) (value : List Char) :
    (property ++ '=' :: value).takeWhile (· != '=') = property := by
  have hp : ∀ c ∈ property, (c != '=') = true := by
    intro c hc
    simp only [bne_iff_ne, ne_eq]
    rintro rfl
    exact h hc
  simp [List.takeWhile_append_of_pos hp]

private theorem assignment?_append {property : List Char} (h : '=' ∉ property) (value : List Char) :
    assignment? (property ++ '=' :: value) = some (trimmed property, trimmed value) := by
  have hp : ∀ c ∈ property, (c != '=') = true := by
    intro c hc
    simp only [bne_iff_ne, ne_eq]
    rintro rfl
    exact h hc
  have hd : (property ++ '=' :: value).dropWhile (· != '=') = '=' :: value := by
    simp [List.dropWhile_append_of_pos hp]
  rw [assignment?, hd, takeWhile_equals h]

/-! ## The scan of all segments -/

/-- The pairs of the segments behind a name, after earlier ones; none when a segment is out of
place. -/
def assignAll? (pairs : List (String × String)) :
    List (List Char) → Option (List (String × String))
  | [] => some pairs
  | segment :: others =>
    match assignment? segment with
    | none => if others.isEmpty then some pairs else none
    | some (name, value) =>
      if name = "" then none
      else assignAll? (Fields.erase name pairs ++ [(name, value)]) others

private theorem not_mem_ends_property {seg : List Char} (hg : '>' ∉ seg) (he : '=' ∉ seg) :
    ∀ c ∈ seg, c ∉ Reading.property.ends := by
  intro c hc hm
  simp only [Reading.ends, List.mem_cons, List.not_mem_nil, or_false] at hm
  rcases hm with rfl | rfl
  · exact hg hc
  · exact he hc

theorem not_mem_ends_value {seg : List Char} (hg : '>' ∉ seg) :
    ∀ c ∈ seg, c ∉ Reading.value.ends := by
  intro c hc hm
  simp only [Reading.ends, List.mem_cons, List.not_mem_nil, or_false] at hm
  exact hg (hm ▸ hc)

/-- What a scan finds from the start of a segment behind the name on. -/
theorem outcome_segments {source cs : List Char} {p : Progress} (hr : p.reading = .property)
    (hs : source.drop p.segmentStart = cs) :
    outcome (p.scanFrom source p.segmentStart cs) =
      (assignAll? p.assignments (cut '>' cs)).map (⟨p.typeWord, p.name, ·⟩) := by
  induction hc : cut '>' cs generalizing p cs with
  | nil => exact absurd hc (Text.cut_ne_nil '>' cs)
  | cons segment others ih =>
    by_cases hg : '>' ∈ cs
    · obtain ⟨seg, rest, rfl, hseg⟩ := List.eq_append_cons_of_mem hg
      rw [Text.cut_append_cons hseg] at hc
      obtain ⟨rfl, hrest⟩ := List.cons.inj hc
      by_cases he : '=' ∈ seg
      · obtain ⟨property, value, rfl, hp⟩ := List.eq_append_cons_of_mem he
        simp only [List.mem_append, List.mem_cons, not_or] at hseg
        rw [List.append_assoc, List.cons_append] at hs ⊢
        rw [Progress.outcome_property hr hs (not_mem_ends_property hseg.1 hp)]
        rw [assignAll?, assignment?_append hp]
        by_cases hn : trimmed property = ""
        · simp only [if_pos hn, Option.map_none]
        · have hv := Progress.drop_behind hs
          simp only [if_neg hn]
          rw [Progress.outcome_value rfl rfl hv (not_mem_ends_value hseg.2.2)]
          exact ih rfl (Progress.drop_behind hv) hrest
      · have hne : others.isEmpty = false := by
          rw [List.isEmpty_eq_false_iff, ← hrest]
          exact Text.cut_ne_nil '>' rest
        rw [Progress.outcome_property_none hr (not_mem_ends_property hseg he)]
        simp [assignAll?, assignment?_of_not_mem he, hne]
    · rw [Text.cut_of_not_mem hg] at hc
      obtain ⟨rfl, rfl⟩ := List.cons.inj hc
      by_cases he : '=' ∈ cs
      · obtain ⟨property, value, rfl, hp⟩ := List.eq_append_cons_of_mem he
        simp only [List.mem_append, List.mem_cons, not_or] at hg
        rw [Progress.outcome_property hr hs (not_mem_ends_property hg.1 hp)]
        rw [assignAll?, assignment?_append hp]
        by_cases hn : trimmed property = ""
        · simp only [if_pos hn, Option.map_none]
        · simp only [if_neg hn]
          exact Progress.outcome_value_stop rfl rfl (Progress.drop_behind hs)
            (not_mem_ends_value hg.2.2)
      · rw [Progress.outcome_property_stop hr (not_mem_ends_property hg he)]
        simp [assignAll?, assignment?_of_not_mem he]

/-- What a scan finds from the start of the name on. -/
theorem outcome_named {source cs : List Char} {p : Progress} (hr : p.reading = .name)
    (hs : source.drop p.segmentStart = cs) {named : List Char} {segments : List (List Char)}
    (hc : cut '>' cs = named :: segments) :
    outcome (p.scanFrom source p.segmentStart cs) =
      if trimmed named = "" then none
      else (assignAll? p.assignments segments).map (⟨p.typeWord, trimmed named, ·⟩) := by
  by_cases hg : '>' ∈ cs
  · obtain ⟨seg, rest, rfl, hseg⟩ := List.eq_append_cons_of_mem hg
    rw [Text.cut_append_cons hseg] at hc
    obtain ⟨rfl, rfl⟩ := List.cons.inj hc
    rw [Progress.outcome_name hr hs (not_mem_ends_value hseg)]
    by_cases hn : trimmed seg = ""
    · simp only [if_pos hn]
    · simp only [if_neg hn]
      rw [outcome_segments rfl (Progress.drop_behind hs)]
  · rw [Text.cut_of_not_mem hg] at hc
    obtain ⟨rfl, rfl⟩ := List.cons.inj hc
    rw [Progress.outcome_name_stop hr hs (not_mem_ends_value hg)]
    rfl

/-! ## The scan of a line -/

private theorem entry?_of_at {s : String} {body : List Char}
    (h : trimStart s.toList = '@' :: body) :
    ∃ p : Progress, p.reading = .type ∧ p.assignments = [] ∧
      s.toList.drop p.segmentStart = body ∧
      entry? s = outcome (p.scanFrom s.toList p.segmentStart body) := by
  obtain ⟨k, hk, hd⟩ := dropWhile_blank_tokensFrom 0 s.toList
  rw [h, Nat.zero_add] at hk
  refine ⟨Progress.startSegment {} .type ⟨.at, ['@'], k⟩, rfl, rfl, ?_, ?_⟩
  · rw [h] at hd
    have hb : s.toList.drop (k + 1) = body := by
      rw [← List.drop_drop, hd, List.drop_one, List.tail_cons]
    exact hb
  · unfold entry? scan tokenize
    rw [hk, tokensFrom_sign rfl]
    rfl

theorem entry?_of_not_at {s : String} (h : ∀ body, trimStart s.toList ≠ '@' :: body) :
    entry? s = none := by
  obtain ⟨k, hk, -⟩ := dropWhile_blank_tokensFrom 0 s.toList
  unfold entry? scan tokenize
  rw [hk]
  cases ht : trimStart s.toList with
  | nil =>
    rw [tokensFrom]
    rfl
  | cons c cs =>
    have hc : kindOf c ≠ .at := by
      intro hat
      exact h cs (by rw [ht, kindOf_eq_at_iff.1 hat])
    rw [tokensFrom]
    simp only [if_neg hc]

private theorem exists_typeWord (body : List Char) :
    ∃ typed rest, body = typed ++ rest ∧ (∀ c ∈ typed, c ∉ Reading.type.ends) ∧
      ∀ d ∈ rest.head?, d ∈ Reading.type.ends := by
  refine ⟨body.takeWhile (!Reading.type.ends.contains ·),
    body.dropWhile (!Reading.type.ends.contains ·), List.takeWhile_append_dropWhile.symm, ?_, ?_⟩
  · intro c hc
    simpa using List.mem_takeWhile_imp hc
  · intro d hd
    have := List.head?_dropWhile_not (!Reading.type.ends.contains ·) body
    rw [Option.mem_def.1 hd] at this
    simpa using this

/-! ## Which pairs are kept -/

private theorem foldl_assign (pairs new : List (String × String)) :
    new.foldl (fun acc (name, value) => Fields.erase name acc ++ [(name, value)]) pairs =
      pairs.filter (fun q => q.1 ∉ new.map Prod.fst) ++ lastOfEach new := by
  induction new generalizing pairs with
  | nil =>
    have hf : pairs.filter (fun _ => true) = pairs := List.filter_eq_self.2 fun _ _ => rfl
    simp [lastOfEach, hf]
  | cons q new ih =>
    obtain ⟨name, value⟩ := q
    rw [List.foldl_cons, ih, List.filter_append, Fields.erase, List.filter_filter]
    have hf : pairs.filter (fun q => decide (q.1 ∉ new.map Prod.fst) && !decide (q.1 = name)) =
        pairs.filter (fun q => q.1 ∉ ((name, value) :: new).map Prod.fst) := by
      apply List.filter_congr
      intro q _
      by_cases hq : q.1 = name <;> simp [hq]
    by_cases hm : name ∈ new.map Prod.fst
    · rw [lastOfEach, if_pos hm, ← hf]
      simp [hm]
    · rw [lastOfEach, if_neg hm, ← hf]
      simp [hm]

/-- Segments are read exactly when each of them but the last assigns something, and none to an
empty name. -/
theorem assignAll?_eq_some_iff {pairs result : List (String × String)}
    {segments : List (List Char)} :
    assignAll? pairs segments = some result ↔
      (∀ s ∈ segments.dropLast, '=' ∈ s) ∧
      (∀ s ∈ segments, '=' ∈ s → trim (s.takeWhile (· != '=')) ≠ []) ∧
      (segments.filterMap assignment?).foldl
        (fun acc (name, value) => Fields.erase name acc ++ [(name, value)]) pairs = result := by
  induction segments generalizing pairs with
  | nil => simp [assignAll?]
  | cons segment others ih =>
    by_cases he : '=' ∈ segment
    · obtain ⟨property, value, rfl, hp⟩ := List.eq_append_cons_of_mem he
      rw [assignAll?, List.filterMap_cons, assignment?_append hp]
      by_cases hn : trimmed property = ""
      · have := trimmed_eq_empty_iff.1 hn
        simp only [if_pos hn]
        simp [takeWhile_equals hp, this]
      · have hne : trim property ≠ [] := fun h => hn (trimmed_eq_empty_iff.2 h)
        simp only [if_neg hn]
        rw [ih]
        cases others with
        | nil => simp [takeWhile_equals hp, hne]
        | cons o others => simp [takeWhile_equals hp, hne]
    · rw [assignAll?, List.filterMap_cons, assignment?_of_not_mem he]
      cases others with
      | nil => simp [he]
      | cons o others => simp [he]

/-! ## Scan and cuts agree -/

theorem not_mem_ends_type_iff {c : Char} :
    c ∉ Reading.type.ends ↔ c ≠ '@' ∧ c ≠ '/' ∧ c ≠ '>' ∧ c ≠ '=' := by
  simp [Reading.ends]

/-- The cuts of a line give what a scan of it gives. -/
theorem entry?_eq_of_cuts {s : String} (c : Cuts s.toList) : entry? s = some c.entry := by
  obtain ⟨p, hr, ha, hs, he⟩ := entry?_of_at c.opens
  have htyped : trimmed c.typed ≠ "" := fun h => c.isTypeWord.2 (trimmed_eq_empty_iff.1 h)
  have hnamed : trimmed c.named ≠ "" := fun h => c.named_ne (trimmed_eq_empty_iff.1 h)
  have hassign := assignAll?_eq_some_iff.2 ⟨c.closed, c.property_ne, foldl_assign [] _⟩
  rw [he, Progress.outcome_type hr hs fun d hd => not_mem_ends_type_iff.2 (c.isTypeWord.1 d hd)]
  simp only [if_neg htyped]
  rw [outcome_named rfl (Progress.drop_behind hs) c.cut_rest, if_neg hnamed, ha, hassign]
  rfl

theorem exists_cuts {s : String} {e : Entry} (h : entry? s = some e) :
    ∃ c : Cuts s.toList, c.entry = e := by
  by_cases hat : ∃ body, trimStart s.toList = '@' :: body
  · obtain ⟨body, hb⟩ := hat
    obtain ⟨p, hr, ha, hs, he⟩ := entry?_of_at hb
    obtain ⟨typed, rest, rfl, htyped, hrest⟩ := exists_typeWord body
    rw [he] at h
    by_cases hslash : ∃ tail, rest = '/' :: tail
    · obtain ⟨tail, rfl⟩ := hslash
      rw [Progress.outcome_type hr hs htyped] at h
      obtain ⟨named, segments, hc⟩ := List.exists_cons_of_ne_nil (Text.cut_ne_nil '>' tail)
      split at h
      · cases h
      · rename_i ht
        rw [outcome_named rfl (Progress.drop_behind hs) hc, ha] at h
        split at h
        · cases h
        · rename_i hn
          obtain ⟨pairs, hpairs, rfl⟩ := Option.map_eq_some_iff.1 h
          obtain ⟨hclosed, hne, rfl⟩ := assignAll?_eq_some_iff.1 hpairs
          refine ⟨⟨typed, tail, named, segments, hb, ⟨?_, ?_⟩, hc, ?_, hclosed, hne⟩, ?_⟩
          · exact fun c hc => not_mem_ends_type_iff.1 (htyped c hc)
          · exact fun h => ht (trimmed_eq_empty_iff.2 h)
          · exact fun h => hn (trimmed_eq_empty_iff.2 h)
          · rw [Cuts.entry, foldl_assign]
            rfl
    · rw [Progress.outcome_type_none hr htyped] at h
      · cases h
      · intro d hd
        have hne : d ≠ '/' := by
          rintro rfl
          obtain ⟨tail, ht⟩ := List.head?_eq_some_iff.1 hd
          exact hslash ⟨tail, ht⟩
        have hm := hrest d hd
        simp only [Reading.ends, List.mem_cons, List.not_mem_nil, or_false] at hm
        tauto
  · rw [entry?_of_not_at fun body hb => hat ⟨body, hb⟩] at h
    cases h

/-! ## Cuts and grammar agree -/

/-- What follows a name in the grammar is cut into segments of which each but the last assigns
something. -/
theorem AreSegments.exists_cut {rest : List Char} (h : AreSegments rest) {named : List Char}
    (hn : '>' ∉ named) :
    ∃ segments, cut '>' (named ++ rest) = named :: segments ∧
      (∀ s ∈ segments.dropLast, '=' ∈ s) ∧
      ∀ s ∈ segments, '=' ∈ s → trim (s.takeWhile (· != '=')) ≠ [] := by
  induction h generalizing named with
  | done => exact ⟨[], by simpa using Text.cut_of_not_mem hn, by simp, by simp⟩
  | @unfinished cs plain =>
    refine ⟨[cs], ?_, by simp, by simp [plain.2]⟩
    rw [Text.cut_append_cons hn, Text.cut_of_not_mem plain.1]
  | @more cs rest first others ih =>
    obtain ⟨property, value, rfl, hg, hp, hne⟩ := first
    obtain ⟨segments, hc, hclosed, hproperty⟩ := ih hg
    refine ⟨(property ++ '=' :: value) :: segments, ?_, ?_, ?_⟩
    · rw [List.cons_append, Text.cut_append_cons hn, hc]
    · intro s hs
      cases segments with
      | nil => simp at hs
      | cons t segments =>
        rcases List.mem_cons.1 hs with rfl | hs
        · simp
        · exact hclosed s hs
    · intro s hs
      rcases List.mem_cons.1 hs with rfl | hs
      · rw [takeWhile_equals hp]
        exact fun _ => hne
      · exact hproperty s hs

theorem eq_of_cut_eq_singleton {cs named : List Char} (hc : cut '>' cs = [named]) :
    cs = named ∧ '>' ∉ named := by
  by_cases hg : '>' ∈ cs
  · obtain ⟨seg, rest, rfl, hseg⟩ := List.eq_append_cons_of_mem hg
    rw [Text.cut_append_cons hseg] at hc
    exact absurd (List.cons.inj hc).2 (Text.cut_ne_nil '>' rest)
  · rw [Text.cut_of_not_mem hg] at hc
    obtain ⟨rfl, -⟩ := List.cons.inj hc
    exact ⟨rfl, hg⟩

private theorem eq_append_of_cut_eq_cons {cs named segment : List Char} {others : List (List Char)}
    (hc : cut '>' cs = named :: segment :: others) :
    ∃ rest, cs = named ++ '>' :: rest ∧ '>' ∉ named ∧ cut '>' rest = segment :: others := by
  by_cases hg : '>' ∈ cs
  · obtain ⟨seg, rest, rfl, hseg⟩ := List.eq_append_cons_of_mem hg
    rw [Text.cut_append_cons hseg] at hc
    obtain ⟨rfl, hrest⟩ := List.cons.inj hc
    exact ⟨rest, rfl, hseg, hrest⟩
  · rw [Text.cut_of_not_mem hg] at hc
    cases (List.cons.inj hc).2

/-- The segments behind a name, put together again, are what may follow it in the grammar. -/
theorem areSegments_of_cut {segments : List (List Char)} {cs named : List Char}
    (hc : cut '>' cs = named :: segments) (hclosed : ∀ s ∈ segments.dropLast, '=' ∈ s)
    (hne : ∀ s ∈ segments, '=' ∈ s → trim (s.takeWhile (· != '=')) ≠ []) :
    '>' ∉ named ∧ ∃ rest, cs = named ++ rest ∧ AreSegments rest := by
  induction segments generalizing cs named with
  | nil =>
    obtain ⟨rfl, hg⟩ := eq_of_cut_eq_singleton hc
    exact ⟨hg, [], (List.append_nil _).symm, .done⟩
  | cons segment others ih =>
    obtain ⟨rest, rfl, hn, hrest⟩ := eq_append_of_cut_eq_cons hc
    refine ⟨hn, '>' :: rest, rfl, ?_⟩
    by_cases he : '=' ∈ segment
    · have hothers : ∀ s ∈ others.dropLast, '=' ∈ s := by
        cases others with
        | nil => simp
        | cons o others => exact fun s hs => hclosed s (List.mem_cons_of_mem _ hs)
      obtain ⟨hg, tail, rfl, htail⟩ :=
        ih hrest hothers fun s hs => hne s (List.mem_cons_of_mem _ hs)
      obtain ⟨property, value, rfl, hp⟩ := List.eq_append_cons_of_mem he
      have hp' := hne _ List.mem_cons_self he
      rw [takeWhile_equals hp] at hp'
      exact .more ⟨property, value, rfl, hg, hp, hp'⟩ htail
    · cases others with
      | nil =>
        obtain ⟨rfl, hg⟩ := eq_of_cut_eq_singleton hrest
        exact .unfinished ⟨hg, he⟩
      | cons o others => exact absurd (hclosed segment (by simp)) he

private theorem isEntryLine_iff_nonempty_cuts {line : List Char} :
    IsEntryLine line ↔ Nonempty (Cuts line) := by
  constructor
  · rintro ⟨blanks, typed, named, rest, rfl, hblanks, htyped, hnamed, hrest⟩
    obtain ⟨segments, hc, hclosed, hne⟩ := hrest.exists_cut hnamed.1
    have ho : trimStart (blanks ++ '@' :: (typed ++ '/' :: (named ++ rest))) =
        '@' :: (typed ++ '/' :: (named ++ rest)) := by
      rw [trimStart, List.dropWhile_append_of_pos hblanks]
      rfl
    exact ⟨typed, named ++ rest, named, segments, ho, htyped, hc, hnamed.2, hclosed, hne⟩
  · rintro ⟨c⟩
    obtain ⟨hg, rest, hr, hrest⟩ := areSegments_of_cut c.cut_rest c.closed c.property_ne
    refine ⟨line.takeWhile isBlank, c.typed, c.named, rest, ?_, ?_, c.isTypeWord,
      ⟨hg, c.named_ne⟩, hrest⟩
    · rw [← hr, ← c.opens]
      exact List.takeWhile_append_dropWhile.symm
    · exact fun d hd => List.mem_takeWhile_imp hd

/-- A scan accepts exactly the lines of the grammar, and it gives a line the parts that cutting it
at its first `/`, at every `>` and at the first `=` of each segment gives. -/
theorem entry_eq_some_iff_cuts (s : String) :
    ((∃ e, entry? s = some e) ↔ IsEntryLine s.toList) ∧
      ∀ e, entry? s = some e ↔ ∃ c : Cuts s.toList, c.entry = e := by
  have hcuts : ∀ e, entry? s = some e ↔ ∃ c : Cuts s.toList, c.entry = e := by
    intro e
    constructor
    · exact exists_cuts
    · rintro ⟨c, rfl⟩
      exact entry?_eq_of_cuts c
  refine ⟨?_, hcuts⟩
  rw [isEntryLine_iff_nonempty_cuts]
  constructor
  · rintro ⟨e, he⟩
    obtain ⟨c, -⟩ := (hcuts e).1 he
    exact ⟨c⟩
  · rintro ⟨c⟩
    exact ⟨c.entry, (hcuts _).2 ⟨c, rfl⟩⟩

end Cuaderno.QuickEntry
