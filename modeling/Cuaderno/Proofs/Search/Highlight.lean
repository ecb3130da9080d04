import Cuaderno.Proofs.Search.Place
import Cuaderno.Proofs.Search.Ranked

/-!
# What a match marks

A match shows a text and marks a part of it. In a title, a tag or a property, which are shown whole,
the marked part is the place of the term. A content is shown through a window of 40 characters
around the middle of the place, and the marked part is the place as long as that has at most 41
characters (`search_highlights`). The window on a longer place starts inside it, and what is marked
then starts with the sign for left out text, or is a part of the end of the place only.
-/

namespace Cuaderno.Search

open Cuaderno.Text (foldChars)

/-- A match whose offsets lie in its context, and mark a piece of a text in which the term is
found. -/
structure Match.Marks (m : Match) (text : List Char) : Prop where
  start_nonneg : 0 ≤ m.start
  start_lt_stop : m.start < m.stop
  stop_le_length : m.stop ≤ m.context.toList.length
  piece : m.marked.toList <:+: text
  term : m.term.toList <:+: foldChars m.marked.toList

/-- A match whose window starts inside the place: the offsets are those of the whole place, though
the first characters of it are not shown. -/
structure Match.Clips (m : Match) (text : List Char) (start stop : Nat) : Prop where
  start_eq : m.start = 21 - ((stop - start) / 2 : Nat)
  stop_eq : m.stop = m.start + (stop - start : Nat)
  context_eq : m.context.toList =
    '…' :: ((text.take stop).drop (start + ((stop - start) / 2 - 20)) ++
      if stop < text.length then ['…'] else [])

/-- What a match marks in an item: a piece of the title, of a tag, of a property or of the content,
if the place in the content fits into the window. -/
inductive Highlights (item : Item) (m : Match) : Prop
  | title (field : m.field = .title) (marks : m.Marks (Text.trim item.title.toList))
  | tag {tag} (field : m.field = .tag) (mem : tag ∈ item.tags) (marks : m.Marks tag.toList)
  | property {id v} (field : m.field = .property) (named : m.propertyId = some id)
      (mem : (id, v) ∈ item.properties) (marks : m.Marks v.display.toList)
  | content {start stop} (field : m.field = .content)
      (place : locate? m.term.toList (Text.plainText item.content.toList) = some (start, stop))
      (short : stop - start ≤ 41 → m.Marks (Text.plainText item.content.toList) ∧
        m.marked.toList = ((Text.plainText item.content.toList).take stop).drop start)
      (long : 42 ≤ stop - start → m.Clips (Text.plainText item.content.toList) start stop)

section Window

variable {text : List Char} {start stop : Nat}

/-- The window on a place of at most 41 characters holds the place. -/
theorem window_of_short (hlt : start < stop) (hle : stop ≤ text.length) (h : stop - start ≤ 41) :
    ∃ first last : Nat, window text.length 40 start stop = (↑first, ↑last) ∧
      first ≤ start ∧ stop ≤ last ∧ last ≤ text.length := by
  obtain ⟨first, last, hwindow⟩ : ∃ first last, window text.length 40 start stop = (first, last) :=
    ⟨_, _, rfl⟩
  refine ⟨first.toNat, last.toNat, ?_⟩
  rw [hwindow]
  simp only [window, Prod.mk.injEq] at hwindow ⊢
  omega

/-- The window on a longer place starts behind the start of the place, and ends with it. -/
theorem window_of_long (hle : stop ≤ text.length) (h : 42 ≤ stop - start) :
    window text.length 40 start stop = (↑(start + ((stop - start) / 2 - 20)), ↑stop) := by
  simp only [window, Prod.mk.injEq]
  omega

private theorem infix_piece (text : List Char) (start stop : Nat) :
    (text.take stop).drop start <:+: text :=
  (List.drop_suffix ..).isInfix.trans (List.take_prefix ..).isInfix

private theorem slice_window {first last : Nat} (before after : List Char) (hfirst : first ≤ start)
    (hlt : start < stop) (hlast : stop ≤ last) (hle : last ≤ text.length) :
    Text.slice (before ++ Text.slice text first last ++ after) (start + (before.length - first))
      (stop + (before.length - first)) = (text.take stop).drop start := by
  have hstart : (start : Int) + (before.length - first) = ↑(before.length + (start - first)) := by
    omega
  have hstop : (stop : Int) + (before.length - first) = ↑(before.length + (stop - first)) := by
    omega
  rw [hstart, hstop, Text.slice_of_nat, Text.slice_of_nat, List.append_assoc,
    List.take_length_add_append, List.drop_length_add_append, List.take_append_of_le_length]
  · have hfrom : first + (start - first) = start := by omega
    have hcount : min (stop - first) (last - first) - (start - first) = stop - start := by omega
    simp only [List.drop_take, List.take_take, List.drop_drop, hfrom, hcount]
  · rw [List.length_drop, List.length_take]
    omega

end Window

section Fields

variable {item : Item} {term : String} {hit : Hit}

theorem wholeMatch_spec {field : MatchField} {s : String} {id : Option String} {m : Match}
    (hne : term.toList ≠ []) (h : wholeMatch field term s id = some m) :
    m.term = term ∧ m.field = field ∧ m.propertyId = id ∧ m.Marks s.toList := by
  obtain ⟨⟨start, stop⟩, hplace, rfl⟩ := Option.map_eq_some_iff.1 h
  obtain ⟨hlt, hle, hterm⟩ := locate?_spec hne hplace
  have hmarked : (Match.marked ⟨field, term, s, start, stop, id⟩).toList =
      (s.toList.take stop).drop start := by
    rw [Match.marked, String.toList_ofList, Text.slice_of_nat]
  refine ⟨rfl, rfl, rfl, Int.natCast_nonneg start, Int.ofNat_lt.2 hlt, Int.ofNat_le.2 hle, ?_, ?_⟩
  · rw [hmarked]
    exact infix_piece ..
  · rw [hmarked]
    exact hterm

theorem titleHit?_highlights (hne : term.toList ≠ [])
    (h : titleHit? {} item.title term = some hit) :
    hit.mark.term = term ∧ Highlights item hit.mark := by
  obtain ⟨m, hm, rfl⟩ := Option.map_eq_some_iff.1 h
  obtain ⟨hterm, hfield, -, hmarks⟩ := wholeMatch_spec hne hm
  rw [String.toList_ofList] at hmarks
  exact ⟨hterm, .title hfield hmarks⟩

theorem tagHit?_highlights (hne : term.toList ≠ [])
    (h : tagHit? {} item.tags term = some hit) :
    hit.mark.term = term ∧ Highlights item hit.mark := by
  obtain ⟨tag, hmem, htag⟩ := List.exists_of_findSome?_eq_some h
  obtain ⟨m, hm, rfl⟩ := Option.map_eq_some_iff.1 htag
  obtain ⟨hterm, hfield, -, hmarks⟩ := wholeMatch_spec hne hm
  exact ⟨hterm, .tag hfield hmem hmarks⟩

theorem propertyHit?_highlights (hne : term.toList ≠ [])
    (h : propertyHit? {} item.properties term = some hit) :
    hit.mark.term = term ∧ Highlights item hit.mark := by
  obtain ⟨⟨id, v⟩, hmem, hproperty⟩ := List.exists_of_findSome?_eq_some h
  obtain ⟨m, hm, rfl⟩ := Option.map_eq_some_iff.1 hproperty
  obtain ⟨hterm, hfield, hid, hmarks⟩ := wholeMatch_spec hne hm
  exact ⟨hterm, .property hfield hid hmem hmarks⟩

def ellipsis (cond : Prop) [Decidable cond] : List Char := if cond then ['…'] else []

def windowMatch (term : String) (plain : List Char) (start stop first last : Nat) : Match :=
  let before := ellipsis (0 < first)
  ⟨.content, term, String.ofList (before ++ Text.slice plain first last ++
    ellipsis (last < plain.length)), start + (before.length - first),
    stop + (before.length - first), none⟩

theorem contentHit?_mark {plain : List Char} {start stop first last : Nat}
    (hplace : locate? term.toList plain = some (start, stop))
    (hwindow : window plain.length 40 start stop = (↑first, ↑last))
    (h : contentHit? {} plain term = some hit) :
    hit.mark = windowMatch term plain start stop first last := by
  simp only [contentHit?, hplace, hwindow, Option.map_some, Option.some.injEq] at h
  rw [← h]
  simp only [windowMatch, ellipsis, Int.natCast_pos, Int.ofNat_lt]

/-- A window around a place marks it. -/
theorem windowMatch_marks {plain : List Char} {start stop first last : Nat} (hfirst : first ≤ start)
    (hlt : start < stop) (hlast : stop ≤ last) (hle : last ≤ plain.length)
    (hterm : term.toList <:+: foldChars ((plain.take stop).drop start)) :
    (windowMatch term plain start stop first last).Marks plain ∧
      (windowMatch term plain start stop first last).marked.toList =
        (plain.take stop).drop start := by
  have hmarked : (windowMatch term plain start stop first last).marked.toList =
      (plain.take stop).drop start := by
    rw [windowMatch, Match.marked, String.toList_ofList, String.toList_ofList]
    exact slice_window _ _ hfirst hlt hlast hle
  refine ⟨⟨?_, ?_, ?_, ?_, ?_⟩, hmarked⟩
  · simp only [windowMatch]
    omega
  · simp only [windowMatch]
    omega
  · simp only [windowMatch, String.toList_ofList, List.length_append, Text.slice_of_nat,
      List.length_drop, List.length_take]
    omega
  · rw [hmarked]
    exact infix_piece ..
  · rw [hmarked]
    exact hterm

/-- A window that starts inside a place clips it. -/
theorem windowMatch_clips (plain : List Char) {start stop : Nat} (h : 42 ≤ stop - start) :
    (windowMatch term plain start stop (start + ((stop - start) / 2 - 20)) stop).Clips plain
      start stop := by
  have hbefore : ellipsis (0 < start + ((stop - start) / 2 - 20)) = ['…'] := if_pos (by omega)
  refine ⟨?_, ?_, ?_⟩
  · simp only [windowMatch, hbefore, List.length_singleton]
    omega
  · simp only [windowMatch]
    omega
  · rw [windowMatch, hbefore, String.toList_ofList, Text.slice_of_nat]
    rfl

theorem contentHit?_highlights (hne : term.toList ≠ [])
    (h : contentHit? {} (Text.plainText item.content.toList) term = some hit) :
    hit.mark.term = term ∧ Highlights item hit.mark := by
  obtain ⟨⟨start, stop⟩, hplace, -⟩ := Option.map_eq_some_iff.1 h
  obtain ⟨hlt, hle, hterm⟩ := locate?_spec hne hplace
  -- up to 41 characters the window holds the place; from 42 on half of the place is more than half
  -- of the window
  by_cases hshort : stop - start ≤ 41
  · obtain ⟨first, last, hwindow, hfirst, hlast, hend⟩ := window_of_short hlt hle hshort
    rw [contentHit?_mark hplace hwindow h]
    refine ⟨rfl, .content rfl hplace (fun _ => windowMatch_marks hfirst hlt hlast hend hterm) ?_⟩
    intro hlong
    omega
  · have hlong : 42 ≤ stop - start := by omega
    rw [contentHit?_mark hplace (window_of_long hle hlong) h]
    refine ⟨rfl, .content rfl hplace ?_ fun _ => windowMatch_clips _ hlong⟩
    intro hshort'
    exact absurd hshort' hshort

theorem hits_highlights (hne : term.toList ≠ [])
    (h : hit ∈ hits {} item (Text.plainText item.content.toList) term) :
    hit.mark.term = term ∧ Highlights item hit.mark := by
  simp only [hits, List.mem_filterMap, List.mem_cons, List.not_mem_nil, or_false, id_eq,
    exists_eq_right] at h
  rcases h with htitle | htag | hproperty | hcontent
  · exact titleHit?_highlights hne htitle.symm
  · exact tagHit?_highlights hne htag.symm
  · exact propertyHit?_highlights hne hproperty.symm
  · exact contentHit?_highlights hne hcontent.symm

end Fields

private theorem best_mem (first : Hit) (rest : List Hit) : best first rest ∈ first :: rest := by
  unfold best
  induction rest generalizing first with
  | nil => exact List.mem_singleton_self first
  | cons hit rest ih =>
    rw [List.foldl_cons]
    rcases List.mem_cons.1 (ih (if first.weight.lt hit.weight then hit else first)) with h | h
    · rw [h]
      split
      · exact List.mem_cons_of_mem _ (List.mem_cons_self ..)
      · exact List.mem_cons_self ..
    · exact List.mem_cons_of_mem _ (List.mem_cons_of_mem _ h)

/-- What holds of all hits of the terms holds of all matches of the result. -/
theorem forall_found_of_score {P : Match → Prop} {w : Weights} {item : Item} {plain : List Char}
    {terms : List String} (hhits : ∀ term ∈ terms, ∀ hit ∈ hits w item plain term, P hit.mark)
    {total : Number} {found : List Match} (hfound : ∀ m ∈ found, P m) {snippet : Option Match}
    (hsnippet : ∀ m, snippet = some m → P m) {r : Result}
    (h : score w item plain terms total found snippet = some r) : ∀ m ∈ r.found, P m := by
  induction terms generalizing total found snippet with
  | nil =>
    simp only [score, Option.some.injEq] at h
    rw [← h]
    intro m hm
    rcases List.mem_append.1 hm with hm | hm
    · exact hfound m hm
    · cases snippet with
      | none => cases hm
      | some s =>
        by_cases hs : s ∈ found
        · simp only [hs, if_true, List.not_mem_nil] at hm
        · simp only [hs, if_false, List.mem_singleton] at hm
          rw [hm]
          exact hsnippet s rfl
  | cons term terms ih =>
    have hterm := hhits term (List.mem_cons_self ..)
    cases hh : hits w item plain term with
    | nil => simp only [score, hh, reduceCtorEq] at h
    | cons hit rest =>
      rw [hh] at hterm
      simp only [score, hh] at h
      refine ih (fun t ht => hhits t (List.mem_cons_of_mem _ ht)) ?_ ?_ h
      · intro m hm
        rcases List.mem_append.1 hm with hm | hm
        · exact hfound m hm
        · rw [List.mem_singleton.1 hm]
          exact hterm _ (best_mem hit rest)
      · intro m hm
        rcases Option.or_eq_some_iff.1 hm with hm | ⟨-, hm⟩
        · exact hsnippet m hm
        · obtain ⟨first, hfirst, rfl⟩ := Option.map_eq_some_iff.1 hm
          exact hterm first (List.mem_of_find?_eq_some hfirst)

/-- Without terms a result has no matches; with terms it is what its item gives. -/
theorem found_eq_nil_or_result? {contentTypes : Option (List String)} {catalog : Catalog}
    {o : Options} {items : List Item} {r : Result}
    (h : r ∈ search ⟨{}, contentTypes⟩ catalog o items) :
    r.found = [] ∨ result? {} o.terms r.item = some r := by
  have hall : r ∈ allResults ⟨{}, contentTypes⟩ catalog o items := by
    unfold search at h
    cases hlimit : o.limit with
    | none => rwa [hlimit] at h
    | some n =>
      rw [hlimit] at h
      exact List.mem_of_mem_take h
  by_cases hterms : o.terms.isEmpty = true
  · rw [allResults, if_pos hterms] at hall
    obtain ⟨item, -, rfl⟩ := List.mem_map.1 hall
    exact .inl rfl
  · rw [allResults, if_neg hterms, ← map_snd_placedResults, ← map_snd_sortedResults] at hall
    obtain ⟨q, hq, rfl⟩ := List.mem_map.1 hall
    obtain ⟨item, -, -, hr⟩ :=
      (mem_placedResults ..).1 ((perm_sortedResults ..).mem_iff.1 hq)
    rw [(of_result?_eq_some o hr).1]
    exact .inr hr

/-- Every match of a search is one of a term that was looked for, and marks its place, unless the
place is one in the content that is longer than the window. -/
theorem search_highlights (contentTypes : Option (List String)) (catalog : Catalog) (o : Options)
    (items : List Item) {r : Result} (hr : r ∈ search ⟨{}, contentTypes⟩ catalog o items)
    {m : Match} (hm : m ∈ r.found) : m.term ∈ o.terms ∧ Highlights r.item m := by
  rcases found_eq_nil_or_result? hr with hnone | hresult
  · rw [hnone] at hm
    cases hm
  · let P (m : Match) : Prop := m.term ∈ o.terms ∧ Highlights r.item m
    have hhits : ∀ term ∈ o.terms,
        ∀ hit ∈ hits {} r.item (Text.plainText r.item.content.toList) term, P hit.mark := by
      intro term hmem hit hhit
      obtain ⟨hterm, hmarks⟩ := hits_highlights (isTerm_of_mem o hmem).ne_nil hhit
      rw [← hterm] at hmem
      exact ⟨hmem, hmarks⟩
    exact forall_found_of_score hhits (fun m h => by cases h) (fun m h => by cases h) hresult m hm

def note (content : String) : Item where
  id := "n"
  typeId := "nota"
  title := "Viaje"
  content := content
  properties := []
  tags := []
  links := []
  backlinks := []
  created := Moment.first
  updated := Moment.first
  embedding := none

def camionMatch : Match := ⟨.content, "camion", "Voy en camión", 7, 13, none⟩

theorem search_highlights_camion :
    ∃ r ∈ search ⟨{}, none⟩ Catalog.empty { line := "Camión" } [note "<p>Voy en camión</p>"],
      ∃ m ∈ r.found, m = camionMatch ∧ m.term ∈ ({ line := "Camión" } : Options).terms ∧
        Highlights r.item m := by
  let r : Result := ⟨note "<p>Voy en camión</p>", Number.ofNat 2, [camionMatch]⟩
  have hr : r ∈ search ⟨{}, none⟩ Catalog.empty { line := "Camión" }
      [note "<p>Voy en camión</p>"] := by
    decide +kernel
  have hm : camionMatch ∈ r.found := List.mem_singleton_self _
  exact ⟨r, hr, camionMatch, hm, rfl, search_highlights none Catalog.empty _ _ hr hm⟩

def longWord : String := String.ofList (List.replicate 60 'a')

/-- The window on a place of sixty characters leaves out the first ten, and what is marked is not
the place but the nine characters at the end of it. -/
theorem search_marks_end_of_longWord : ∃ r m,
    r ∈ search ⟨{}, none⟩ Catalog.empty { line := longWord } [note longWord] ∧ m ∈ r.found ∧
      m.field = .content ∧
      locate? m.term.toList (Text.plainText r.item.content.toList) = some (0, 60) ∧
      m.start = -9 ∧ m.stop = 51 ∧ m.marked = String.ofList (List.replicate 9 'a') := by
  refine ⟨⟨note longWord, Number.ofNat 2, [⟨.content, longWord,
    String.ofList ('…' :: List.replicate 50 'a'), -9, 51, none⟩]⟩, _, ?_,
    List.mem_singleton_self _, rfl, ?_, rfl, rfl, ?_⟩
  all_goals decide +kernel

end Cuaderno.Search
