import Cuaderno.Proofs.QuickEntry.Converted
import Cuaderno.Proofs.QuickEntry.Suggested
import Cuaderno.Proofs.QuickEntry.Unfinished
import Cuaderno.Proofs.Text.Folding
import Cuaderno.QuickEntry.Intent

/-!
# Accepting a suggestion

Whoever accepts a suggestion puts its title where the item that was being typed starts. The title
is then read like any typed text: `accept_spec` says that the relation gets a link to the suggested
item exactly if the title means that item once it is typed. A plain title always means the first
item with that title that the relation may link to. Titles with commas or quotes in them, blank
titles, and titles that several items share may be read otherwise.
-/

namespace Cuaderno.QuickEntry

open Cuaderno.Text (isBlank trim)

section Relations

variable {p : Property} {items : List Item}

/-- What a relation becomes by a typed text: the links that it lists, or the text itself. -/
def relationValue (p : Property) (typed : String) (items : List Item) : Value :=
  match links? p typed items with
  | some links => .links links
  | none => .text typed

private theorem Conversion.add_relation {t : ItemType} {clock : Clock} {c : Conversion}
    {name value : String} (hname : t.resolve name = some p) (hkind : p.kind = .relation) :
    c.add t items clock (name, value) = .ok
      (if typedValue value = "" then c
      else ⟨Fields.put p.id (relationValue p (typedValue value) items) c.properties,
        c.warnings⟩) := by
  simp only [Conversion.add, hname]
  split
  · rfl
  · simp only [convertValue, hkind, relationValue]
    cases links? p (typedValue value) items with
    | some links => rfl
    | none => simp only [Outcome.ok_bind, Option.toList_none, List.append_nil, Outcome.pure_eq_ok]

/-- A typed relation is one link exactly when the text lists one title, which means the item. -/
theorem relationValue_eq_link {typed : String} {link : Link} :
    relationValue p typed items = .links [link] ↔ ∃ fragment item, splitList typed = [fragment] ∧
      target? fragment p items = some item ∧ link = ⟨item.id, item.title⟩ := by
  have hlinks : relationValue p typed items = .links [link] ↔
      links? p typed items = some [link] := by
    unfold relationValue
    cases links? p typed items with
    | some links => simp
    | none => simp
  rw [hlinks, links?, Outcome.mapM_eq_some]
  constructor
  · intro h
    obtain ⟨fragment, rest, hlink, hrest, hsplit⟩ := List.forall₂_cons_right_iff.1 h
    cases hrest
    obtain ⟨item, hitem, rfl⟩ := Option.map_eq_some_iff.1 hlink
    exact ⟨fragment, item, hsplit, hitem, rfl⟩
  · rintro ⟨fragment, item, hsplit, hitem, rfl⟩
    rw [hsplit]
    exact .cons (by rw [hitem]; rfl) .nil

/-- Whether a title means an item with some id once it is typed: it lists one title then, and this
means such an item. -/
def Means (p : Property) (items : List Item) (title id : String) : Prop :=
  ∃ fragment item, splitList (typedValue title) = [fragment] ∧
    target? fragment p items = some item ∧ item.id = id

/-- A title that is read as it stands: not blank, no list, no quotes, brackets or `@` in front. -/
structure IsPlain (title : List Char) : Prop where
  folds : Text.fold title ≠ []
  comma : ',' ∉ title
  quotes : unquoted (trim title) = trim title
  brackets : unbracketed (trim title) = trim title
  sign : (trim title).head? ≠ some '@'

theorem IsPlain.trim_ne {title : List Char} (h : IsPlain title) : trim title ≠ [] := by
  intro hnil
  apply h.folds
  rw [← Text.fold_trim, hnil]
  rfl

theorem IsPlain.typedValue_eq {title : String} (h : IsPlain title.toList) :
    typedValue title = trimmed title.toList := by
  rw [typedValue, h.quotes, trimmed]

theorem IsPlain.splitList_eq {title : String} (h : IsPlain title.toList) :
    splitList (trimmed title.toList) = [trimmed title.toList] := by
  have hcomma : ',' ∉ trim title.toList := by
    intro hmem
    exact h.comma ((Text.trimStart_suffix _).subset ((Text.trimEnd_isPrefix _).subset hmem))
  have hitems : listItems (trim title.toList) = [trim title.toList] := by
    rw [listItems, Text.trim_trim, h.brackets, Text.cut_of_not_mem hcomma]
    simp [Text.trim_trim, h.trim_ne]
  rw [splitList, trimmed, String.toList_ofList, hitems, List.map_singleton]

theorem IsPlain.withoutSign_eq {title : List Char} (h : IsPlain title) :
    withoutSign (trim title) = trim title := by
  unfold withoutSign
  rw [Text.trim_trim]
  split
  · rename_i hsign
    exact absurd (by rw [hsign, List.head?_cons]) h.sign
  · rfl

/-- A plain title links to the first item with that title that may be linked. -/
theorem IsPlain.relationValue_eq {title : String} (h : IsPlain title.toList) {item : Item}
    (hfirst : (items.filter (mayLink (some p))).find?
      (Text.fold ·.title.toList == Text.fold title.toList) = some item) :
    relationValue p (typedValue title) items = .links [⟨item.id, item.title⟩] := by
  rw [relationValue_eq_link, h.typedValue_eq]
  refine ⟨_, item, h.splitList_eq, ?_, rfl⟩
  have hfold : Text.fold (withoutSign (trimmed title.toList).toList) = Text.fold title.toList := by
    rw [trimmed, String.toList_ofList, h.withoutSign_eq, Text.fold_trim]
  apply target?_of_title
  · rw [hfold]
    exact h.folds
  · rw [hfold]
    exact hfirst

end Relations

/-- A line whose last assignment is to a relation: what it asks for ends well exactly if what comes
before that assignment does, and this assignment is the last to write the relation. -/
theorem intent_of_relation {s typeWord name property value : String}
    {others : List (String × String)} {catalog : Catalog} {t : ItemType} {p : Property}
    (he : entry? s = some ⟨typeWord, name, others ++ [(property, value)]⟩)
    (ht : catalog.resolve typeWord = some t) (hp : t.resolve property = some p)
    (hkind : p.kind = .relation) (items : List Item) (clock : Clock) :
    (∃ f, convert others (some t) items clock = .error f ∧
        intent s catalog items clock = .error f) ∨
      ∃ c i, convert others (some t) items clock = .ok c ∧
        intent s catalog items clock = .ok (some i) ∧ i.type = some t ∧
        i.properties = if typedValue value = "" then c.properties
          else Fields.put p.id (relationValue p (typedValue value) items) c.properties := by
  have hconvert : convert (others ++ [(property, value)]) (some t) items clock =
      convert others (some t) items clock >>= fun c => c.add t items clock (property, value) := by
    simp only [convert, List.foldlM_append, List.foldlM_cons, List.foldlM_nil, bind_pure]
  simp only [intent, he, ht, hconvert]
  cases convert others (some t) items clock with
  | error f => exact .inl ⟨f, rfl, rfl⟩
  | ok c =>
    simp only [Outcome.ok_bind, Conversion.add_relation hp hkind]
    split
    · exact .inr ⟨c, _, rfl, rfl, rfl, rfl⟩
    · exact .inr ⟨c, _, rfl, rfl, rfl, rfl⟩

/-- The line after the title of a suggestion is put where the item that was being typed starts. -/
def accepted (s : String) (g : Suggestions) (title : String) : String :=
  String.ofList (s.toList.take g.insertAt ++ title.toList)

/-- A line whose scan ends while a single item of a property is being typed. -/
structure TypesItem (line : List Char) (catalog : Catalog) (q : Progress) (t : ItemType)
    (p : Property) : Prop where
  scanned : scan (String.ofList line) = .ok q
  type : catalog.resolve q.typeWord = some t
  property : t.resolve (q.pending.getD "") = some p
  bracket : '[' ∉ line.drop q.segmentStart
  comma : ',' ∉ line.drop q.segmentStart

/-- What a relation has become when the title of a suggested item was accepted. -/
structure Accepts (p : Property) (items : List Item) (x : Suggestion) (i : Intent) : Prop where
  links_iff : typedValue x.title ≠ "" →
    ((∃ link, i.properties.lookup p.id = some (.links [link]) ∧ link.id = x.id) ↔
      Means p items x.title x.id)
  plain : IsPlain x.title.toList → ∃ item, (items.filter (mayLink (some p))).find?
      (Text.fold ·.title.toList == Text.fold x.title.toList) = some item ∧
    i.properties.lookup p.id = some (.links [⟨item.id, item.title⟩])

private theorem typedValue_trimmed (title : String) :
    typedValue (trimmed title.toList) = typedValue title := by
  rw [typedValue, trimmed, String.toList_ofList, Text.trim_trim, typedValue]

/-- The scan of the line that was accepted differs from that of the typed line in its last value
only, which is the title. -/
theorem scan_accepted {s : String} {cursor : Option Int} {q : Progress} {g : Suggestions}
    {title : String} (hscan : scan (String.ofList (beforeCursor s cursor)) = .ok q)
    (hreading : q.reading = .value)
    (hinsert : g.insertAt = itemStart (beforeCursor s cursor) q.segmentStart)
    (hbracket : '[' ∉ (beforeCursor s cursor).drop q.segmentStart)
    (hcomma : ',' ∉ (beforeCursor s cursor).drop q.segmentStart)
    (hgreater : '>' ∉ title.toList) : ∃ (opened : Progress) (value : List Char),
      q = opened.assign value ∧ scan (accepted s g title) = .ok (opened.assign title.toList) := by
  obtain ⟨before, value, opened, hline, hvalue, -, hstart, rfl, hresume⟩ :=
    exists_value hscan hreading
  rw [String.toList_ofList] at hline
  have hlast : (beforeCursor s cursor).drop (opened.assign value).segmentStart = value := by
    rw [hline, Progress.assign, hstart, List.drop_left]
  rw [hlast] at hbracket hcomma
  -- the blanks between the `=` and the item stay, and count as little as those typed
  let blanks := value.takeWhile isBlank
  have hblanks : ∀ c ∈ blanks, isBlank c = true := fun c hc => List.mem_takeWhile_imp hc
  have haccepted : accepted s g title = String.ofList (before ++ (blanks ++ title.toList)) := by
    have hinsert' : g.insertAt = itemStart (beforeCursor s cursor) before.length := by
      rw [hinsert, Progress.assign, hstart]
    rw [accepted, hinsert', take_insertAt hline hbracket hcomma, List.append_assoc]
  have hfree : '>' ∉ blanks ++ title.toList := by
    rw [List.mem_append, not_or]
    exact ⟨fun hmem => hvalue ((List.takeWhile_prefix _).subset hmem), hgreater⟩
  refine ⟨opened, value, rfl, ?_⟩
  rw [haccepted, hresume _ hfree, Progress.assign, Progress.assign, trimmed, trimmed,
    Text.trim_blanks_append hblanks]

/-- The relation that a suggestion was accepted for, when its title is the last text for it. -/
theorem accepts_of_properties {catalog : Catalog} {items : List Item} {p : Property} {item : Item}
    (hitem : item ∈ items) (hlink : mayLink (some p) item = true) {i : Intent}
    {properties : List (String × Value)}
    (hi : i.properties = if typedValue item.title = "" then properties
      else Fields.put p.id (relationValue p (typedValue item.title) items) properties) :
    Accepts p items (Suggestion.ofItem catalog item) i := by
  have hlookup (hne : typedValue item.title ≠ "") :
      i.properties.lookup p.id = some (relationValue p (typedValue item.title) items) := by
    rw [hi, if_neg hne, Fields.lookup_put_self]
  constructor
  · intro hne
    rw [Suggestion.ofItem] at hne ⊢
    simp only [hlookup hne, Option.some.injEq, relationValue_eq_link, Means]
    constructor
    · rintro ⟨link, ⟨fragment, target, hsplit, htarget, rfl⟩, hid⟩
      exact ⟨fragment, target, hsplit, htarget, hid⟩
    · rintro ⟨fragment, target, hsplit, htarget, hid⟩
      exact ⟨_, ⟨fragment, target, hsplit, htarget, rfl⟩, hid⟩
  · intro hplain
    rw [Suggestion.ofItem] at hplain ⊢
    have hne : typedValue item.title ≠ "" := by
      rw [hplain.typedValue_eq, ne_eq, trimmed_eq_empty_iff]
      exact hplain.trim_ne
    obtain ⟨first, hfirst⟩ : ∃ first, (items.filter (mayLink (some p))).find?
        (Text.fold ·.title.toList == Text.fold item.title.toList) = some first := by
      rw [← Option.isSome_iff_exists, List.find?_isSome]
      exact ⟨item, List.mem_filter.2 ⟨hitem, hlink⟩, beq_self_eq_true _⟩
    exact ⟨first, hfirst, by rw [hlookup hne, hplain.relationValue_eq hfirst]⟩

/-- Accepting a suggestion for a single item links to the suggested item exactly if its title means
that item once it is typed, as a plain title does unless an item with the same title comes first. It
fails only if what was typed before fails. -/
theorem accept_spec {s : String} {catalog : Catalog} {items : List Item} {limit : Int}
    {cursor : Option Int} {g : Suggestions} (hg : suggest s catalog items limit cursor = some g)
    {q : Progress} {t : ItemType} {p : Property}
    (htypes : TypesItem (beforeCursor s cursor) catalog q t p) {x : Suggestion} (hx : x ∈ g.items)
    (hgreater : '>' ∉ x.title.toList) (clock : Clock) :
    (∃ f, intent (String.ofList (beforeCursor s cursor)) catalog items clock = .error f ∧
        intent (accepted s g x.title) catalog items clock = .error f) ∨
      ∃ i, intent (accepted s g x.title) catalog items clock = .ok (some i) ∧ i.type = some t ∧
        Accepts p items x i := by
  obtain ⟨q', hscan, hreading, -, hkind, hsuggestions⟩ := suggest_eq_some_iff.1 hg
  obtain rfl : q' = q := Except.ok.inj (hscan.symm.trans htypes.scanned)
  have hproperty : q'.property? catalog = some p := by
    rw [Progress.property?, htypes.type, Option.bind_some]
    exact htypes.property
  have hrelation := hkind p hproperty
  have hinsert : g.insertAt = itemStart (beforeCursor s cursor) q'.segmentStart := by
    rw [hsuggestions]
    rfl
  obtain ⟨opened, value, rfl, haccepted⟩ :=
    scan_accepted hscan hreading hinsert htypes.bracket htypes.comma hgreater
  have htyped := entry?_of_scan hscan
  have htitled := entry?_of_scan haccepted
  rw [hsuggestions] at hx
  obtain ⟨item, hitem, hlink, rfl⟩ := Progress.exists_of_mem_suggestions hx
  rw [hproperty] at hlink
  -- both lines assign the same before the relation, and the relation itself never fails
  rcases intent_of_relation htitled htypes.type htypes.property hrelation items clock with
    ⟨f, hothers, hfails⟩ | ⟨c, i, -, hi, htype, hproperties⟩
  · rcases intent_of_relation htyped htypes.type htypes.property hrelation items clock with
      ⟨f', hothers', hfails'⟩ | ⟨c, -, hothers', -⟩
    · rw [hothers, Except.error.injEq] at hothers'
      exact .inl ⟨f, hothers' ▸ hfails', hfails⟩
    · rw [hothers] at hothers'
      cases hothers'
  · rw [typedValue_trimmed] at hproperties
    exact .inr ⟨i, hi, htype, accepts_of_properties hitem hlink hproperties⟩

private theorem typesItem_callTo {typed : String} (h : typed ∈ ["", "an", "per"]) :
    TypesItem (beforeCursor (callTo typed) none) calls (callProgress typed) call people := by
  simp only [List.mem_cons, List.not_mem_nil, or_false] at h
  rcases h with rfl | rfl | rfl
  all_goals constructor <;> decide +kernel

theorem accept_spec_ana : ∃ i,
    intent "@llamada/Saludar > gente = Ana" calls [person "p1" "Ana"]
        ⟨none, Moment.first⟩ = .ok (some i) ∧
      Accepts people [person "p1" "Ana"] (suggested "p1" "Ana") i := by
  have hsuggest : suggest (callTo "an") calls [person "p1" "Ana"] 8 none =
      some ⟨27, [suggested "p1" "Ana"], "gente", "an"⟩ := by
    decide +kernel
  have hends : (intent (callTo "an") calls [person "p1" "Ana"]
      ⟨none, Moment.first⟩).isOk = true := by
    decide +kernel
  rcases accept_spec hsuggest (typesItem_callTo (by decide)) (List.mem_singleton_self _)
    (by decide +kernel) ⟨none, Moment.first⟩ with ⟨f, hfails, -⟩ | ⟨i, hi, -, haccepts⟩
  · rw [beforeCursor, String.ofList_toList] at hfails
    rw [hfails] at hends
    cases hends
  · have hline : accepted (callTo "an") ⟨27, [suggested "p1" "Ana"], "gente", "an"⟩ "Ana" =
        "@llamada/Saludar > gente = Ana" := by
      decide +kernel
    exact ⟨i, hline ▸ hi, haccepts⟩

/-- What the people of a call become when a suggestion is accepted on the first of all days. -/
def Yields (s : String) (items : List Item) (x : Suggestion) (r : Except Fault (Option Value)) :
    Prop :=
  ∃ g q, suggest s calls items 8 none = some g ∧
    TypesItem (beforeCursor s none) calls q call people ∧ x ∈ g.items ∧ '>' ∉ x.title.toList ∧
    (intent (accepted s g x.title) calls items ⟨none, Moment.first⟩).map
      (fun i => i.bind (·.properties.lookup people.id)) = r

theorem suggest_callTo_an (items : List Item) : suggest (callTo "an") calls items 8 none =
    some ((callProgress "an").suggestions (beforeCursor (callTo "an") none) calls items 8) := by
  refine suggest_eq_some_iff.2
    ⟨_, (typesItem_callTo (by decide)).scanned, rfl, by decide +kernel, ?_, rfl⟩
  intro p hp
  have hpeople : (callProgress "an").property? calls = some people := by decide +kernel
  rw [hpeople, Option.some.injEq] at hp
  rw [← hp]
  rfl

/-- A title with a comma is a list. Of two items with one title the first is linked, whichever was
suggested. A title of quotes only is blank. Before the first of all days there is no other, so that
a line with such a date fails. -/
theorem accept_otherwise :
    Yields (callTo "per") [person "p1" "Pérez, Ana"] (suggested "p1" "Pérez, Ana")
        (.ok (some (.links [⟨"p1", "Pérez, Ana"⟩, ⟨"p1", "Pérez, Ana"⟩]))) ∧
      Yields (callTo "an") [person "p1" "Ana", person "p2" "Ana"]
        (suggested "p2" "Ana") (.ok (some (.links [⟨"p1", "Ana"⟩]))) ∧
      Yields (callTo "") [person "p3" "''"] (suggested "p3" "''") (.ok none) ∧
      Yields "@llamada/Saludar > fecha = ayer > gente = an" [person "p1" "Ana"]
        (suggested "p1" "Ana") (.error .outOfRange) := by
  refine ⟨?_, ?_, ?_, ?_⟩
  · refine ⟨⟨27, [suggested "p1" "Pérez, Ana"], "gente", "per"⟩, _, ?_,
      typesItem_callTo (by decide), List.mem_singleton_self _, ?_, ?_⟩
    all_goals decide +kernel
  · refine ⟨_, _, suggest_callTo_an _, typesItem_callTo (by decide), ?_, ?_, ?_⟩
    · refine List.mem_map.2 ⟨person "p2" "Ana", ?_, by decide +kernel⟩
      rw [List.take_of_length_le ((length_ranked_le _ _).trans (by decide +kernel)), mem_ranked]
      exact ⟨by decide +kernel, by decide +kernel⟩
    all_goals decide +kernel
  · refine ⟨⟨27, [suggested "p3" "''"], "gente", ""⟩, _, ?_, typesItem_callTo (by decide),
      List.mem_singleton_self _, ?_, ?_⟩
    all_goals decide +kernel
  · refine ⟨⟨42, [suggested "p1" "Ana"], "gente", "an"⟩, ⟨.value, 41, "llamada", "Saludar",
      some "gente", [("fecha", "ayer"), ("gente", "an")]⟩, ?_, ⟨?_, ?_, ?_, ?_, ?_⟩,
      List.mem_singleton_self _, ?_, ?_⟩
    all_goals decide +kernel

end Cuaderno.QuickEntry
