import Cuaderno.Proofs.Snapshot.Accepted

/-!
# Accepted documents that can be written

A snapshot that is accepted from a document of plain data holds plain data wherever it keeps a
document as it was: the target of a property, the color of a panel, the settings of a chart and
what a condition compares with. The writer finds a plain form for all of these but one: a condition
that compares with a list or a mapping is accepted, and not written. `Snapshot.document_of_read`
says which documents are written, and that nothing else stands in the way of writing.
-/

namespace Cuaderno

open Document Outcome

/-! ## What a document compares with -/

namespace Document

/-- Whether a condition of some query that a document describes compares with a value. -/
def ComparesWith (d v : Document) : Prop :=
  ∃ p q c, d.Lists "panels" p ∧ p.Holds "query" q ∧ q.Lists "propertyFilters" c ∧ c.Holds "value" v

variable {d v w : Document} {name : String}

theorem Holds.unique (hv : d.Holds name v) (hw : d.Holds name w) : v = w :=
  Except.ok.inj (hv.symm.trans hw)

private theorem lists_iff_of_fieldList {vs : List Document} (h : d.fieldList name = .ok vs) :
    d.Lists name v ↔ v ∈ vs := by
  constructor
  · rintro ⟨ws, hws, hmem⟩
    rwa [Except.ok.inj (h.symm.trans hws)]
  · exact fun hmem => ⟨vs, h, hmem⟩

private theorem not_lists_of_not_isPresent (h : d.isPresent ≠ true) : ¬ d.Lists name v := by
  rintro ⟨vs, hvs, hmem⟩
  cases d with
  | map entries =>
    cases entries with
    | nil =>
      cases hvs
      cases hmem
    | cons e entries => exact h rfl
  | _ => cases hvs

theorem IsJson.compound_of_not_isScalar (h : v.IsJson) (hv : ¬ v.IsScalar) :
    (∃ items, v = .list items) ∨ ∃ entries, v = .map entries := by
  cases h with
  | list _ => exact .inl ⟨_, rfl⟩
  | map _ _ => exact .inr ⟨_, rfl⟩
  | _ => exact absurd trivial hv

theorem isJson_list_map {α : Type} {write : α → Document} {as : List α}
    (h : ∀ a ∈ as, (write a).IsJson) : (Document.list (as.map write)).IsJson := by
  rw [isJson_list_iff, List.forall_mem_map]
  exact h

theorem isJson_ofTexts (texts : List String) : (ofTexts texts).IsJson :=
  isJson_list_map fun s _ => .text s

theorem isJson_ofFields_map {α : Type} {write : α → String × Document} {as : List α}
    (h : ∀ a ∈ as, (write a).2.IsJson) : (ofFields (as.map write)).IsJson := by
  rw [isJson_ofFields, List.forall_mem_map]
  exact h

end Document

theorem Choice.isJson_toDocument {α : Type} [Choice α] (a : α) : (toDocument a).IsJson := .text _

theorem Moment.isJson_document (m : Moment) : m.document.IsJson := .text _

/-! ## Snapshots of plain data

The conditions below say of each kind of record that the documents it keeps are plain data. -/

def Property.IsJson (p : Property) : Prop := p.target.IsJson

def ItemType.IsJson (t : ItemType) : Prop := ∀ p ∈ t.properties, p.IsJson

def Condition.IsJson (c : Condition) : Prop := c.value.IsJson

structure Period.IsJson (p : Period) : Prop where
  start : (boundDocument p.start).IsJson
  stop : (boundDocument p.stop).IsJson

structure Query.IsJson (q : Query) : Prop where
  conditions : ∀ c ∈ q.conditions, c.IsJson
  period : ∀ p ∈ q.period, p.IsJson

structure ChartConfig.IsJson (c : ChartConfig) : Prop where
  progressBy : c.progressBy.IsJson
  doneValue : c.doneValue.IsJson

structure Panel.IsJson (p : Panel) : Prop where
  query : p.query.IsJson
  color : p.color.IsJson
  chart : ∀ c ∈ p.chart, c.IsJson

structure Snapshot.IsJson (s : Snapshot) : Prop where
  types : ∀ t ∈ s.types, t.IsJson
  panels : ∀ p ∈ s.panels, p.IsJson

/-! ### Reading plain data -/

section Reading

variable {d : Document}

theorem Property.isJson_of_read (hd : d.IsJson) {p : Property} (h : Property.read d = .ok p) :
    p.IsJson := by
  simp only [Property.read, bind_eq_ok] at h
  obtain ⟨_, _, _, _, _, _, _, _, _, _, _, _, target, htarget, heq⟩ := h
  cases heq
  exact hd.holds htarget

theorem ItemType.isJson_of_read (hd : d.IsJson) {t : ItemType} (h : ItemType.read d = .ok t) :
    t.IsJson := by
  simp only [ItemType.read, bind_eq_ok] at h
  obtain ⟨_, _, _, _, _, _, _, _, _, _, _, _, ps, hps, properties, hread, hmake⟩ := h
  split at hmake
  · rename_i t' hmade
    cases hmake
    intro p hp
    rw [properties_of_make hmade] at hp
    obtain ⟨pd, hpd, hpread⟩ := forall_of_mapM_eq_ok hread p hp
    exact Property.isJson_of_read (hd.lists ⟨ps, hps, hpd⟩) hpread
  · cases hmake

/-- Whatever a bound was read from, it is nothing, a text, a day or a moment. -/
theorem Period.isJson_boundDocument {b : Document} (h : readBound d = .ok b) :
    (boundDocument b).IsJson := by
  cases d with
  | null =>
    cases h
    exact .null
  | text s =>
    cases h
    exact .text s
  | date day =>
    cases h
    exact .text _
  | int n =>
    obtain ⟨m, -, heq⟩ := bind_eq_ok.1 h
    cases heq
    exact .text _
  | float x =>
    obtain ⟨m, -, heq⟩ := bind_eq_ok.1 h
    cases heq
    exact .text _
  | stamp s =>
    obtain ⟨m, -, heq⟩ := bind_eq_ok.1 h
    cases heq
    exact .text _
  | _ =>
    obtain ⟨shown, -, heq⟩ := bind_eq_ok.1 h
    cases heq

theorem Period.isJson_of_read {p : Period} (h : Period.read d = .ok p) : p.IsJson := by
  unfold Period.read at h
  split at h
  · simp only [bind_eq_ok] at h
    obtain ⟨_, _, _, _, start, hstart, _, _, stop, hstop, heq⟩ := h
    cases heq
    exact ⟨isJson_boundDocument hstart, isJson_boundDocument hstop⟩
  · cases h

theorem Query.isJson_of_read (hd : d.IsJson) {q : Query} (h : Query.read d = .ok q) :
    q.IsJson := by
  have h := of_withDefect_eq_ok h
  simp only [ite_bind, bind_eq_ok] at h
  obtain ⟨_, _, _, _, _, _, _, _, cs, hcs, conditions, hconditions, period, hperiod, _, _, _, _,
    _, _, heq⟩ := h
  cases heq
  constructor
  · intro c hc
    obtain ⟨cd, hcd, hread⟩ := forall_of_mapM_eq_ok hconditions c hc
    exact (hd.lists ⟨cs, hcs, hcd⟩).holds (Condition.holds_of_read hread)
  · intro p hp
    cases hp
    split at hperiod
    · obtain ⟨p', hread, heq⟩ := map_eq_ok.1 hperiod
      cases heq
      exact Period.isJson_of_read hread
    · cases hperiod

/-- The conditions of a query compare with what its document lists. -/
theorem Query.exists_condition_iff {q : Query} (h : Query.read d = .ok q) {test : Document → Prop} :
    (∃ c ∈ q.conditions, test c.value) ↔
      ∃ c v, d.Lists "propertyFilters" c ∧ c.Holds "value" v ∧ test v := by
  have h := of_withDefect_eq_ok h
  simp only [ite_bind, bind_eq_ok] at h
  obtain ⟨_, _, _, _, _, _, _, _, cs, hcs, conditions, hconditions, _, _, _, _, _, _, _, _,
    heq⟩ := h
  cases heq
  have hvalue (cd : Document) (c : Condition) (hread : Condition.read cd = .ok c) :
      test c.value ↔ ∃ v, cd.Holds "value" v ∧ test v := by
    have hholds := Condition.holds_of_read hread
    exact ⟨fun ht => ⟨c.value, hholds, ht⟩, fun ⟨v, hv, ht⟩ => hholds.unique hv ▸ ht⟩
  rw [exists_result_iff hconditions hvalue]
  simp only [lists_iff_of_fieldList hcs, exists_and_left]

theorem ChartConfig.isJson_of_read (hd : d.IsJson) {c : ChartConfig}
    (h : ChartConfig.read d = .ok c) : c.IsJson := by
  have h := of_withDefect_eq_ok h
  simp only [bind_eq_ok] at h
  obtain ⟨_, _, _, _, _, _, progress, hprogress, done, hdone, _, _, _, _, _, _, _, _, heq⟩ := h
  cases heq
  exact ⟨hd.holds hprogress, hd.holds hdone⟩

theorem isJson_or_empty {v : Document} (h : v.IsJson) :
    (if v.isPresent = true then v else .map []).IsJson := by
  split
  · exact h
  · exact .map (by simp) (by simp)

theorem Panel.isJson_of_read (hd : d.IsJson) {p : Panel} (h : Panel.read d = .ok p) :
    p.IsJson := by
  simp only [Panel.read, ite_bind, bind_eq_ok] at h
  obtain ⟨_, _, _, _, stored, hstored, _, _, _, _, _, _, query, hquery, q, hq, _, _, color, hcolor,
    chart, hchart, _, _, _, _, heq⟩ := h
  cases heq
  refine ⟨Query.isJson_of_read (isJson_or_empty (hd.holds hquery)) hq, hd.holds hcolor, ?_⟩
  intro c hc
  cases hc
  split at hchart
  · obtain ⟨c', hread, heq⟩ := map_eq_ok.1 hchart
    cases heq
    exact ChartConfig.isJson_of_read (hd.holds hstored) hread
  · cases hchart

/-- A panel compares with what the query of its document does; a query that does not count as
present has no conditions on either side. -/
theorem Panel.exists_condition_iff {p : Panel} (h : Panel.read d = .ok p) {test : Document → Prop} :
    (∃ c ∈ p.query.conditions, test c.value) ↔
      ∃ q c v, d.Holds "query" q ∧ q.Lists "propertyFilters" c ∧ c.Holds "value" v ∧ test v := by
  simp only [Panel.read, ite_bind, bind_eq_ok] at h
  obtain ⟨_, _, _, _, _, _, _, _, _, _, _, _, query, hquery, q, hq, _, _, _, _, _, _, _, _, _, _,
    heq⟩ := h
  cases heq
  have hstored : (∃ c v, (if query.isPresent = true then query else .map []).Lists
      "propertyFilters" c ∧ c.Holds "value" v ∧ test v) ↔
      ∃ c v, query.Lists "propertyFilters" c ∧ c.Holds "value" v ∧ test v := by
    split
    · exact Iff.rfl
    · rename_i habsent
      simp only [not_lists_of_not_isPresent habsent,
        not_lists_of_not_isPresent (d := .map []) Bool.false_ne_true, false_and, exists_false]
  rw [Query.exists_condition_iff hq, hstored]
  constructor
  · rintro ⟨c, v, hc, hv, ht⟩
    exact ⟨query, c, v, hquery, hc, hv, ht⟩
  · rintro ⟨q', c, v, hq', hc, hv, ht⟩
    rw [hq'.unique hquery] at hc
    exact ⟨c, v, hc, hv, ht⟩

theorem Snapshot.isJson_of_read (hd : d.IsJson) {s : Snapshot} (h : Snapshot.read d = .ok s) :
    s.IsJson := by
  unfold Snapshot.read at h
  split at h
  · simp only [bind_eq_ok] at h
    obtain ⟨ts, hts, types, htypes, _, _, _, _, ps, hps, panels, hpanels, heq⟩ := h
    cases heq
    constructor
    · intro t ht
      obtain ⟨td, htd, hread⟩ := forall_of_mapM_eq_ok htypes t ht
      exact ItemType.isJson_of_read (hd.lists ⟨ts, hts, htd⟩) hread
    · intro p hp
      obtain ⟨pd, hpd, hread⟩ := forall_of_mapM_eq_ok hpanels p hp
      exact Panel.isJson_of_read (hd.lists ⟨ps, hps, hpd⟩) hread
  · cases h

/-- The conditions of a snapshot compare with what its document compares with. -/
theorem Snapshot.exists_condition_iff {s : Snapshot} (h : Snapshot.read d = .ok s)
    {test : Document → Prop} :
    (∃ p ∈ s.panels, ∃ c ∈ p.query.conditions, test c.value) ↔
      ∃ v, d.ComparesWith v ∧ test v := by
  unfold Snapshot.read at h
  split at h
  · simp only [bind_eq_ok] at h
    obtain ⟨_, _, _, _, _, _, _, _, ps, hps, panels, hpanels, heq⟩ := h
    cases heq
    rw [exists_result_iff hpanels fun pd p hread => Panel.exists_condition_iff hread]
    constructor
    · rintro ⟨p, hp, q, c, v, hq, hc, hv, ht⟩
      exact ⟨v, ⟨p, q, c, ⟨ps, hps, hp⟩, hq, hc, hv⟩, ht⟩
    · rintro ⟨v, ⟨p, q, c, hp, hq, hc, hv⟩, ht⟩
      exact ⟨p, (lists_iff_of_fieldList hps).1 hp, q, c, v, hq, hc, hv, ht⟩
  · cases h

end Reading

/-! ### Writing plain data -/

theorem Property.isJson_document {p : Property} (h : p.IsJson) : p.document.IsJson := by
  rw [document, isJson_ofFields, List.forall_mem_append, List.forall_mem_append]
  refine ⟨⟨?_, ?_⟩, ?_⟩
  · simp [IsJson.text, Choice.isJson_toDocument]
  · split
    · exact List.forall_mem_nil _
    · exact List.forall_mem_singleton.2 (isJson_ofTexts p.options)
  · split
    · exact List.forall_mem_singleton.2 h
    · exact List.forall_mem_nil _

theorem ItemType.isJson_document {t : ItemType} (h : t.IsJson) : t.document.IsJson := by
  have hproperties : (Document.list (t.properties.map (·.document))).IsJson :=
    isJson_list_map fun p hp => Property.isJson_document (h p hp)
  simp [document, isJson_ofFields, IsJson.text, hproperties]

theorem Value.isJson_document (v : Value) : v.document.IsJson := by
  cases v with
  | text s => exact .text s
  | number x => exact .float x
  | flag b => exact .bool b
  | moment m => exact m.isJson_document
  | texts items => exact isJson_ofTexts items
  | links refs =>
    refine isJson_list_map fun l _ => ?_
    simp [Link.document, isJson_ofFields, IsJson.text]

theorem Item.isJson_document (item : Item) : item.document.IsJson := by
  rw [document, isJson_ofFields, List.forall_mem_append]
  constructor
  · simp only [List.forall_mem_cons]
    exact ⟨.text _, .text _, .text _, .text _, isJson_ofFields_map fun p _ => p.2.isJson_document,
      isJson_ofTexts _, isJson_ofTexts _, isJson_ofTexts _, .text _, .text _, List.forall_mem_nil _⟩
  · split
    · exact List.forall_mem_singleton.2 (isJson_list_map fun x _ => .float x)
    · exact List.forall_mem_nil _

theorem ChartConfig.isJson_document {c : ChartConfig} (h : c.IsJson) : c.document.IsJson := by
  simp [document, isJson_ofFields, IsJson.text, Choice.isJson_toDocument, h.progressBy,
    h.doneValue, isJson_ofTexts]

theorem Period.isJson_document {p : Period} (h : p.IsJson) : p.document.IsJson := by
  simp [document, isJson_ofFields, IsJson.text, h.start, h.stop]

private theorem Condition.valueDocument_of_not_isScalar {c : Condition} (hc : c.IsJson)
    (h : ¬ c.value.IsScalar) : c.valueDocument = .error .noField := by
  unfold valueDocument
  rcases hc.compound_of_not_isScalar h with ⟨items, heq⟩ | ⟨entries, heq⟩
  · rw [heq]
  · rw [heq]

theorem Condition.document_eq_error {c : Condition} (hc : c.IsJson) {e : Fault} :
    c.document = .error e ↔ e = .noField ∧ ¬ c.value.IsScalar := by
  by_cases h : c.value.IsScalar
  · simp [document, valueDocument_of_isScalar h, h]
  · simp [document, valueDocument_of_not_isScalar hc h, h, eq_comm]

theorem Condition.isJson_document {c : Condition} (hc : c.IsJson) {w : Document}
    (h : c.document = .ok w) : w.IsJson := by
  by_cases hv : c.value.IsScalar
  · rw [document, valueDocument_of_isScalar hv] at h
    cases h
    simp [isJson_ofFields, IsJson.text, Choice.isJson_toDocument, show c.value.IsJson from hc]
  · rw [document, valueDocument_of_not_isScalar hc hv] at h
    cases h

theorem Query.document_eq_error {q : Query} (hq : q.IsJson) {e : Fault} :
    q.document = .error e ↔ e = .noField ∧ ∃ c ∈ q.conditions, ¬ c.value.IsScalar := by
  rw [document, bind_eq_error, mapM_eq_error fun c hc _ =>
    Condition.document_eq_error (hq.conditions c hc)]
  simp

theorem Query.isJson_document {q : Query} (hq : q.IsJson) {w : Document}
    (h : q.document = .ok w) : w.IsJson := by
  obtain ⟨conditions, hconditions, heq⟩ := bind_eq_ok.1 h
  cases heq
  have hlist : (Document.list conditions).IsJson := .list fun cd hcd => by
    obtain ⟨c, hc, hwrite⟩ := forall_of_mapM_eq_ok hconditions cd hcd
    exact Condition.isJson_document (hq.conditions c hc) hwrite
  rw [isJson_ofFields, List.forall_mem_append, List.forall_mem_append]
  refine ⟨⟨?_, ?_⟩, ?_⟩
  · simp [isJson_ofTexts, hlist, IsJson.text, Choice.isJson_toDocument]
  · split
    · exact List.forall_mem_singleton.2 (Choice.isJson_toDocument _)
    · exact List.forall_mem_nil _
  · split
    · rename_i p hp
      exact List.forall_mem_singleton.2 (Period.isJson_document (hq.period p hp))
    · exact List.forall_mem_nil _

theorem Panel.document_eq_error {p : Panel} (hp : p.IsJson) {e : Fault} :
    p.document = .error e ↔ e = .noField ∧ ∃ c ∈ p.query.conditions, ¬ c.value.IsScalar := by
  rw [document, bind_eq_error, Query.document_eq_error hp.query]
  simp

theorem Panel.isJson_document {p : Panel} (hp : p.IsJson) {w : Document}
    (h : p.document = .ok w) : w.IsJson := by
  obtain ⟨query, hquery, heq⟩ := bind_eq_ok.1 h
  cases heq
  rw [isJson_ofFields, List.forall_mem_append]
  constructor
  · have hwritten := Query.isJson_document hp.query hquery
    simp [IsJson.text, IsJson.int, Choice.isJson_toDocument, hp.color, hwritten]
  · split
    · rename_i c hc
      exact List.forall_mem_singleton.2 (ChartConfig.isJson_document (hp.chart c hc))
    · exact List.forall_mem_nil _

theorem Snapshot.document_eq_error {s : Snapshot} (hs : s.IsJson) {e : Fault} :
    s.document = .error e ↔
      e = .noField ∧ ∃ p ∈ s.panels, ∃ c ∈ p.query.conditions, ¬ c.value.IsScalar := by
  rw [document, bind_eq_error, mapM_eq_error fun p hp _ =>
    Panel.document_eq_error (hs.panels p hp)]
  simp

/-- What is written of a snapshot of plain data is a mapping of plain data. -/
theorem Snapshot.isJson_document {s : Snapshot} (hs : s.IsJson) {w : Document}
    (h : s.document = .ok w) : ∃ fields, w = ofFields fields ∧ ∀ f ∈ fields, f.2.IsJson := by
  obtain ⟨panels, hpanels, heq⟩ := bind_eq_ok.1 h
  cases heq
  refine ⟨_, rfl, ?_⟩
  have htypes : (Document.list (s.types.map (·.document))).IsJson :=
    isJson_list_map fun t ht => ItemType.isJson_document (hs.types t ht)
  have hitems : (Document.list (s.items.map (·.document))).IsJson :=
    isJson_list_map fun item _ => item.isJson_document
  have hlist : (Document.list panels).IsJson := .list fun pd hpd => by
    obtain ⟨p, hp, hwrite⟩ := forall_of_mapM_eq_ok hpanels pd hpd
    exact Panel.isJson_document (hs.panels p hp) hwrite
  simp [htypes, hitems, hlist]

/-! ## Accepted documents -/

/-- A snapshot that is accepted from a document of plain data is written as a mapping of plain data
when the conditions of its panels compare with scalars, and it is not written when one of them
compares with anything else. -/
theorem Snapshot.document_of_read {d : Document} (hd : d.IsJson) {s : Snapshot}
    (h : Snapshot.read d = .ok s) :
    ((∀ v, d.ComparesWith v → v.IsScalar) →
      ∃ fields, s.document = .ok (ofFields fields) ∧ ∀ f ∈ fields, f.2.IsJson) ∧
    (∀ v, d.ComparesWith v → ¬ v.IsScalar → s.document = .error .noField) := by
  have hs := isJson_of_read hd h
  constructor
  · intro hscalar
    have hends : ∃ w, s.document = .ok w := exists_eq_ok fun e he => by
      obtain ⟨-, hcompound⟩ := (document_eq_error hs).1 he
      obtain ⟨v, hv, hnot⟩ := (@exists_condition_iff d s h fun v => ¬ v.IsScalar).1 hcompound
      exact hnot (hscalar v hv)
    obtain ⟨w, hw⟩ := hends
    obtain ⟨fields, rfl, hfields⟩ := isJson_document hs hw
    exact ⟨fields, hw, hfields⟩
  · intro v hv hnot
    exact (document_eq_error hs).2 ⟨rfl,
      (@exists_condition_iff d s h fun v => ¬ v.IsScalar).2 ⟨v, hv, hnot⟩⟩

theorem Snapshot.document_of_read_tasks : ∃ s fields, Snapshot.read tasks = .ok s ∧
    s.document = .ok (ofFields fields) ∧ ∀ f ∈ fields, f.2.IsJson := by
  obtain ⟨s, hs⟩ : ∃ s, Snapshot.read tasks = .ok s := ⟨_, rfl⟩
  have hscalar (v : Document) : tasks.ComparesWith v → v.IsScalar := by
    rintro ⟨p, q, c, hp, hq, hc, hv⟩
    exact isPlain_tasks.values p q c v hp hq hc hv
  obtain ⟨fields, hwrite, hfields⟩ :=
    (Snapshot.document_of_read isPlain_tasks.json hs).1 hscalar
  exact ⟨s, fields, hs, hwrite, hfields⟩

/-- A document with one panel, whose items contain a value in their tags. -/
def Document.tagsPanel (value : Document) : Document := .ofFields [
  ("panels", .list [.ofFields [("id", .text "p"),
    ("query", .ofFields [("propertyFilters", .list [.ofFields [("propertyId", .text "tags"),
      ("operator", .text "contains"), ("value", value)]])])]])]

/-- A panel that compares with a list, or with a mapping, is accepted and not written. -/
theorem Snapshot.accepted_not_written :
    (tagsPanel (ofTexts ["a", "b"])).IsJson ∧
    (∃ s, Snapshot.read (tagsPanel (ofTexts ["a", "b"])) = .ok s ∧
      s.document = .error .noField) ∧
    (tagsPanel (ofFields [("id", .text "a")])).IsJson ∧
    (∃ s, Snapshot.read (tagsPanel (ofFields [("id", .text "a")])) = .ok s ∧
      s.document = .error .noField) := by
  have hjson {value : Document} (h : value.IsJson) : (tagsPanel value).IsJson := by
    simp [tagsPanel, isJson_list_iff, isJson_ofFields, IsJson.text, h]
  refine ⟨hjson (isJson_ofTexts _), ⟨_, rfl, rfl⟩, hjson ?_, ⟨_, rfl, rfl⟩⟩
  simp [isJson_ofFields, IsJson.text]

end Cuaderno
