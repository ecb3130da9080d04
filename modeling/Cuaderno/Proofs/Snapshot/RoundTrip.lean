import Cuaderno.Proofs.Calendar.IsoText
import Cuaderno.Proofs.Snapshot.WrittenFields

/-!
# Written snapshots are read back

Writing erases how a value was given: a moment becomes a text, links become a list of mappings, and
fields that hold nothing are left out. A snapshot is *storable* when nothing is lost by that; the
main theorem, `Snapshot.read_document`, says that a storable snapshot is written, and that reading
what was written gives the snapshot again.
-/

namespace Cuaderno

open Document Outcome

/-- Whether writing a property keeps the type that it links to: one that is none of those that
count as absent, or none at all. -/
def Property.Storable (p : Property) : Prop := p.target = .null ∨ p.target.isPresent = true

theorem Property.read_document {p : Property} (h : p.Storable) :
    Property.read p.document = .ok p := by
  have hid : p.document.required "property" "id" = .ok (.text p.id) := required_ofFields rfl
  have hname : p.document.fieldText "name" p.id = .ok p.name := fieldText_ofFields rfl
  have hkind : p.document.fieldText "type" "text" = .ok (Choice.name p.kind) :=
    fieldText_ofFields rfl
  have hoptions : p.document.fieldTexts "options" = .ok p.options := by
    cases ho : p.options with
    | nil =>
      apply fieldTexts_ofFields_none
      rw [ho]
      rcases h with h | h
      · rw [h]
        rfl
      · rw [h]
        rfl
    | cons o os =>
      apply fieldTexts_ofFields
      rw [ho]
      rfl
  have htarget : p.document.fieldOrNull "relationTypeId" = .ok p.target := by
    rw [document, fieldOrNull_ofFields]
    rcases h with h | h
    · rw [h]
      cases p.options <;> rfl
    · rw [h]
      cases p.options <;> rfl
  simp [Property.read, hid, hname, hkind, PropertyKind.read_name, hoptions, htarget]

def ItemType.Storable (t : ItemType) : Prop := ∀ p ∈ t.properties, p.Storable

private theorem ItemType.make_self (t : ItemType) :
    make t.id t.name t.plural t.icon t.color t.properties = .ok t := by
  rw [make, dif_neg t.id_ne, dif_pos t.distinct]

theorem ItemType.read_document {t : ItemType} (h : t.Storable) :
    ItemType.read t.document = .ok t := by
  have hid : t.document.required "object type" "id" = .ok (.text t.id) := required_ofFields rfl
  have hname : t.document.fieldText "name" t.id = .ok t.name := fieldText_ofFields rfl
  have hplural : t.document.fieldText "namePlural" t.name = .ok t.plural := fieldText_ofFields rfl
  have hicon : t.document.fieldText "icon" "" = .ok t.icon := fieldText_ofFields rfl
  have hcolor : t.document.fieldText "color" "" = .ok t.color := fieldText_ofFields rfl
  have hlist : t.document.fieldList "properties" = .ok (t.properties.map (·.document)) :=
    fieldList_ofFields rfl
  have hproperties : (t.properties.map (·.document)).mapM Property.read = .ok t.properties :=
    mapM_map_eq_ok fun p hp => Property.read_document (h p hp)
  simp [ItemType.read, hid, hname, hplural, hicon, hcolor, hlist, hproperties, make_self]

private theorem withoutZ_isoText (m : Moment) : withoutZ m.isoText = m.isoText := by
  have hZ := Iso.Z_not_mem_isoText m
  generalize m.isoText = cs at hZ
  induction cs with
  | nil => rfl
  | cons c cs ih =>
    rw [List.mem_cons, not_or] at hZ
    rw [withoutZ, List.flatMap_cons, if_neg (Ne.symm hZ.1), ← withoutZ, ih hZ.2]
    rfl

theorem Moment.readText_isoText (m : Moment) :
    Moment.readText (String.ofList m.isoText) = .ok m := by
  rw [readText, String.toList_ofList, withoutZ_isoText, Iso.stamp?_isoText]
  rfl

private theorem Moment.readOrFirst_text (s : String) :
    Moment.readOrFirst (.text s) = Moment.readText s :=
  rfl

theorem Moment.readOrFirst_document (m : Moment) : Moment.readOrFirst m.document = .ok m := by
  rw [Moment.document, readOrFirst_text, readText_isoText]

/-- Whether a value is read back under a property as what it was. -/
def Value.Storable (property : Option Property) (v : Value) : Prop :=
  Value.read v.document property = .ok (some v)

/-- Whether an item is read back among some types as what it was. -/
structure Item.Storable (types : List ItemType) (item : Item) : Prop where
  distinct : (item.properties.map Prod.fst).Nodup
  values : ∀ p ∈ item.properties,
    p.2.Storable ((ItemType.last? types item.typeId).bind (·.property? p.1))
  embedding : item.embedding ≠ some []

/-- Properties are read in their order, behind those that were read before. -/
theorem Item.foldlM_readProperties {type : Option ItemType} {properties : List (String × Value)}
    (hv : ∀ p ∈ properties, p.2.Storable (type.bind (·.property? p.1)))
    {before : List (String × Value)}
    (hd : ((before ++ properties).map Prod.fst).Nodup) :
    (properties.map fun p => (Key.text p.1, p.2.document)).foldlM (readProperty type) before =
      .ok (before ++ properties) := by
  induction properties generalizing before with
  | nil => simp
  | cons p properties ih =>
    obtain ⟨id, v⟩ := p
    have hread : Value.read v.document (type.bind (·.property? id)) = .ok (some v) :=
      hv (id, v) (List.mem_cons_self ..)
    have hnew : id ∉ before.map Prod.fst := by
      rw [List.map_append, List.nodup_append] at hd
      intro hmem
      exact hd.2.2 id hmem id (by simp) rfl
    rw [List.append_cons] at hd ⊢
    rw [← ih (fun q hq => hv q (List.mem_cons_of_mem _ hq)) hd, ← Fields.put_of_not_mem hnew]
    simp [readProperty, Key.property?, hread]

theorem Item.readProperties_document {type : Option ItemType}
    {properties : List (String × Value)} (hd : (properties.map Prod.fst).Nodup)
    (hv : ∀ p ∈ properties, p.2.Storable (type.bind (·.property? p.1))) :
    Item.readProperties (.ofFields (properties.map fun (k, v) => (k, v.document))) type =
      .ok properties := by
  have h := @foldlM_readProperties type properties hv [] hd
  rw [List.nil_append] at h
  rw [← h, readProperties, ofFields, List.map_map]
  rfl

private theorem ofFields_or_empty (fields : List (String × Document)) :
    (if (ofFields fields).isPresent = true then ofFields fields else .map []) =
      ofFields fields := by
  cases fields with
  | nil => rfl
  | cons f fields => rfl

theorem Item.read_document {types : List ItemType} {item : Item} (h : item.Storable types) :
    Item.read types item.document = .ok item := by
  have hid : item.document.required "object" "id" = .ok (.text item.id) := required_ofFields rfl
  have htype : item.document.required "object" "type" = .ok (.text item.typeId) :=
    required_ofFields rfl
  have htitle : item.document.fieldText "title" "" = .ok item.title := fieldText_ofFields rfl
  have hcontent : item.document.fieldText "content" "" = .ok item.content := fieldText_ofFields rfl
  have htags : item.document.fieldTexts "tags" = .ok item.tags := fieldTexts_ofFields rfl
  have hlinks : item.document.fieldTexts "links" = .ok item.links := fieldTexts_ofFields rfl
  have hbacklinks : item.document.fieldTexts "backlinks" = .ok item.backlinks :=
    fieldTexts_ofFields rfl
  have hcreated : item.document.fieldOrNull "createdAt" = .ok item.created.document :=
    fieldOrNull_ofFields
  have hupdated : item.document.field? "updatedAt" = .ok (some item.updated.document) :=
    field?_ofFields
  have hstored : item.document.fieldOrNull "properties" =
      .ok (.ofFields (item.properties.map fun (k, v) => (k, v.document))) := fieldOrNull_ofFields
  have hproperties := Item.readProperties_document h.distinct h.values
  cases he : item.embedding with
  | none =>
    have hembedding : item.document.fieldOrNull "embedding" = .ok .null := by
      rw [document, fieldOrNull_ofFields, he]
      rfl
    have hpresent : Document.null.isPresent = false := rfl
    simp [Item.read, hid, htype, htitle, hcontent, htags, hlinks, hbacklinks, hcreated, hupdated,
      hstored, ofFields_or_empty, hproperties, hembedding, Moment.readOrFirst_document, hpresent,
      ← he]
  | some xs =>
    have hembedding : item.document.fieldOrNull "embedding" = .ok (.list (xs.map .float)) := by
      rw [document, fieldOrNull_ofFields, he]
      rfl
    have hpresent : (Document.list (xs.map .float)).isPresent = true := by
      cases xs with
      | nil => exact absurd he h.embedding
      | cons x xs => rfl
    have hlisted : (Document.list (xs.map .float)).listed = .ok (xs.map .float) := rfl
    have hxs : (xs.map Document.float).mapM Number.read = .ok xs := mapM_map_eq_ok fun _ _ => rfl
    simp [Item.read, hid, htype, htitle, hcontent, htags, hlinks, hbacklinks, hcreated, hupdated,
      hstored, ofFields_or_empty, hproperties, hembedding, Moment.readOrFirst_document, hpresent,
      hlisted, hxs, ← he]

/-- Whether a document is null, a flag, a number or a text. -/
def Document.IsScalar : Document → Prop
  | .null | .bool _ | .int _ | .float _ | .text _ => True
  | _ => False

def Document.IsTextOrNull : Document → Prop
  | .null | .text _ => True
  | _ => False

def Condition.Storable (c : Condition) : Prop := c.value.IsScalar

/-- What a condition compares with has a plain form when it is scalar. -/
theorem Condition.valueDocument_of_isScalar {c : Condition} (h : c.value.IsScalar) :
    c.valueDocument = .ok c.value := by
  unfold valueDocument
  generalize c.value = v at h
  cases v with
  | null | bool _ | int _ | float _ | text _ => rfl
  | _ => exact absurd h id

/-- A condition that is written compares with what it was written for. -/
theorem Condition.read_document_of {c : Condition} {value : Document}
    (h : c.valueDocument = .ok value) :
    ∃ d, c.document = .ok d ∧ Condition.read d = .ok { c with value := value } := by
  refine ⟨_, by rw [document, h]; rfl, ?_⟩
  generalize hd : ofFields _ = d
  have hid : d.required "property filter" "propertyId" = .ok (.text c.propertyId) := by
    rw [← hd, required_ofFields rfl]
  have hoperator : d.required "property filter" "operator" =
      .ok (Choice.toDocument c.operator) := by
    rw [← hd, required_ofFields rfl]
  have hvalue : d.fieldOrNull "value" = .ok value := by
    rw [← hd, fieldOrNull_ofFields]
    rfl
  simp [Condition.read, hid, hoperator, hvalue, Operator.ofDocument_toDocument]

theorem Condition.read_document {c : Condition} (h : c.Storable) :
    ∃ d, c.document = .ok d ∧ Condition.read d = .ok c :=
  read_document_of (valueDocument_of_isScalar h)

structure Period.Storable (p : Period) : Prop where
  start : p.start.IsTextOrNull
  stop : p.stop.IsTextOrNull

private theorem Period.readBound_boundDocument {d : Document} (h : d.IsTextOrNull) :
    readBound (boundDocument d) = .ok d := by
  cases d with
  | null => rfl
  | text s => rfl
  | _ => exact absurd h id

theorem Period.read_document {p : Period} (h : p.Storable) : Period.read p.document = .ok p := by
  have hfield : p.document.fieldText "field" "createdAt" = .ok p.field := fieldText_ofFields rfl
  have hstart : p.document.fieldOrNull "start" = .ok (boundDocument p.start) := fieldOrNull_ofFields
  have hstop : p.document.fieldOrNull "end" = .ok (boundDocument p.stop) := fieldOrNull_ofFields
  have hread : Period.read p.document = do
    let field ← p.document.fieldText "field" "createdAt"
    let start ← readBound (← p.document.fieldOrNull "start")
    let stop ← readBound (← p.document.fieldOrNull "end")
    return ⟨field, start, stop⟩ := rfl
  simp [hread, hfield, hstart, hstop, readBound_boundDocument h.start,
    readBound_boundDocument h.stop]

/-- A record that may be missing is read back when it is written as something. -/
theorem read_optional {α : Type} {read : Document → Except Fault α} {write : α → Document}
    {o : Option α} (hpresent : ∀ a, (write a).isPresent = true)
    (hread : ∀ a ∈ o, read (write a) = .ok a) :
    (if ((o.map write).getD .null).isPresent = true then some <$> read ((o.map write).getD .null)
      else pure none) = .ok o := by
  cases o with
  | none => rfl
  | some a =>
    have ha : read (write a) = .ok a := hread a rfl
    simp [hpresent, ha]

structure Query.Storable (q : Query) : Prop where
  conditions : ∀ c ∈ q.conditions, c.Storable
  period : ∀ p ∈ q.period, p.Storable

private theorem withDefect_ok {α : Type} (defect : InvalidValue → Defect) (a : α) :
    withDefect defect (.ok a) = .ok a := rfl

private theorem Preset.isPresent_toDocument (p : Preset) :
    (Choice.toDocument p).isPresent = true := by
  cases p <;> decide

/-- A query is read back with the conditions that its written conditions are read as. -/
theorem Query.read_document_of {q : Query} (restored : Condition → Condition)
    (hconditions : ∀ c ∈ q.conditions, ∃ d, c.document = .ok d ∧
      Condition.read d = .ok (restored c))
    (hperiod : ∀ p ∈ q.period, p.Storable) :
    ∃ d, q.document = .ok d ∧ d.isPresent = true ∧
      Query.read d = .ok { q with conditions := q.conditions.map restored } := by
  obtain ⟨conditions, hwrite, hread⟩ := exists_mapM_map_eq_ok hconditions
  refine ⟨_, (by rw [document, hwrite]; rfl), rfl, ?_⟩
  generalize hd : ofFields _ = d
  have htypes : d.fieldTexts "types" = .ok q.types := by
    rw [← hd, fieldTexts_ofFields rfl]
  have hfilters : d.fieldList "propertyFilters" = .ok conditions := by
    rw [← hd, fieldList_ofFields rfl]
  have hsort : d.fieldText "sortBy" "updatedAt" = .ok q.sortBy := by
    rw [← hd, fieldText_ofFields rfl]
  have hdirection : d.field? "sortDirection" = .ok (some (Choice.toDocument q.direction)) := by
    rw [← hd, field?_ofFields]
    rfl
  have hpreset : d.fieldOrNull "specialFilter" =
      .ok ((q.preset.map Choice.toDocument).getD .null) := by
    rw [← hd, fieldOrNull_ofFields]
    cases q.preset <;> cases q.period <;> rfl
  have hrange : d.fieldOrNull "dateRange" = .ok ((q.period.map (·.document)).getD .null) := by
    rw [← hd, fieldOrNull_ofFields]
    cases q.preset <;> cases q.period <;> rfl
  have hpresetRead := @read_optional Preset Choice.ofDocument Choice.toDocument q.preset
    Preset.isPresent_toDocument fun p _ => p.ofDocument_toDocument
  have hperiodRead := @read_optional Period Period.read Period.document q.period
    (fun _ => rfl) fun p hp => Period.read_document (hperiod p hp)
  simp only [Query.read, hpreset, hrange, htypes, hfilters, hread, hsort, hdirection, ok_bind,
    ite_bind, hpresetRead, hperiodRead, Option.getD_some, Direction.ofDocument_toDocument]
  exact withDefect_ok _ _

theorem Query.read_document {q : Query} (h : q.Storable) :
    ∃ d, q.document = .ok d ∧ d.isPresent = true ∧ Query.read d = .ok q := by
  have hback := read_document_of id
    (fun c hc => Condition.read_document (h.conditions c hc)) h.period
  rwa [List.map_id] at hback

theorem ChartConfig.read_document (c : ChartConfig) : ChartConfig.read c.document = .ok c := by
  have hkind : c.document.required "chart config" "type" = .ok (Choice.toDocument c.kind) :=
    required_ofFields rfl
  have hgroup : c.document.fieldText "groupByProperty" "type" = .ok c.groupBy :=
    fieldText_ofFields rfl
  have hprogress : c.document.fieldOrNull "progressProperty" = .ok c.progressBy :=
    fieldOrNull_ofFields
  have hdone : c.document.fieldOrNull "progressCompletedValue" = .ok c.doneValue :=
    fieldOrNull_ofFields
  have htimeline : c.document.fieldText "timelineProperty" "createdAt" = .ok c.timelineBy :=
    fieldText_ofFields rfl
  have hgrouping : c.document.field? "timelineGroupBy" =
      .ok (some (Choice.toDocument c.grouping)) := field?_ofFields
  have hcolors : c.document.fieldTexts "colors" = .ok c.colors := fieldTexts_ofFields rfl
  simp only [ChartConfig.read, hkind, hgroup, hprogress, hdone, htimeline, hgrouping, hcolors,
    ok_bind, Option.getD_some, ChartKind.ofDocument_toDocument, Grouping.ofDocument_toDocument]
  exact withDefect_ok _ _

def Panel.Storable (p : Panel) : Prop := p.query.Storable

theorem Panel.read_document {p : Panel} (h : p.Storable) :
    ∃ d, p.document = .ok d ∧ Panel.read d = .ok p := by
  obtain ⟨query, hwrite, hpresent, hread⟩ := Query.read_document h
  refine ⟨_, (by rw [document, hwrite]; rfl), ?_⟩
  generalize hd : ofFields _ = d
  have hid : d.required "panel" "id" = .ok (.text p.id) := by
    rw [← hd, required_ofFields rfl]
  have hname : d.fieldText "name" p.id = .ok p.name := by
    rw [← hd, fieldText_ofFields rfl]
  have hicon : d.fieldText "icon" "" = .ok p.icon := by
    rw [← hd, fieldText_ofFields rfl]
  have hcolor : d.fieldOrNull "color" = .ok p.color := by
    rw [← hd, fieldOrNull_ofFields]
    rfl
  have hmode : d.field? "displayMode" = .ok (some (Choice.toDocument p.mode)) := by
    rw [← hd, field?_ofFields]
    rfl
  have hmax : d.field? "maxItems" = .ok (some (.int p.maxItems)) := by
    rw [← hd, field?_ofFields]
    rfl
  have hquery : d.fieldOrNull "query" = .ok query := by
    rw [← hd, fieldOrNull_ofFields]
    rfl
  have hchart : d.fieldOrNull "chartConfig" = .ok ((p.chart.map (·.document)).getD .null) := by
    rw [← hd, fieldOrNull_ofFields]
    cases p.chart <;> rfl
  have hchartRead := @read_optional ChartConfig ChartConfig.read ChartConfig.document p.chart
    (fun _ => rfl) fun c _ => c.read_document
  have hmodeRead : DisplayMode.read (Choice.toDocument p.mode) = .ok p.mode := by
    rw [DisplayMode.read, DisplayMode.ofDocument_toDocument]
  have hint : (Document.int p.maxItems).integer = .ok p.maxItems := rfl
  simp only [Panel.read, ite_bind]
  simp only [hid, hname, hicon, hcolor, hmode, hmax, hquery, hpresent, hread, hchart, ok_bind,
    hmodeRead, hchartRead, if_true, Option.getD_some, spell_text, hint]
  rfl

/-- Whether a snapshot is read back as what it was. -/
structure Snapshot.Storable (s : Snapshot) : Prop where
  types : ∀ t ∈ s.types, t.Storable
  items : ∀ item ∈ s.items, item.Storable s.types
  panels : ∀ p ∈ s.panels, p.Storable

/-- A storable snapshot is written, and read back as what it was. -/
theorem Snapshot.read_document {s : Snapshot} (h : s.Storable) :
    ∃ d, s.document = .ok d ∧ Snapshot.read d = .ok s := by
  obtain ⟨panels, hwrite, hread⟩ :=
    exists_mapM_eq_ok fun p hp => Panel.read_document (h.panels p hp)
  refine ⟨_, (by rw [document, hwrite]; rfl), ?_⟩
  generalize hd : ofFields _ = d
  have htypes : d.fieldList "types" = .ok (s.types.map (·.document)) := by
    rw [← hd, fieldList_ofFields rfl]
  have hitems : d.fieldList "objects" = .ok (s.items.map (·.document)) := by
    rw [← hd, fieldList_ofFields rfl]
  have hpanels : d.fieldList "panels" = .ok panels := by
    rw [← hd, fieldList_ofFields rfl]
  have htypesRead : (s.types.map (·.document)).mapM ItemType.read = .ok s.types :=
    mapM_map_eq_ok fun t ht => ItemType.read_document (h.types t ht)
  have hitemsRead : (s.items.map (·.document)).mapM (Item.read s.types) = .ok s.items :=
    mapM_map_eq_ok fun item hi => Item.read_document (h.items item hi)
  have hmap : Snapshot.read d = do
    let types ← (← d.fieldList "types").mapM ItemType.read
    let items ← (← d.fieldList "objects").mapM (Item.read types)
    let panels ← (← d.fieldList "panels").mapM Panel.read
    return ⟨types, items, panels⟩ := by
    rw [← hd]
    rfl
  simp only [hmap, htypes, hitems, hpanels, htypesRead, hitemsRead, hread, ok_bind, pure_eq_ok]

end Cuaderno
