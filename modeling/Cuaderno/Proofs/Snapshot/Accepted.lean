import Cuaderno.Proofs.Samples
import Cuaderno.Proofs.Snapshot.Entries
import Cuaderno.Proofs.Snapshot.RoundTrip

/-!
# Accepted documents survive storing

A document of plain data that is accepted as a snapshot is stored without loss: the snapshot is
written, and what is written is accepted as the same snapshot. Three things that a reader keeps as
they are have no place in what a writer makes of them, and are excluded: an empty link target, a
condition that compares with a list or a mapping, and a bound of a period that is a number.
-/

namespace Cuaderno

open Document Outcome

/-! ## Plain data -/

/-- Data that JSON can write: no dates, no values, and every name of an entry is a text. -/
inductive Document.IsJson : Document → Prop where
  | null : IsJson .null
  | bool (b : Bool) : IsJson (.bool b)
  | int (n : Int) : IsJson (.int n)
  | float (x : Number) : IsJson (.float x)
  | text (s : String) : IsJson (.text s)
  | list {items : List Document} (all : ∀ d ∈ items, IsJson d) : IsJson (.list items)
  | map {entries : List (Key × Document)} (names : ∀ e ∈ entries, ∃ s, e.1 = .text s)
      (all : ∀ e ∈ entries, IsJson e.2) : IsJson (.map entries)

/-- Whether a document has something under a name; null when it has nothing there. -/
def Document.Holds (d : Document) (name : String) (v : Document) : Prop :=
  d.fieldOrNull name = .ok v

/-- Whether a document lists something under a name. -/
def Document.Lists (d : Document) (name : String) (v : Document) : Prop :=
  ∃ vs, d.fieldList name = .ok vs ∧ v ∈ vs

/-- Plain data of which a snapshot keeps everything that it reads. -/
structure Document.IsPlain (d : Document) : Prop where
  json : d.IsJson
  targets : ∀ t p v, d.Lists "types" t → t.Lists "properties" p → p.Holds "relationTypeId" v →
    v = .null ∨ v.isPresent = true
  values : ∀ p q c v, d.Lists "panels" p → p.Holds "query" q → q.Lists "propertyFilters" c →
    c.Holds "value" v → v.IsScalar
  bounds : ∀ p q r v, d.Lists "panels" p → p.Holds "query" q → q.Holds "dateRange" r →
    r.Holds "start" v ∨ r.Holds "end" v → v.IsTextOrNull

namespace Document

variable {d v : Document} {name : String}

theorem IsJson.lookup {entries : List (Key × Document)} (h : IsJson (.map entries)) {k : Key}
    (hl : entries.lookup k = some v) : v.IsJson := by
  cases h with
  | map _ all =>
    obtain ⟨before, after, rfl, -⟩ := List.lookup_eq_some_iff.1 hl
    exact all (k, v) (by simp)

theorem IsJson.holds (h : d.IsJson) (hv : d.Holds name v) : v.IsJson := by
  obtain ⟨o, ho, hv⟩ := bind_eq_ok.1 hv
  obtain ⟨entries, rfl, hl⟩ := field?_eq_ok ho
  cases o with
  | none =>
    cases hv
    exact .null
  | some w =>
    cases hv
    exact h.lookup hl

theorem IsJson.listed (h : d.IsJson) {vs : List Document} (hl : d.listed = .ok vs) :
    ∀ v ∈ vs, v.IsJson := by
  cases h with
  | list all =>
    cases hl
    exact all
  | map names all =>
    cases hl
    intro v hv
    obtain ⟨⟨k, w⟩, he, rfl⟩ := List.mem_map.1 hv
    obtain ⟨s, rfl⟩ := names _ he
    exact .text s
  | text s =>
    cases hl
    intro v hv
    obtain ⟨c, -, rfl⟩ := List.mem_map.1 hv
    exact .text _
  | _ => cases hl

theorem IsJson.lists (h : d.IsJson) (hv : d.Lists name v) : v.IsJson := by
  obtain ⟨vs, hvs, hmem⟩ := hv
  obtain ⟨w, hw, hlist⟩ := bind_eq_ok.1 hvs
  split at hlist
  · exact (h.holds hw).listed hlist v hmem
  · cases hlist
    cases hmem

theorem isJson_list_iff {items : List Document} :
    (Document.list items).IsJson ↔ ∀ d ∈ items, d.IsJson :=
  ⟨fun | .list all => all, .list⟩

theorem isJson_ofFields {fields : List (String × Document)} :
    (ofFields fields).IsJson ↔ ∀ f ∈ fields, f.2.IsJson := by
  constructor
  · rintro (_ | _ | _ | _ | _ | _ | ⟨-, all⟩) f hf
    exact all (.text f.1, f.2) (List.mem_map.2 ⟨f, hf, rfl⟩)
  · intro h
    refine .map ?_ ?_
    · intro e he
      obtain ⟨f, -, rfl⟩ := List.mem_map.1 he
      exact ⟨f.1, rfl⟩
    · intro e he
      obtain ⟨f, hf, rfl⟩ := List.mem_map.1 he
      exact h f hf

/-- What counts as present lists something. -/
theorem ne_nil_of_listed {vs : List Document} (hp : d.isPresent = true)
    (hl : d.listed = .ok vs) : vs ≠ [] := by
  rintro rfl
  cases d with
  | list items =>
    cases hl
    cases hp
  | text s =>
    simp only [listed, Except.ok.injEq, List.map_eq_nil_iff, String.toList_eq_nil_iff] at hl
    rw [hl] at hp
    cases hp
  | map entries =>
    simp only [listed, Except.ok.injEq, List.map_eq_nil_iff] at hl
    rw [hl] at hp
    cases hp
  | _ => cases hl

end Document

/-! ## Types -/

theorem Property.storable_of_read {d : Document} {p : Property} (h : Property.read d = .ok p)
    (ht : ∀ v, d.Holds "relationTypeId" v → v = .null ∨ v.isPresent = true) : p.Storable := by
  simp only [Property.read, bind_eq_ok] at h
  obtain ⟨_, _, _, _, _, _, _, _, _, _, _, _, target, htarget, heq⟩ := h
  cases heq
  exact ht target htarget

theorem ItemType.properties_of_make {id name plural icon color : String}
    {properties : List Property} {t : ItemType}
    (h : make id name plural icon color properties = .ok t) : t.properties = properties := by
  unfold make at h
  split at h
  · cases h
  · split at h
    · cases h
      rfl
    · cases h

theorem ItemType.storable_of_read {d : Document} {t : ItemType} (h : ItemType.read d = .ok t)
    (ht : ∀ p v, d.Lists "properties" p → p.Holds "relationTypeId" v →
      v = .null ∨ v.isPresent = true) : t.Storable := by
  simp only [ItemType.read, bind_eq_ok] at h
  obtain ⟨_, _, _, _, _, _, _, _, _, _, _, _, ps, hps, properties, hread, hmake⟩ := h
  split at hmake
  · rename_i t' hmade
    cases hmake
    intro p hp
    rw [properties_of_make hmade] at hp
    obtain ⟨pd, hpd, hpread⟩ := forall_of_mapM_eq_ok hread p hp
    exact Property.storable_of_read hpread fun v hv => ht pd v ⟨ps, hps, hpd⟩ hv
  · cases hmake

/-! ## Values -/

section Values

variable {property : Option Property} {v : Value}

private theorem Moment.isoText_ne (m : Moment) : String.ofList m.isoText ≠ "" := by
  intro h
  have hnil : m.isoText = [] := String.ofList_eq_empty_iff.1 h
  simp [Moment.isoText, Moment.textWith] at hnil

theorem Value.read_text (s : String) : Value.read (.text s) property =
    (do return some (← Value.readText s property)) := rfl

private theorem Value.storable_text {s : String} (h : Value.readText s property = .ok v) :
    v.Storable property := by
  have hkept (hv : v = .text s) : v.Storable property := by
    subst hv
    rw [Storable, document, read_text, h]
    rfl
  have htext := h
  unfold Value.readText at h
  split at h
  · rename_i htemporal
    simp only [Bool.and_eq_true] at htemporal
    split at h
    · rename_i m _
      cases h
      have hne : (String.ofList m.isoText != "") = true := by
        simpa using m.isoText_ne
      rw [Storable, document, Moment.document, read_text, readText, htemporal.1, hne,
        Moment.readText_isoText]
      rfl
    · cases h
      exact hkept rfl
    · cases h
  · cases h
    exact hkept rfl

/-- A list gives links when it has members and each of them describes one, and texts if not. -/
theorem Value.read_list (items : List Document) :
    (∃ parts, parts ≠ [] ∧ items.mapM Link.parts? = some parts ∧
      Value.read (.list items) property = (do return some (.links (← parts.mapM Link.read)))) ∨
    ((∀ parts, items.mapM Link.parts? = some parts → parts = []) ∧
      Value.read (.list items) property = (do return some (.texts (← items.mapM (·.spell))))) := by
  unfold Value.read
  dsimp only
  cases hm : items.mapM Link.parts? with
  | none => exact .inr ⟨fun _ h => (by cases h), rfl⟩
  | some parts =>
    cases parts with
    | nil => exact .inr ⟨fun parts h => (Option.some.inj h).symm, rfl⟩
    | cons l parts => exact .inl ⟨l :: parts, List.cons_ne_nil _ _, rfl, rfl⟩

private theorem Value.storable_links {refs : List Link} (h : refs ≠ []) :
    (Value.links refs).Storable property := by
  have hparts : (refs.map (·.document)).mapM Link.parts? =
      some (refs.map fun l => (.text l.id, .text l.title)) := by
    rw [mapM_eq_some, List.forall₂_map_left_iff, List.forall₂_map_right_iff, List.forall₂_same]
    exact fun _ _ => rfl
  have hread : (refs.map fun l => (Document.text l.id, Document.text l.title)).mapM Link.read =
      .ok refs := mapM_map_eq_ok fun _ _ => rfl
  rcases read_list (refs.map (·.document)) with ⟨parts, -, hsome, hv⟩ | ⟨hnone, -⟩
  · rw [hparts] at hsome
    cases hsome
    rw [hread] at hv
    exact hv
  · exact absurd (List.map_eq_nil_iff.1 (hnone _ hparts)) h

private theorem Value.storable_texts (texts : List String) :
    (Value.texts texts).Storable property := by
  have hplain : (texts.map Document.text).mapM (·.spell) = .ok texts :=
    mapM_map_eq_ok fun _ _ => rfl
  rcases read_list (texts.map Document.text) with ⟨parts, hne, hparts, -⟩ | ⟨-, hv⟩
  · cases texts with
    | nil =>
      cases hparts
      exact absurd rfl hne
    | cons t texts => cases hparts
  · rw [hplain] at hv
    exact hv

private theorem Value.read_eq_some {d : Document} (hd : d.IsJson)
    (h : Value.read d property = .ok (some v)) :
    (∃ b, v = .flag b) ∨ (∃ x, v = .number x) ∨ (∃ refs, refs ≠ [] ∧ v = .links refs) ∨
      (∃ texts, v = .texts texts) ∨ ∃ s, Value.readText s property = .ok v := by
  unfold Value.read at h
  -- What an integer is as a number makes no difference, and must not be computed.
  obtain ⟨toNumber, hnumber⟩ : ∃ f : Int → Option Number, Number.ofInt? = f := ⟨_, rfl⟩
  rw [hnumber] at h
  cases hd with
  | null => cases h
  | bool b =>
    cases h
    exact .inl ⟨b, rfl⟩
  | int n =>
    dsimp only at h
    split at h
    · cases h
      exact .inr (.inl ⟨_, rfl⟩)
    · cases h
  | float x =>
    cases h
    exact .inr (.inl ⟨x, rfl⟩)
  | text s =>
    obtain ⟨s, -, h⟩ := bind_eq_ok.1 h
    obtain ⟨w, hw, heq⟩ := bind_eq_ok.1 h
    cases heq
    exact .inr (.inr (.inr (.inr ⟨s, hw⟩)))
  | list all =>
    dsimp only at h
    split at h
    · obtain ⟨refs, hrefs, heq⟩ := bind_eq_ok.1 h
      cases heq
      refine .inr (.inr (.inl ⟨refs, ?_, rfl⟩))
      rintro rfl
      cases mapM_eq_ok.1 hrefs
    · obtain ⟨texts, -, heq⟩ := bind_eq_ok.1 h
      cases heq
      exact .inr (.inr (.inr (.inl ⟨texts, rfl⟩)))
  | map names all =>
    obtain ⟨s, -, h⟩ := bind_eq_ok.1 h
    obtain ⟨w, hw, heq⟩ := bind_eq_ok.1 h
    cases heq
    exact .inr (.inr (.inr (.inr ⟨s, hw⟩)))

/-- What plain data gives to a property is read back from what it is written as. -/
theorem Value.storable_of_read {d : Document} (hd : d.IsJson)
    (h : Value.read d property = .ok (some v)) : v.Storable property := by
  rcases read_eq_some hd h with ⟨b, rfl⟩ | ⟨x, rfl⟩ | ⟨refs, hne, rfl⟩ | ⟨texts, rfl⟩ | ⟨s, hs⟩
  · rfl
  · rfl
  · exact storable_links hne
  · exact storable_texts texts
  · exact storable_text hs

end Values

/-! ## Items -/

/-- Reading one entry after others keeps what makes properties storable. -/
theorem Item.storable_foldlM {type : Option ItemType} {entries : List (Key × Document)}
    (hnames : ∀ e ∈ entries, ∃ s, e.1 = .text s) (hjson : ∀ e ∈ entries, e.2.IsJson)
    {before properties : List (String × Value)}
    (hd : (before.map Prod.fst).Nodup)
    (hv : ∀ p ∈ before, p.2.Storable (type.bind (·.property? p.1)))
    (h : entries.foldlM (readProperty type) before = .ok properties) :
    (properties.map Prod.fst).Nodup ∧
      ∀ p ∈ properties, p.2.Storable (type.bind (·.property? p.1)) := by
  induction entries generalizing before with
  | nil =>
    cases h
    exact ⟨hd, hv⟩
  | cons e entries ih =>
    obtain ⟨k, raw⟩ := e
    obtain ⟨id, hk⟩ := hnames (k, raw) (List.mem_cons_self ..)
    cases hk
    rw [List.foldlM_cons, bind_eq_ok] at h
    obtain ⟨after, hstep, hrest⟩ := h
    obtain ⟨o, hread, hput⟩ := bind_eq_ok.1 hstep
    have ih := @ih (fun e he => hnames e (List.mem_cons_of_mem _ he))
      (fun e he => hjson e (List.mem_cons_of_mem _ he))
    cases o with
    | none =>
      cases hput
      exact ih hd hv hrest
    | some v =>
      cases hput
      refine ih (Fields.nodup_put hd) ?_ hrest
      intro p hp
      rcases Fields.mem_put hp with rfl | hp
      · exact Value.storable_of_read (hjson (.text id, raw) (List.mem_cons_self ..)) hread
      · exact hv p hp

private theorem Item.storable_readProperties {d : Document} {type : Option ItemType}
    {properties : List (String × Value)} (hd : d.IsJson)
    (h : Item.readProperties d type = .ok properties) :
    (properties.map Prod.fst).Nodup ∧
      ∀ p ∈ properties, p.2.Storable (type.bind (·.property? p.1)) := by
  obtain ⟨entries, hentries, hfold⟩ := bind_eq_ok.1 h
  cases hd with
  | map hnames hjson =>
    cases hentries
    exact @storable_foldlM type _ hnames hjson [] properties List.nodup_nil (by simp) hfold
  | _ => cases hentries

/-- The properties of an item are read from its record, under the last type with its id, and its
embedding has components if it has one. -/
theorem Item.parts_of_read {types : List ItemType} {d : Document} {item : Item}
    (h : Item.read types d = .ok item) :
    (∃ stored, d.fieldOrNull "properties" = .ok stored ∧
      readProperties (if stored.isPresent then stored else .map [])
        (ItemType.last? types item.typeId) = .ok item.properties) ∧
    item.embedding ≠ some [] := by
  simp only [Item.read, bind_eq_ok] at h
  obtain ⟨_, _, _, _, _, _, typeId, _, stored, hstored, properties, hproperties, _, _, _, _,
    embedding, _, _, _, _, _, _, _, _, _, _, _, _, _, _, _, h⟩ := h
  split at h
  · rename_i hpresent
    simp only [bind_eq_ok] at h
    obtain ⟨vs, hvs, xs, hxs, _, hsome, heq⟩ := h
    cases hsome
    cases heq
    refine ⟨⟨stored, hstored, hproperties⟩, ?_⟩
    intro hnil
    cases hnil
    cases mapM_eq_ok.1 hxs
    exact ne_nil_of_listed hpresent hvs rfl
  · cases h
    exact ⟨⟨stored, hstored, hproperties⟩, fun hnil => (by cases hnil)⟩

theorem Item.storable_of_read {types : List ItemType} {d : Document} {item : Item}
    (hd : d.IsJson) (h : Item.read types d = .ok item) : item.Storable types := by
  obtain ⟨⟨stored, hstored, hproperties⟩, hembedding⟩ := parts_of_read h
  have hjson : (if stored.isPresent = true then stored else .map []).IsJson := by
    split
    · exact hd.holds hstored
    · exact .map (by simp) (by simp)
  obtain ⟨hdistinct, hvalues⟩ := storable_readProperties hjson hproperties
  exact ⟨hdistinct, hvalues, hembedding⟩

/-! ## Panels -/

/-- A condition compares with what its document holds. -/
theorem Condition.holds_of_read {d : Document} {c : Condition} (h : Condition.read d = .ok c) :
    d.Holds "value" c.value := by
  simp only [Condition.read, bind_eq_ok] at h
  obtain ⟨_, _, _, _, _, _, _, _, value, hvalue, heq⟩ := h
  cases heq
  exact hvalue

theorem Condition.storable_of_read {d : Document} {c : Condition} (h : Condition.read d = .ok c)
    (hv : ∀ v, d.Holds "value" v → v.IsScalar) : c.Storable := hv c.value (holds_of_read h)

theorem Period.storable_of_readBound {d b : Document} (h : readBound d = .ok b)
    (hd : d.IsTextOrNull) : b.IsTextOrNull := by
  cases d with
  | null =>
    cases h
    exact hd
  | text s =>
    cases h
    exact hd
  | _ => exact absurd hd id

theorem Period.storable_of_read {d : Document} {p : Period} (h : Period.read d = .ok p)
    (hb : ∀ v, d.Holds "start" v ∨ d.Holds "end" v → v.IsTextOrNull) : p.Storable := by
  unfold Period.read at h
  split at h
  · simp only [bind_eq_ok] at h
    obtain ⟨_, _, start, hstart, bound, hbound, stop, hstop, bound', hbound', heq⟩ := h
    cases heq
    exact ⟨storable_of_readBound hbound (hb start (.inl hstart)),
      storable_of_readBound hbound' (hb stop (.inr hstop))⟩
  · cases h

theorem Query.storable_of_read {d : Document} {q : Query} (h : Query.read d = .ok q)
    (hv : ∀ c v, d.Lists "propertyFilters" c → c.Holds "value" v → v.IsScalar)
    (hb : ∀ r v, d.Holds "dateRange" r → r.Holds "start" v ∨ r.Holds "end" v →
      v.IsTextOrNull) : q.Storable := by
  have h := of_withDefect_eq_ok h
  simp only [ite_bind, bind_eq_ok] at h
  obtain ⟨_, _, r, hr, _, _, _, _, cs, hcs, conditions, hconditions, period, hperiod, _, _, _, _,
    _, _, heq⟩ := h
  cases heq
  constructor
  · intro c hc
    obtain ⟨cd, hcd, hread⟩ := forall_of_mapM_eq_ok hconditions c hc
    exact Condition.storable_of_read hread fun v => hv cd v ⟨cs, hcs, hcd⟩
  · intro p hp
    cases hp
    split at hperiod
    · obtain ⟨p', hread, heq⟩ := map_eq_ok.1 hperiod
      cases heq
      exact Period.storable_of_read hread fun v => hb r v hr
    · cases hperiod

theorem Query.storable_of_read_empty {q : Query} (h : Query.read (.map []) = .ok q) :
    q.Storable := by
  apply storable_of_read h
  · rintro c v ⟨vs, hvs, hmem⟩
    cases hvs
    cases hmem
  · intro r v hr hv
    cases hr
    rcases hv with hv | hv
    · cases hv
    · cases hv

theorem Panel.storable_of_read {d : Document} {p : Panel} (h : Panel.read d = .ok p)
    (hv : ∀ q c v, d.Holds "query" q → q.Lists "propertyFilters" c → c.Holds "value" v →
      v.IsScalar)
    (hb : ∀ q r v, d.Holds "query" q → q.Holds "dateRange" r →
      r.Holds "start" v ∨ r.Holds "end" v → v.IsTextOrNull) : p.Storable := by
  simp only [Panel.read, ite_bind, bind_eq_ok] at h
  obtain ⟨_, _, _, _, _, _, _, _, _, _, _, _, stored, hstored, q, hq, _, _, _, _, _, _, _, _, _, _,
    heq⟩ := h
  cases heq
  change q.Storable
  split at hq
  · exact Query.storable_of_read hq (fun c v => hv stored c v hstored)
      fun r v => hb stored r v hstored
  · exact Query.storable_of_read_empty hq

/-! ## Snapshots -/

/-- What a document of plain data is accepted as is read back from what it is written as. -/
theorem Snapshot.storable_of_read {d : Document} {s : Snapshot} (hd : d.IsPlain)
    (h : Snapshot.read d = .ok s) : s.Storable := by
  unfold Snapshot.read at h
  split at h
  · rename_i entries
    simp only [bind_eq_ok] at h
    obtain ⟨ts, hts, types, htypes, is, his, items, hitems, ps, hps, panels, hpanels, heq⟩ := h
    cases heq
    constructor
    · intro t ht
      obtain ⟨td, htd, hread⟩ := forall_of_mapM_eq_ok htypes t ht
      exact ItemType.storable_of_read hread fun p v => hd.targets td p v ⟨ts, hts, htd⟩
    · intro item hi
      obtain ⟨itemd, hid, hread⟩ := forall_of_mapM_eq_ok hitems item hi
      exact Item.storable_of_read (hd.json.lists ⟨is, his, hid⟩) hread
    · intro p hp
      obtain ⟨pd, hpd, hread⟩ := forall_of_mapM_eq_ok hpanels p hp
      exact Panel.storable_of_read hread (fun q c v => hd.values pd q c v ⟨ps, hps, hpd⟩)
        fun q r v => hd.bounds pd q r v ⟨ps, hps, hpd⟩
  · cases h

/-- A snapshot that is accepted from a document of plain data is written, what is written is
accepted as the same snapshot, and writing that gives the same document again. -/
theorem Snapshot.read_write_read {d : Document} (hd : d.IsPlain) {s : Snapshot}
    (h : Snapshot.read d = .ok s) :
    ∃ written, s.document = .ok written ∧ Snapshot.read written = .ok s ∧
      (Snapshot.read written >>= Snapshot.document) = .ok written := by
  obtain ⟨written, hwrite, hread⟩ := Snapshot.read_document (storable_of_read hd h)
  refine ⟨written, hwrite, hread, ?_⟩
  rw [hread, ok_bind, hwrite]

theorem Document.isPlain_tasks : tasks.IsPlain where
  json := by
    simp [tasks, isJson_list_iff, isJson_ofFields, IsJson.text, IsJson.bool]
  targets := by
    rintro t p v ⟨ts, hts, ht⟩ ⟨ps, hps, hp⟩ hv
    cases hts
    obtain rfl := List.mem_singleton.1 ht
    cases hps
    rcases List.mem_pair.1 hp with rfl | rfl
    · cases hv
      exact .inl rfl
    · cases hv
      exact .inr rfl
  values := by
    rintro p q c v ⟨ps, hps, hp⟩ hq ⟨cs, hcs, hc⟩ hv
    cases hps
    obtain rfl := List.mem_singleton.1 hp
    cases hq
    cases hcs
    obtain rfl := List.mem_singleton.1 hc
    cases hv
    trivial
  bounds := by
    rintro p q r v ⟨ps, hps, hp⟩ hq hr hv
    cases hps
    obtain rfl := List.mem_singleton.1 hp
    cases hq
    cases hr
    rcases hv with hv | hv
    · cases hv
      trivial
    · cases hv
      trivial

theorem Snapshot.read_write_read_tasks : ∃ s written, Snapshot.read tasks = .ok s ∧
    s.document = .ok written ∧ Snapshot.read written = .ok s := by
  obtain ⟨s, hs⟩ : ∃ s, Snapshot.read tasks = .ok s := ⟨_, rfl⟩
  obtain ⟨written, hwrite, hread, -⟩ := Snapshot.read_write_read isPlain_tasks hs
  exact ⟨s, written, hs, hwrite, hread⟩

end Cuaderno
