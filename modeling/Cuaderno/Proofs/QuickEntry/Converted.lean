import Cuaderno.Proofs.Outcome
import Cuaderno.Proofs.QuickEntry.Target
import Cuaderno.Proofs.Samples
import Cuaderno.QuickEntry.Intent

/-!
# What typed pairs become

A typed value is taken by the kind of its property (`Takes`) or refused (`Refuses`), never both. A
refused one is kept as a text. The main theorem, `convert_spec`, says of every conversion that ends
well which properties it writes, that the last pair for a property decides its value, and that the
warnings tell the unknown names and the refused values in their order.
-/

namespace Cuaderno

theorem ItemType.mem_of_resolve {t : ItemType} {word : String} {p : Property}
    (h : t.resolve word = some p) : p ∈ t.properties := by
  unfold resolve at h
  split at h
  · rename_i named hnamed
    cases h
    exact List.mem_of_find?_eq_some hnamed
  · simp only at h
    split at h
    · cases h
    · split at h
      · rename_i only honly
        cases h
        have hmem : p ∈ t.properties.filter (·.partlyNamedBy (Text.fold word.toList)) := by
          rw [honly]
          exact List.mem_singleton_self p
        exact (List.mem_filter.1 hmem).1
      · cases h

namespace QuickEntry

section Values

variable (p : Property) (typed : String) (items : List Item) (clock : Clock)

/-- The link that a typed title becomes. -/
def LinksTo (title : String) (link : Link) : Prop :=
  ∃ item ∈ items, target? title p items = some item ∧ link = ⟨item.id, item.title⟩

/-- The values that the kind of a property takes a typed text for. -/
inductive Takes : Value → Prop
  | date {m} (kind : p.kind = .date) (written : Written.moment typed.toList clock = .ok (some m)) :
      Takes (.moment (.startOf m.date))
  | datetime {m} (kind : p.kind = .datetime)
      (written : Written.moment typed.toList clock = .ok (some m)) : Takes (.moment m)
  | flag {b} (kind : p.kind = .boolean) (written : Value.flag? (Text.key typed) = some b) :
      Takes (.flag b)
  | number {x} (kind : p.kind = .number) (written : typedNumber? typed = some x) :
      Takes (.number x)
  | anyOption (kind : p.kind = .select) (options : p.options = []) : Takes (.text typed)
  | option {o} (kind : p.kind = .select) (mem : o ∈ p.options) (key : Text.key o = Text.key typed) :
      Takes (.text o)
  | links {links} (kind : p.kind = .relation)
      (targets : List.Forall₂ (LinksTo p items) (splitList typed) links) : Takes (.links links)
  | texts (kind : p.kind = .texts)
      (trimmed : ∀ s ∈ splitList typed, s ≠ "" ∧ Text.trim s.toList = s.toList) :
      Takes (.texts (splitList typed))
  | text (kind : p.kind = .text) : Takes (.text typed)

/-- The typed texts that the kind of a property refuses. -/
inductive Refuses : Prop
  | moment (kind : p.kind = .date ∨ p.kind = .datetime)
      (unwritten : Written.moment typed.toList clock = .ok none)
  | flag (kind : p.kind = .boolean) (unwritten : Value.flag? (Text.key typed) = none)
  | number (kind : p.kind = .number) (unwritten : typedNumber? typed = none)
  | option (kind : p.kind = .select) (options : p.options ≠ [])
      (unwritten : ∀ o ∈ p.options, Text.key o ≠ Text.key typed)
  | link {title} (kind : p.kind = .relation) (mem : title ∈ splitList typed)
      (untitled : target? title p items = none)

/-- What a property becomes by a typed text: a value that its kind takes the text for, or the text
itself, exactly if the kind refuses it. -/
def Becomes (v : Value) : Prop :=
  (Takes p typed items clock v ∧ ¬ Refuses p typed items clock) ∨
    (Refuses p typed items clock ∧ v = .text typed)

/-- The warnings about a refused text: one, or none about a title that means no item. -/
def refusal : List String :=
  match p.kind with
  | .date | .datetime => [warningAbout p typed "una fecha válida"]
  | .boolean => [warningAbout p typed "un valor booleano válido"]
  | .number => [warningAbout p typed "un número válido"]
  | .select => [warningAbout p typed "una opción válida"]
  | .relation | .texts | .text => []

variable {p typed items clock}

theorem Takes.not_refuses {v : Value} (h : Takes p typed items clock v) :
    ¬ Refuses p typed items clock := by
  intro hr
  -- only a refusal by the same kind is left to exclude, and it says that the text is unwritten
  cases h with
  | date kind written | datetime kind written =>
    cases hr with
    | moment _ unwritten => simp [written] at unwritten
    | _ => simp_all
  | flag kind written =>
    cases hr with
    | flag _ unwritten => simp [written] at unwritten
    | _ => simp_all
  | number kind written =>
    cases hr with
    | number _ unwritten => simp [written] at unwritten
    | _ => simp_all
  | anyOption kind options =>
    cases hr with
    | option _ hne _ => exact hne options
    | _ => simp_all
  | option kind mem key =>
    cases hr with
    | option _ _ unwritten => exact unwritten _ mem key
    | _ => simp_all
  | links kind targets =>
    cases hr with
    | link _ mem untitled =>
      obtain ⟨link, item, -, hitem, -⟩ := Outcome.exists_of_forall₂_of_mem targets mem
      simp [hitem] at untitled
    | _ => simp_all
  | texts kind | text kind => cases hr <;> simp_all

private theorem links?_eq_some {links : List Link} (h : links? p typed items = some links) :
    List.Forall₂ (LinksTo p items) (splitList typed) links := by
  refine (Outcome.mapM_eq_some.1 h).imp ?_
  intro title link hlink
  obtain ⟨item, hitem, rfl⟩ := Option.map_eq_some_iff.1 hlink
  exact ⟨item, mem_of_target? hitem, hitem, rfl⟩

private theorem exists_of_links?_eq_none (h : links? p typed items = none) :
    ∃ title ∈ splitList typed, target? title p items = none := by
  obtain ⟨title, hmem, hnone⟩ := Outcome.exists_of_mapM_eq_none h
  exact ⟨title, hmem, Option.map_eq_none_iff.1 hnone⟩

private theorem trimmed_of_mem_splitList {s : String} (h : s ∈ splitList typed) :
    s ≠ "" ∧ Text.trim s.toList = s.toList := by
  obtain ⟨item, hitem, rfl⟩ := List.mem_map.1 h
  obtain ⟨hne, htrim, -⟩ := mem_listItems hitem
  refine ⟨?_, by rwa [String.toList_ofList]⟩
  intro hnil
  apply hne
  rw [← @String.toList_ofList item, hnil, String.toList_empty]

private theorem option?_eq_some {o : String} (h : option? p typed = some o) :
    o ∈ p.options ∧ Text.key o = Text.key typed :=
  ⟨List.mem_of_find?_eq_some h, by simpa using List.find?_some h⟩

/-- The conversion of a typed text that ends well takes it, or refuses it with a warning. -/
theorem convertValue_spec {r : Converted} (h : convertValue p typed items clock = .ok r) :
    (∃ v, r = .value v ∧ Takes p typed items clock v) ∨
      ∃ w, r = .kept w ∧ Refuses p typed items clock ∧ w.toList = refusal p typed := by
  unfold convertValue at h
  unfold refusal
  cases hk : p.kind with
  | date =>
    simp only [hk] at h
    obtain ⟨m, hm, h⟩ := Outcome.bind_eq_ok.1 h
    cases h
    cases m with
    | some m => exact .inl ⟨_, rfl, .date hk hm⟩
    | none => exact .inr ⟨_, rfl, .moment (.inl hk) hm, rfl⟩
  | datetime =>
    simp only [hk] at h
    obtain ⟨m, hm, h⟩ := Outcome.bind_eq_ok.1 h
    cases h
    cases m with
    | some m => exact .inl ⟨_, rfl, .datetime hk hm⟩
    | none => exact .inr ⟨_, rfl, .moment (.inr hk) hm, rfl⟩
  | boolean =>
    simp only [hk, Except.ok.injEq] at h
    cases hflag : Value.flag? (Text.key typed) with
    | some b => exact .inl ⟨_, by rw [← h, hflag]; rfl, .flag hk hflag⟩
    | none => exact .inr ⟨_, by rw [← h, hflag]; rfl, .flag hk hflag, rfl⟩
  | number =>
    simp only [hk, Except.ok.injEq] at h
    cases hnumber : typedNumber? typed with
    | some x => exact .inl ⟨_, by rw [← h, hnumber]; rfl, .number hk hnumber⟩
    | none => exact .inr ⟨_, by rw [← h, hnumber]; rfl, .number hk hnumber, rfl⟩
  | select =>
    simp only [hk, List.isEmpty_iff] at h
    by_cases hoptions : p.options = []
    · rw [if_pos hoptions, Except.ok.injEq] at h
      exact .inl ⟨_, h.symm, .anyOption hk hoptions⟩
    · rw [if_neg hoptions, Except.ok.injEq] at h
      cases hoption : option? p typed with
      | some o =>
        obtain ⟨hmem, hkey⟩ := option?_eq_some hoption
        exact .inl ⟨_, by rw [← h, hoption]; rfl, .option hk hmem hkey⟩
      | none =>
        have hnone : ∀ o ∈ p.options, Text.key o ≠ Text.key typed := by
          simpa [option?] using hoption
        exact .inr ⟨_, by rw [← h, hoption]; rfl, .option hk hoptions hnone, rfl⟩
  | relation =>
    simp only [hk] at h
    cases hlinks : links? p typed items with
    | some links =>
      simp only [hlinks, Except.ok.injEq] at h
      exact .inl ⟨_, h.symm, .links hk (links?_eq_some hlinks)⟩
    | none =>
      simp only [hlinks, Except.ok.injEq] at h
      obtain ⟨title, hmem, hnone⟩ := exists_of_links?_eq_none hlinks
      exact .inr ⟨_, h.symm, .link hk hmem hnone, rfl⟩
  | texts =>
    simp only [hk, Except.ok.injEq] at h
    exact .inl ⟨_, h.symm, .texts hk fun s hs => trimmed_of_mem_splitList hs⟩
  | text =>
    simp only [hk, Except.ok.injEq] at h
    exact .inl ⟨_, h.symm, .text hk⟩

end Values

section Pairs

variable (t : ItemType) (items : List Item) (clock : Clock)

/-- Whether a typed pair writes a property: its name means the property, and its value is not
blank. -/
def Writes (pair : String × String) (p : Property) : Prop :=
  t.resolve pair.1 = some p ∧ typedValue pair.2 ≠ ""

/-- The warnings that a typed pair gives. -/
inductive Warns (pair : String × String) : List String → Prop
  | unknown (unknown : t.resolve pair.1 = none) :
      Warns pair ["Propiedad desconocida: \"" ++ String.ofList (Text.trim pair.1.toList) ++ "\""]
  | blank {p} (named : t.resolve pair.1 = some p) (blank : typedValue pair.2 = "") : Warns pair []
  | taken {p} (writes : Writes t pair p)
      (taken : ¬ Refuses p (typedValue pair.2) items clock) : Warns pair []
  | refused {p} (writes : Writes t pair p)
      (refused : Refuses p (typedValue pair.2) items clock) :
      Warns pair (refusal p (typedValue pair.2))

/-- Whether the last of some typed pairs that writes a property decides its value. -/
def Decided (pairs : List (String × String)) (id : String) (v : Value) : Prop :=
  ∃ before pair after p, pairs = before ++ pair :: after ∧ p ∈ t.properties ∧ p.id = id ∧
    Writes t pair p ∧ (∀ later ∈ after, ∀ q, Writes t later q → q.id ≠ id) ∧
    Becomes p (typedValue pair.2) items clock v

/-- What typed pairs become for an item of a type. -/
structure Converts (pairs : List (String × String)) (c : Conversion) : Prop where
  distinct : (c.properties.map Prod.fst).Nodup
  written : ∀ id, id ∈ c.properties.map Prod.fst ↔ ∃ pair ∈ pairs, ∃ p, Writes t pair p ∧ p.id = id
  decided : ∀ id v, c.properties.lookup id = some v → Decided t items clock pairs id v
  warnings : ∃ parts, List.Forall₂ (Warns t items clock) pairs parts ∧ c.warnings = parts.flatten

variable {t items clock}

/-- What one typed pair does. -/
theorem Conversion.add_cases {c c' : Conversion} {pair : String × String}
    (h : c.add t items clock pair = .ok c') : ∃ part, Warns t items clock pair part ∧
      c'.warnings = c.warnings ++ part ∧
      (((∀ p, ¬ Writes t pair p) ∧ c'.properties = c.properties) ∨
        ∃ p v, Writes t pair p ∧ Becomes p (typedValue pair.2) items clock v ∧
          c'.properties = Fields.put p.id v c.properties) := by
  unfold Conversion.add at h
  cases hp : t.resolve pair.1 with
  | none =>
    simp only [hp, Except.ok.injEq] at h
    refine ⟨_, .unknown hp, by rw [← h], .inl ⟨?_, by rw [← h]⟩⟩
    rintro p ⟨hp', -⟩
    rw [hp] at hp'
    cases hp'
  | some p =>
    simp only [hp] at h
    by_cases hblank : typedValue pair.2 = ""
    · rw [if_pos hblank, Except.ok.injEq] at h
      refine ⟨[], .blank hp hblank, by rw [← h, List.append_nil], .inl ⟨?_, by rw [h]⟩⟩
      rintro q ⟨-, hne⟩
      exact hne hblank
    · rw [if_neg hblank] at h
      obtain ⟨r, hr, h⟩ := Outcome.bind_eq_ok.1 h
      rcases convertValue_spec hr with ⟨v, rfl, htakes⟩ | ⟨w, rfl, hrefuses, hw⟩
      · cases h
        exact ⟨[], .taken ⟨hp, hblank⟩ htakes.not_refuses, (List.append_nil _).symm,
          .inr ⟨p, v, ⟨hp, hblank⟩, .inl ⟨htakes, htakes.not_refuses⟩, rfl⟩⟩
      · cases h
        rw [hw]
        exact ⟨_, .refused ⟨hp, hblank⟩ hrefuses, rfl,
          .inr ⟨p, _, ⟨hp, hblank⟩, .inr ⟨hrefuses, rfl⟩, rfl⟩⟩

/-- A pair that does not write a property leaves its value decided. -/
theorem Decided.append {pairs : List (String × String)} {pair : String × String} {id : String}
    {v : Value} (h : Decided t items clock pairs id v)
    (hother : ∀ q, Writes t pair q → q.id ≠ id) :
    Decided t items clock (pairs ++ [pair]) id v := by
  obtain ⟨before, own, after, p, rfl, hp, hid, hwrites, hlater, hbecomes⟩ := h
  refine ⟨before, own, after ++ [pair], p, by simp, hp, hid, hwrites, ?_, hbecomes⟩
  intro later hmem
  rcases List.mem_append.1 hmem with hmem | hmem
  · exact hlater later hmem
  · rw [List.mem_singleton.1 hmem]
    exact hother

/-- One more pair becomes what it does behind the ones before it. -/
theorem Converts.add {pairs : List (String × String)} {c c' : Conversion} {pair : String × String}
    (h : Converts t items clock pairs c) (hadd : c.add t items clock pair = .ok c') :
    Converts t items clock (pairs ++ [pair]) c' := by
  obtain ⟨part, hwarns, hwarnings, hcase⟩ := Conversion.add_cases hadd
  obtain ⟨parts, hparts, hprevious⟩ := h.warnings
  have hall : ∃ parts, List.Forall₂ (Warns t items clock) (pairs ++ [pair]) parts ∧
      c'.warnings = parts.flatten := by
    refine ⟨parts ++ [part], List.rel_append hparts (.cons hwarns .nil), ?_⟩
    rw [hwarnings, hprevious, List.flatten_append, List.flatten_singleton]
  -- a pair that writes nothing leaves everything as it was; any other is now the last one for its
  -- own property, and leaves the other properties as they were
  rcases hcase with ⟨hnone, hproperties⟩ | ⟨p, v, hwrites, hbecomes, hproperties⟩
  · refine ⟨by rw [hproperties]; exact h.distinct, ?_, ?_, hall⟩
    · intro id
      rw [hproperties, h.written]
      constructor
      · rintro ⟨own, hmem, hown⟩
        exact ⟨own, List.mem_append_left _ hmem, hown⟩
      · rintro ⟨own, hmem, p, hwrites, hid⟩
        rcases List.mem_append.1 hmem with hmem | hmem
        · exact ⟨own, hmem, p, hwrites, hid⟩
        · rw [List.mem_singleton.1 hmem] at hwrites
          exact absurd hwrites (hnone p)
    · intro id w hlookup
      rw [hproperties] at hlookup
      exact (h.decided id w hlookup).append fun q hq => absurd hq (hnone q)
  · have honly {q : Property} (hq : Writes t pair q) : q = p :=
      Option.some.inj (hq.1.symm.trans hwrites.1)
    refine ⟨by rw [hproperties]; exact Fields.nodup_put h.distinct, ?_, ?_, hall⟩
    · intro id
      rw [hproperties, Fields.mem_map_fst_put, h.written]
      constructor
      · rintro (rfl | ⟨own, hmem, hown⟩)
        · exact ⟨pair, List.mem_append_right _ (List.mem_singleton_self _), p, hwrites, rfl⟩
        · exact ⟨own, List.mem_append_left _ hmem, hown⟩
      · rintro ⟨own, hmem, q, hq, hid⟩
        rcases List.mem_append.1 hmem with hmem | hmem
        · exact .inr ⟨own, hmem, q, hq, hid⟩
        · rw [List.mem_singleton.1 hmem] at hq
          exact .inl (by rw [← hid, honly hq])
    · intro id w hlookup
      rw [hproperties] at hlookup
      by_cases hid : id = p.id
      · rw [hid, Fields.lookup_put_self, Option.some.injEq] at hlookup
        rw [← hlookup]
        exact ⟨pairs, pair, [], p, rfl, ItemType.mem_of_resolve hwrites.1, hid.symm, hwrites,
          fun later hmem => absurd hmem List.not_mem_nil, hbecomes⟩
      · rw [Fields.lookup_put_of_ne hid] at hlookup
        refine (h.decided id w hlookup).append fun q hq => ?_
        rw [honly hq]
        exact Ne.symm hid

/-- A run over typed pairs goes on from what the pairs before it became. -/
theorem Converts.foldlM {done pairs : List (String × String)} {c c' : Conversion}
    (h : Converts t items clock done c)
    (hrun : pairs.foldlM (Conversion.add t items clock) c = .ok c') :
    Converts t items clock (done ++ pairs) c' := by
  induction pairs generalizing done c with
  | nil =>
    cases hrun
    rwa [List.append_nil]
  | cons pair pairs ih =>
    rw [List.foldlM_cons] at hrun
    obtain ⟨middle, hadd, hrest⟩ := Outcome.bind_eq_ok.1 hrun
    rw [List.append_cons]
    exact ih (h.add hadd) hrest

theorem Converts.nil : Converts t items clock [] {} := by
  refine ⟨List.nodup_nil, ?_, ?_, [], .nil, rfl⟩
  · intro id
    simp
  · intro id v hlookup
    cases hlookup

end Pairs

/-- What a line asks for has the properties and the warnings that its typed pairs become, if it has
a type. -/
theorem convert_of_intent {s : String} {catalog : Catalog} {items : List Item} {clock : Clock}
    {i : Intent} {t : ItemType} (h : intent s catalog items clock = .ok (some i))
    (htype : i.type = some t) :
    convert i.typed (some t) items clock = .ok ⟨i.properties, i.warnings⟩ := by
  unfold intent at h
  cases he : entry? s with
  | none =>
    rw [he] at h
    cases h
  | some e =>
    simp only [he] at h
    obtain ⟨c, hconvert, h⟩ := Outcome.bind_eq_ok.1 h
    cases h
    rw [show catalog.resolve e.typeWord = some t from htype] at hconvert ⊢
    exact hconvert

end QuickEntry

end Cuaderno
