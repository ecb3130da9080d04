import Cuaderno.Proofs.Outcome
import Cuaderno.Snapshot.Reader

/-!
# Entries that are what they are taken for

The readers do not look at the shape of what they read: they take a mapping for a mapping, a list
for a list and any document for one that can be written. A record whose entries pass the tests
below is read without a fault, or with one that is reported as a defect; and nothing that fails
them is read.
-/

namespace Cuaderno

open Outcome

/-- Whether a fault is a defect. -/
def Fault.IsDefect (f : Fault) : Prop := ∃ d, f = .defect d

/-- Whether a fault is reported as a defect where a query or a chart is read. -/
def Fault.IsReported (f : Fault) : Prop := f.IsDefect ∨ ∃ cause, f = .invalid cause

theorem Fault.IsDefect.isReported {f : Fault} (h : f.IsDefect) : f.IsReported := .inl h

theorem only_withDefect {α : Type} {defect : InvalidValue → Defect} {r : Except Fault α}
    (h : Only Fault.IsReported r) : Only Fault.IsDefect (withDefect defect r) := by
  cases r with
  | ok a => exact .ok a
  | error e =>
    rcases h e rfl with ⟨d, rfl⟩ | ⟨cause, rfl⟩
    · exact .error ⟨d, rfl⟩
    · exact .error ⟨_, rfl⟩

namespace Document

def isRecord : Document → Bool
  | .map _ => true
  | _ => false

/-- The entry of a mapping with a name; none for anything else. -/
def entry? (d : Document) (name : String) : Option Document :=
  match d with
  | .map entries => entries.lookup (.text name)
  | _ => none

/-- Whether the entry with a name passes a test, if there is one. -/
def entryIs (d : Document) (name : String) (test : Document → Bool) : Bool :=
  (d.entry? name).all test

/-- Whether a document passes a test, or does not count as present. -/
def absentOr (test : Document → Bool) (d : Document) : Bool := !d.isPresent || test d

/-- Whether a document lists something, and only what passes a test. -/
def listsOnly (test : Document → Bool) (d : Document) : Bool :=
  match d.listed with
  | .ok items => items.all test
  | .error _ => false

variable {d v : Document} {name : String} {test : Document → Bool}

theorem field?_of_isRecord (h : d.isRecord = true) : d.field? name = .ok (d.entry? name) := by
  cases d with
  | map entries => rfl
  | _ => cases h

theorem fieldOrNull_of_isRecord (h : d.isRecord = true) :
    d.fieldOrNull name = .ok ((d.entry? name).getD .null) := by
  rw [fieldOrNull, field?_of_isRecord h]
  rfl

theorem only_required {record : String} (h : d.isRecord = true) :
    Only Fault.IsDefect (d.required record name) := by
  cases d with
  | map entries =>
    rw [required, Document.entries, ok_bind]
    cases entries.lookup (.text name) with
    | some v => exact .ok v
    | none => exact .error ⟨_, rfl⟩
  | _ => cases h

theorem entry?_of_required {record : String} (h : d.required record name = .ok v) :
    d.entry? name = some v := by
  cases d with
  | map entries =>
    rw [required, Document.entries, ok_bind] at h
    cases hentry : entries.lookup (.text name) with
    | some w =>
      rw [hentry] at h
      cases h
      exact hentry
    | none =>
      rw [hentry] at h
      cases h
  | _ => cases h

theorem test_of_entryIs (h : d.entryIs name test = true) (hv : d.entry? name = some v) :
    test v = true := by
  rw [entryIs, hv] at h
  exact h

/-- A test that a default passes is passed by an entry, or by the default when there is none. -/
theorem test_getD {default : Document} (h : d.entryIs name test = true)
    (hdefault : test default = true) : test ((d.entry? name).getD default) = true := by
  cases hv : d.entry? name with
  | none => exact hdefault
  | some v => exact test_of_entryIs h hv

theorem test_getD_null (h : d.entryIs name test = true) (hnull : test .null = true) :
    test ((d.entry? name).getD .null) = true := test_getD h hnull

theorem test_of_absentOr (h : absentOr test v = true) (hpresent : v.isPresent = true) :
    test v = true := by
  rwa [absentOr, hpresent, Bool.not_true, Bool.false_or] at h

theorem test_or_default {default : Document} (h : absentOr test v = true)
    (hdefault : test default = true) : test (if v.isPresent then v else default) = true := by
  split
  · exact test_of_absentOr h ‹_›
  · exact hdefault

theorem exists_spell (h : v.isWritable = true) : ∃ s, v.spell = .ok s :=
  ⟨v.plain, if_pos h⟩

theorem exists_spellShown (h : v.isWritable = true) : ∃ s, v.spellShown = .ok s :=
  ⟨v.shown, if_pos h⟩

theorem only_spell : Only Fault.IsReported v.spell := by
  rw [spell]
  split
  · exact .ok _
  · exact .error (.inr ⟨_, rfl⟩)

theorem only_spellShown : Only Fault.IsReported v.spellShown := by
  rw [spellShown]
  split
  · exact .ok _
  · exact .error (.inr ⟨_, rfl⟩)

theorem exists_fieldText {default : String} (hrecord : d.isRecord = true)
    (h : d.entryIs name isWritable = true) : ∃ s, d.fieldText name default = .ok s := by
  rw [fieldText, field?_of_isRecord hrecord, ok_bind]
  cases hv : d.entry? name with
  | none => exact ⟨default, rfl⟩
  | some v => exact exists_spell (test_of_entryIs h hv)

theorem only_fieldText {default : String} (hrecord : d.isRecord = true) :
    Only Fault.IsReported (d.fieldText name default) := by
  rw [fieldText, field?_of_isRecord hrecord, ok_bind]
  cases d.entry? name with
  | none => exact .ok _
  | some v => exact only_spell

theorem exists_listed (h : listsOnly test v = true) :
    ∃ items, v.listed = .ok items ∧ ∀ item ∈ items, test item = true := by
  rw [listsOnly] at h
  cases hlisted : v.listed with
  | ok items =>
    rw [hlisted] at h
    exact ⟨items, rfl, List.all_eq_true.1 h⟩
  | error e =>
    rw [hlisted] at h
    cases h

theorem exists_fieldList (hrecord : d.isRecord = true)
    (h : d.entryIs name (absentOr (listsOnly test)) = true) :
    ∃ items, d.fieldList name = .ok items ∧ ∀ item ∈ items, test item = true := by
  rw [fieldList, fieldOrNull_of_isRecord hrecord, ok_bind]
  -- What is not there is null, which lists nothing and passes the test.
  have hshape := test_getD_null h rfl
  generalize (d.entry? name).getD .null = v at hshape ⊢
  by_cases hpresent : v.isPresent = true
  · rw [if_pos hpresent]
    exact exists_listed (test_of_absentOr hshape hpresent)
  · rw [if_neg hpresent]
    exact ⟨[], rfl, fun item hitem => absurd hitem List.not_mem_nil⟩

theorem exists_fieldTexts (hrecord : d.isRecord = true)
    (h : d.entryIs name (absentOr (listsOnly isWritable)) = true) :
    ∃ texts, d.fieldTexts name = .ok texts := by
  obtain ⟨items, hitems, hwritable⟩ := exists_fieldList hrecord h
  rw [fieldTexts, hitems, ok_bind]
  exact exists_mapM_of_forall fun item hitem => exists_spell (hwritable item hitem)

theorem only_fieldTexts (hrecord : d.isRecord = true)
    (h : d.entryIs name (absentOr (listsOnly test)) = true) :
    Only Fault.IsReported (d.fieldTexts name) := by
  obtain ⟨items, hitems, -⟩ := exists_fieldList hrecord h
  rw [fieldTexts, hitems, ok_bind]
  exact .mapM fun item _ => only_spell

theorem field?_eq_ok {o : Option Document} (h : d.field? name = .ok o) :
    ∃ entries, d = .map entries ∧ entries.lookup (.text name) = o := by
  cases d with
  | map entries => exact ⟨entries, rfl, by cases h; rfl⟩
  | _ => cases h

theorem entry?_of_field? {o : Option Document} (h : d.field? name = .ok o) :
    d.isRecord = true ∧ d.entry? name = o := by
  obtain ⟨entries, rfl, hentry⟩ := field?_eq_ok h
  exact ⟨rfl, hentry⟩

theorem isRecord_of_required {record : String} (h : d.required record name = .ok v) :
    d.isRecord = true := by
  cases d with
  | map entries => rfl
  | _ => cases h

private theorem entryIs_of_entry? (h : d.entry? name = some v) (hv : test v = true) :
    d.entryIs name test = true := by
  rw [entryIs, h]
  exact hv

theorem entryIs_of_required {record : String} (h : d.required record name = .ok v)
    (hv : test v = true) : d.entryIs name test = true :=
  entryIs_of_entry? (entry?_of_required h) hv

private theorem entryIs_of_field? {o : Option Document} (h : d.field? name = .ok o)
    (hv : ∀ v, o = some v → test v = true) : d.entryIs name test = true := by
  obtain ⟨-, hentry⟩ := entry?_of_field? h
  cases o with
  | none =>
    rw [entryIs, hentry]
    rfl
  | some v => exact entryIs_of_entry? hentry (hv v rfl)

/-- An entry is tested where it is read with a default in its place. -/
theorem entryIs_of_getD {o : Option Document} {default : Document} (h : d.field? name = .ok o)
    (hv : test (o.getD default) = true) : d.entryIs name test = true :=
  entryIs_of_field? h fun v heq => by
    rw [heq] at hv
    exact hv

theorem entryIs_of_fieldOrNull (h : d.fieldOrNull name = .ok v) (hv : test v = true) :
    d.entryIs name test = true := by
  obtain ⟨o, ho, heq⟩ := bind_eq_ok.1 h
  cases heq
  exact entryIs_of_getD ho hv

theorem absentOr_of_isPresent (h : v.isPresent = true → test v = true) :
    absentOr test v = true := by
  unfold absentOr
  cases hpresent : v.isPresent with
  | false => rfl
  | true => exact h hpresent

theorem isWritable_of_spell {s : String} (h : v.spell = .ok s) : v.isWritable = true := by
  by_contra hlong
  rw [spell, if_neg hlong] at h
  cases h

theorem entryIs_of_fieldText {default s : String} (h : d.fieldText name default = .ok s) :
    d.entryIs name isWritable = true := by
  obtain ⟨o, ho, hs⟩ := bind_eq_ok.1 h
  refine entryIs_of_field? ho fun v heq => ?_
  subst heq
  exact isWritable_of_spell hs

theorem listsOnly_of_listed {items : List Document} (h : v.listed = .ok items)
    (hitems : ∀ item ∈ items, test item = true) : listsOnly test v = true := by
  rw [listsOnly, h]
  exact List.all_eq_true.2 hitems

theorem entryIs_of_fieldList {items : List Document} (h : d.fieldList name = .ok items)
    (hitems : ∀ item ∈ items, test item = true) :
    d.entryIs name (absentOr (listsOnly test)) = true := by
  obtain ⟨v, hv, hlist⟩ := bind_eq_ok.1 h
  refine entryIs_of_fieldOrNull hv (absentOr_of_isPresent fun hpresent => ?_)
  rw [if_pos hpresent] at hlist
  exact listsOnly_of_listed hlist hitems

/-- What an entry lists passes the test that the reading of each member asks for. -/
theorem entryIs_of_mapM {α : Type} {read : Document → Except Fault α} {items : List Document}
    {as : List α} (h : d.fieldList name = .ok items) (hread : items.mapM read = .ok as)
    (htest : ∀ item a, read item = .ok a → test item = true) :
    d.entryIs name (absentOr (listsOnly test)) = true :=
  entryIs_of_fieldList h fun item hmem => by
    obtain ⟨a, ha⟩ := exists_of_mapM_eq_ok hread item hmem
    exact htest item a ha

theorem entryIs_of_fieldTexts {texts : List String} (h : d.fieldTexts name = .ok texts) :
    d.entryIs name (absentOr (listsOnly isWritable)) = true := by
  obtain ⟨items, hitems, hspell⟩ := bind_eq_ok.1 h
  exact entryIs_of_mapM hitems hspell fun item s => isWritable_of_spell

end Document

theorem of_withDefect_eq_ok {α : Type} {defect : InvalidValue → Defect} {r : Except Fault α} {a : α}
    (h : withDefect defect r = .ok a) : r = .ok a := by
  unfold withDefect at h
  split at h
  · cases h
  · exact h

end Cuaderno
