import Cuaderno.Proofs.Outcome
import Cuaderno.Snapshot.Reader
import Cuaderno.Snapshot.Writer

/-!
# Reading the fields of a written record

A written record is a mapping from names, and each way to read a field of it comes down to looking
up a name. A list of texts, a choice and a moment are read as what they were written for.
-/

namespace Cuaderno

namespace Document

variable {fields : List (String × Document)} {name : String}

private theorem lookup_text (fields : List (String × Document)) (name : String) :
    (fields.map fun (n, d) => (Key.text n, d)).lookup (.text name) = fields.lookup name := by
  induction fields with
  | nil => rfl
  | cons f fields ih =>
    obtain ⟨n, d⟩ := f
    simp only [List.map_cons, List.lookup_cons, ih]
    by_cases h : name = n
    · simp [h]
    · have h₁ : (name == n) = false := by simpa using h
      have h₂ : (Key.text name == Key.text n) = false := by simpa using h
      rw [h₁, h₂]

theorem field?_ofFields : (ofFields fields).field? name = .ok (fields.lookup name) := by
  rw [← lookup_text]
  rfl

theorem fieldOrNull_ofFields :
    (ofFields fields).fieldOrNull name = .ok ((fields.lookup name).getD .null) := by
  rw [fieldOrNull, field?_ofFields]
  rfl

theorem required_ofFields {record : String} {d : Document} (h : fields.lookup name = some d) :
    (ofFields fields).required record name = .ok d := by
  rw [← lookup_text] at h
  simp [required, ofFields, entries, h]

theorem fieldText_ofFields {default s : String} (h : fields.lookup name = some (.text s)) :
    (ofFields fields).fieldText name default = .ok s := by
  rw [fieldText, field?_ofFields, h]
  rfl

theorem fieldList_ofFields {items : List Document} (h : fields.lookup name = some (.list items)) :
    (ofFields fields).fieldList name = .ok items := by
  rw [fieldList, fieldOrNull_ofFields, h]
  cases items with
  | nil => rfl
  | cons d items => rfl

private theorem fieldList_ofFields_none (h : fields.lookup name = none) :
    (ofFields fields).fieldList name = .ok [] := by
  rw [fieldList, fieldOrNull_ofFields, h]
  rfl

theorem fieldTexts_ofFields {texts : List String}
    (h : fields.lookup name = some (.ofTexts texts)) :
    (ofFields fields).fieldTexts name = .ok texts := by
  rw [fieldTexts, fieldList_ofFields h]
  exact Outcome.mapM_map_eq_ok fun _ _ => rfl

theorem fieldTexts_ofFields_none (h : fields.lookup name = none) :
    (ofFields fields).fieldTexts name = .ok [] := by
  rw [fieldTexts, fieldList_ofFields_none h]
  rfl

end Document

private theorem Choice.ofDocument_toDocument {α : Type} [Choice α] {a : α}
    (h : ( Choice.ofName? (name a) : Option α) = some a) :
    (Choice.ofDocument (toDocument a) : Except Fault α) = .ok a := by
  simp only [ofDocument, toDocument, h]

theorem PropertyKind.read_name (k : PropertyKind) : PropertyKind.read (Choice.name k) = .ok k := by
  cases k <;> decide

theorem Preset.ofDocument_toDocument (p : Preset) :
    (Choice.ofDocument (Choice.toDocument p) : Except Fault Preset) = .ok p := by
  apply Choice.ofDocument_toDocument
  cases p <;> decide

theorem Operator.ofDocument_toDocument (o : Operator) :
    (Choice.ofDocument (Choice.toDocument o) : Except Fault Operator) = .ok o := by
  apply Choice.ofDocument_toDocument
  cases o <;> decide

theorem Direction.ofDocument_toDocument (d : Direction) :
    (Choice.ofDocument (Choice.toDocument d) : Except Fault Direction) = .ok d := by
  apply Choice.ofDocument_toDocument
  cases d <;> decide

theorem ChartKind.ofDocument_toDocument (k : ChartKind) :
    (Choice.ofDocument (Choice.toDocument k) : Except Fault ChartKind) = .ok k := by
  apply Choice.ofDocument_toDocument
  cases k <;> decide

theorem Grouping.ofDocument_toDocument (g : Grouping) :
    (Choice.ofDocument (Choice.toDocument g) : Except Fault Grouping) = .ok g := by
  apply Choice.ofDocument_toDocument
  cases g <;> decide

theorem DisplayMode.ofDocument_toDocument (m : DisplayMode) :
    (Choice.ofDocument (Choice.toDocument m) : Except Fault DisplayMode) = .ok m := by
  apply Choice.ofDocument_toDocument
  cases m <;> decide

end Cuaderno
