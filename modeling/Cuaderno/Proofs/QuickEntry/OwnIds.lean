import Cuaderno.Proofs.QuickEntry.Converted

/-!
# Properties by their own ids

Ids and names are compared by their keys and count alike, so the id of a property means the first
property that has its key (`resolve_of_answersTo`). That is the property itself unless one that is
declared before it has the key; what is declared behind it, or matches in part, makes no difference.
Whatever is assigned to the id is written to that property, and all else becomes what it would
become without the assignment (`convert_apart`, `intent_by_id`).
-/

namespace Cuaderno

/-- Whether a property has a key, for its id or for its name. -/
def Property.HasKey (p : Property) (k : String) : Prop := Text.key p.id = k ∨ Text.key p.name = k

instance (p : Property) (k : String) : Decidable (p.HasKey k) :=
  inferInstanceAs (Decidable (_ ∨ _))

/-- Which property answers to the id of `p` when some properties are declared before it. -/
inductive AnswersTo (before : List Property) (p : Property) : Property → Prop
  | self (free : ∀ r ∈ before, ¬ r.HasKey (Text.key p.id)) : AnswersTo before p p
  | earlier {front back : List Property} {q : Property} (split : before = front ++ q :: back)
      (key : q.HasKey (Text.key p.id)) (first : ∀ r ∈ front, ¬ r.HasKey (Text.key p.id)) :
      AnswersTo before p q

variable {t : ItemType} {before after : List Property} {p q : Property} {word : String}

theorem Property.isNamedBy_iff (hne : Text.key word ≠ "") :
    p.isNamedBy word = true ↔ p.HasKey (Text.key word) := by
  have hnonblank : (Text.key word != "") = true := by simpa using hne
  simp only [Property.isNamedBy, Property.HasKey, hnonblank, Bool.true_and, Bool.or_eq_true,
    beq_iff_eq, @eq_comm _ (Text.key word)]

/-- A word means the first property that has its key. -/
theorem resolve_of_first {front back : List Property} (hne : Text.key word ≠ "")
    (hsplit : t.properties = front ++ q :: back) (hkey : q.HasKey (Text.key word))
    (hfirst : ∀ r ∈ front, ¬ r.HasKey (Text.key word)) : t.resolve word = some q := by
  have hfound : t.propertyNamed? word = some q := by
    apply List.find?_eq_some_iff_append.2
    refine ⟨(Property.isNamedBy_iff hne).2 hkey, front, back, hsplit, ?_⟩
    intro r hr
    rw [Bool.not_eq_true', Bool.eq_false_iff, ne_eq, Property.isNamedBy_iff hne]
    exact hfirst r hr
  rw [ItemType.resolve, hfound]

private theorem exists_answersTo (before : List Property) (p : Property) :
    ∃ q, AnswersTo before p q := by
  by_cases hfree : ∀ r ∈ before, ¬ r.HasKey (Text.key p.id)
  · exact ⟨p, .self hfree⟩
  · have hsome : (before.find? (·.HasKey (Text.key p.id))).isSome := by
      simpa using hfree
    obtain ⟨q, hq⟩ := Option.isSome_iff_exists.1 hsome
    obtain ⟨hkey, front, back, hsplit, hfirst⟩ := List.find?_eq_some_iff_append.1 hq
    exact ⟨q, .earlier hsplit (of_decide_eq_true hkey) fun r hr => by simpa using hfirst r hr⟩

theorem resolve_of_answersTo (hp : t.properties = before ++ p :: after)
    (hid : Text.key p.id ≠ "") (hword : Text.key word = Text.key p.id)
    (h : AnswersTo before p q) : t.resolve word = some q := by
  rw [← hword] at hid
  cases h with
  | self hfree =>
    rw [← hword] at hfree
    exact resolve_of_first hid hp (.inl hword.symm) hfree
  | @earlier front back _ hsplit hkey hfirst =>
    rw [← hword] at hkey hfirst
    have hproperties : t.properties = front ++ q :: (back ++ p :: after) := by
      rw [hp, hsplit, List.append_assoc, List.cons_append]
    exact resolve_of_first hid hproperties hkey hfirst

namespace QuickEntry

/-- Whether two lists of values agree on all properties but one. -/
def AgreeApart (id : String) (values others : List (String × Value)) : Prop :=
  ∀ other, other ≠ id → values.lookup other = others.lookup other

theorem AgreeApart.put {values others : List (String × Value)} {id : String}
    (h : AgreeApart id values others) (written : String) (v : Value) :
    AgreeApart id (Fields.put written v values) (Fields.put written v others) := by
  intro other hother
  by_cases hwritten : other = written
  · rw [hwritten, Fields.lookup_put_self, Fields.lookup_put_self]
  · rw [Fields.lookup_put_of_ne hwritten, Fields.lookup_put_of_ne hwritten]
    exact h other hother

theorem AgreeApart.put_self {values others : List (String × Value)} {id : String}
    (h : AgreeApart id values others) (v : Value) :
    AgreeApart id (Fields.put id v values) others := by
  intro other hother
  rw [Fields.lookup_put_of_ne hother]
  exact h other hother

section Pairs

variable {items : List Item} {clock : Clock} {c c' d : Conversion}
  {pair : String × String} {pairs : List (String × String)}

/-- What a typed pair does is the same whatever was converted before it: nothing is written, or one
value for the property that its name means, or it fails. -/
theorem Conversion.add_uniform (t : ItemType) (items : List Item) (clock : Clock)
    (pair : String × String) :
    (∃ fault, ∀ c : Conversion, c.add t items clock pair = .error fault) ∨
    (∃ part, ∀ c : Conversion, c.add t items clock pair =
      .ok ⟨c.properties, c.warnings ++ part⟩) ∨
    ∃ q v part, t.resolve pair.1 = some q ∧ ∀ c : Conversion, c.add t items clock pair =
      .ok ⟨Fields.put q.id v c.properties, c.warnings ++ part⟩ := by
  cases hq : t.resolve pair.1 with
  | none => exact .inr (.inl ⟨_, fun c => by simp only [Conversion.add, hq]; rfl⟩)
  | some q =>
    by_cases hblank : typedValue pair.2 = ""
    · exact .inr (.inl ⟨[], fun c => by simp [Conversion.add, hq, hblank]⟩)
    · cases hvalue : convertValue q (typedValue pair.2) items clock with
      | error fault =>
        exact .inl ⟨fault, fun c => by simp [Conversion.add, hq, hblank, hvalue]⟩
      | ok r =>
        refine .inr (.inr ?_)
        cases r with
        | value v => exact ⟨q, v, [], rfl, fun c => by simp [Conversion.add, hq, hblank, hvalue]⟩
        | kept warning =>
          exact ⟨q, .text (typedValue pair.2), warning.toList, rfl,
            fun c => by simp [Conversion.add, hq, hblank, hvalue]⟩

/-- Conversions that agree apart from one property still do after one more pair. -/
theorem Conversion.add_agrees {id : String} (h : AgreeApart id c.properties d.properties)
    (hadd : c.add t items clock pair = .ok c') :
    ∃ d', d.add t items clock pair = .ok d' ∧ AgreeApart id c'.properties d'.properties := by
  rcases Conversion.add_uniform t items clock pair with
    ⟨fault, hall⟩ | ⟨part, hall⟩ | ⟨q, v, part, -, hall⟩
  · rw [hall] at hadd
    cases hadd
  · rw [hall] at hadd
    cases hadd
    exact ⟨_, hall d, h⟩
  · rw [hall] at hadd
    cases hadd
    exact ⟨_, hall d, h.put q.id v⟩

private theorem Conversion.foldlM_agrees {id : String} (h : AgreeApart id c.properties d.properties)
    (hrun : pairs.foldlM (Conversion.add t items clock) c = .ok c') :
    ∃ d', pairs.foldlM (Conversion.add t items clock) d = .ok d' ∧
      AgreeApart id c'.properties d'.properties := by
  induction pairs generalizing c d with
  | nil =>
    cases hrun
    exact ⟨d, rfl, h⟩
  | cons pair pairs ih =>
    rw [List.foldlM_cons] at hrun
    obtain ⟨next, hadd, hrest⟩ := Outcome.bind_eq_ok.1 hrun
    obtain ⟨other, hother, hagree⟩ := Conversion.add_agrees h hadd
    rw [List.foldlM_cons, hother, Outcome.ok_bind]
    exact ih hagree hrest

/-- A pair touches no property but the one that its name means. -/
theorem Conversion.add_apart {value : String} (hq : t.resolve word = some q)
    (hadd : c.add t items clock (word, value) = .ok c') :
    AgreeApart q.id c'.properties c.properties := by
  rcases Conversion.add_uniform t items clock (word, value) with
    ⟨fault, hall⟩ | ⟨part, hall⟩ | ⟨r, v, part, hr, hall⟩
  · rw [hall] at hadd
    cases hadd
  · rw [hall] at hadd
    cases hadd
    exact fun _ _ => rfl
  · rw [hq, Option.some.injEq] at hr
    rw [hall, ← hr] at hadd
    cases hadd
    exact AgreeApart.put_self (fun _ _ => rfl) v

/-- Without one of its pairs a conversion ends well too, and differs in no property but the one that
the word of the pair means. -/
theorem convert_apart {value : String} {left right : List (String × String)}
    (hq : t.resolve word = some q)
    (h : convert (left ++ (word, value) :: right) (some t) items clock = .ok c') :
    ∃ c, convert (left ++ right) (some t) items clock = .ok c ∧
      AgreeApart q.id c'.properties c.properties := by
  rw [convert, List.foldlM_append] at h
  obtain ⟨common, hleft, hrest⟩ := Outcome.bind_eq_ok.1 h
  rw [List.foldlM_cons] at hrest
  obtain ⟨next, hadd, hright⟩ := Outcome.bind_eq_ok.1 hrest
  have happart : AgreeApart q.id next.properties common.properties :=
    Conversion.add_apart hq hadd
  obtain ⟨c, hc, hagree⟩ := Conversion.foldlM_agrees happart hright
  refine ⟨c, ?_, hagree⟩
  rw [convert, List.foldlM_append, hleft, Outcome.ok_bind, hc]

end Pairs

/-- A word with the key of the id of a property means that property or, if properties that are
declared before it have the key too, the first of these. An entry that assigns to the word writes
what is meant, unless the value is blank, and no other property. -/
theorem intent_by_id (hp : t.properties = before ++ p :: after) (hid : Text.key p.id ≠ "")
    (hword : Text.key word = Text.key p.id) :
    ∃ q ∈ t.properties, AnswersTo before p q ∧ t.resolve word = some q ∧
      ∀ {s : String} {catalog : Catalog} {items : List Item} {clock : Clock} {i : Intent}
        {left right : List (String × String)} {value : String},
        intent s catalog items clock = .ok (some i) → i.type = some t →
        i.typed = left ++ (word, value) :: right →
        (typedValue value ≠ "" → q.id ∈ i.properties.map Prod.fst) ∧
          ∃ c, convert (left ++ right) (some t) items clock = .ok c ∧
            AgreeApart q.id i.properties c.properties := by
  obtain ⟨q, hanswers⟩ := exists_answersTo before p
  have hq : t.resolve word = some q := resolve_of_answersTo hp hid hword hanswers
  refine ⟨q, ItemType.mem_of_resolve hq, hanswers, hq, ?_⟩
  intro s catalog items clock i left right value hi htype htyped
  have hconvert := convert_of_intent hi htype
  rw [htyped] at hconvert
  refine ⟨fun hvalue => ?_, convert_apart hq hconvert⟩
  rw [(Converts.nil.foldlM hconvert).written]
  exact ⟨(word, value), by simp, q, ⟨hq, hvalue⟩, rfl⟩

def textNamed (id name : String) : Property := ⟨id, name, .text, [], .null⟩

/-- A type of books. The purchase is behind the reading, and has its id for a name. -/
def book : ItemType where
  id := "book"
  name := "Libro"
  plural := "Libros"
  icon := ""
  color := ""
  properties := [textNamed "autor" "Autoría", textNamed "fecha" "Lectura",
    textNamed "fecha_compra" "Fecha"]
  id_ne := by decide
  distinct := by decide

/-- What an entry asks for that gives a book its author and the month of its reading. -/
def bookIntent : Intent where
  type := some book
  name := "Quijote"
  properties := [("autor", .text "Cervantes"), ("fecha", .text "mayo")]
  typed := [("autor", "Cervantes"), ("FECHA", "mayo")]
  existing := none
  warnings := []

theorem intent_by_id_book :
    intent "@libro/Quijote > autor = Cervantes > FECHA = mayo" ⟨[book], by decide⟩ []
        ⟨none, Moment.first⟩ = .ok (some bookIntent) ∧
      ∃ q ∈ book.properties,
        AnswersTo [textNamed "autor" "Autoría"] (textNamed "fecha" "Lectura") q ∧
        book.resolve "FECHA" = some q ∧ q.id ∈ bookIntent.properties.map Prod.fst ∧
        ∃ c, convert [("autor", "Cervantes")] (some book) [] ⟨none, Moment.first⟩ = .ok c ∧
          AgreeApart q.id bookIntent.properties c.properties := by
  have hintent : intent "@libro/Quijote > autor = Cervantes > FECHA = mayo" ⟨[book], by decide⟩ []
      ⟨none, Moment.first⟩ = .ok (some bookIntent) := by
    decide +kernel
  have hproperties : book.properties = [textNamed "autor" "Autoría"] ++
      textNamed "fecha" "Lectura" :: [textNamed "fecha_compra" "Fecha"] := rfl
  have htyped : bookIntent.typed = [("autor", "Cervantes")] ++ ("FECHA", "mayo") :: [] := rfl
  have hid : Text.key (textNamed "fecha" "Lectura").id ≠ "" := by decide +kernel
  have hword : Text.key "FECHA" = Text.key (textNamed "fecha" "Lectura").id := by decide +kernel
  obtain ⟨q, hmem, hanswers, hresolve, hcommand⟩ := intent_by_id hproperties hid hword
  obtain ⟨hwritten, happart⟩ := hcommand hintent rfl htyped
  exact ⟨hintent, q, hmem, hanswers, hresolve, hwritten (by decide +kernel), happart⟩

def chore (p q : Property) (h : p.id ≠ q.id) : ItemType where
  id := "chore"
  name := "Tarea"
  plural := "Tareas"
  icon := ""
  color := ""
  properties := [p, q]
  id_ne := by decide
  distinct := by simpa using h

/-- Whether what is typed for the second property by its id is written to the first. -/
def TakesOver (p q : Property) (h : p.id ≠ q.id) : Prop :=
  Text.key q.id ≠ "" ∧ (chore p q h).resolve q.id = some p ∧
    (intent ("@tarea/Pintar > " ++ q.id ++ " = hecho") ⟨[chore p q h], by simp⟩ []
      ⟨none, Moment.first⟩).map (·.map (·.properties)) = .ok (some [(p.id, .text "hecho")])

/-- A property takes over from a later one when it has the id of that for its name, or an id that
differs from it in capitals alone. -/
theorem takesOver_own_id :
    TakesOver (textNamed "fase" "Estado") (textNamed "estado" "Situación") (by decide) ∧
      TakesOver (textNamed "Estado" "Fase") (textNamed "estado" "Situación") (by decide) := by
  refine ⟨⟨?_, ?_, ?_⟩, ?_, ?_, ?_⟩
  all_goals decide +kernel

end QuickEntry

end Cuaderno
