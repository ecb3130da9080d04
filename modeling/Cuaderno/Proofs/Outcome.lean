import Mathlib.Data.List.Forall2

/-!
# Runs that end well

What it means that a run of several steps ends without a fault: that each of its steps does. A run
ends with a fault when one of its steps does, behind steps that end well.
-/

namespace Cuaderno.Outcome

variable {ε α β : Type}

theorem bind_eq_ok {x : Except ε α} {f : α → Except ε β} {b : β} :
    (x >>= f) = .ok b ↔ ∃ a, x = .ok a ∧ f a = .ok b := by
  cases x with
  | error e => simp [bind, Except.bind]
  | ok a => simp [bind, Except.bind]

/-- A run of two steps ends with a fault when the first does, or the second behind it. -/
theorem bind_eq_error {x : Except ε α} {f : α → Except ε β} {e : ε} :
    (x >>= f) = .error e ↔ x = .error e ∨ ∃ a, x = .ok a ∧ f a = .error e := by
  cases x with
  | error e => simp [bind, Except.bind]
  | ok a => simp [bind, Except.bind]

theorem map_eq_error {x : Except ε α} {f : α → β} {e : ε} :
    (f <$> x) = .error e ↔ x = .error e := by
  cases x with
  | error e => simp [Functor.map, Except.map]
  | ok a => simp [Functor.map, Except.map]

/-- A run that ends with no fault ends well. -/
theorem exists_eq_ok {x : Except ε α} (h : ∀ e, x ≠ .error e) : ∃ a, x = .ok a := by
  cases x with
  | error e => exact absurd rfl (h e)
  | ok a => exact ⟨a, rfl⟩

theorem ite_bind {c : Prop} [Decidable c] (x y : Except ε α) (f : α → Except ε β) :
    (if c then x >>= f else y >>= f) = ((if c then x else y) >>= f) := by
  split
  · rfl
  · rfl

theorem map_eq_ok {x : Except ε α} {f : α → β} {b : β} :
    (f <$> x) = .ok b ↔ ∃ a, x = .ok a ∧ f a = b := by
  cases x with
  | error e => simp [Functor.map, Except.map]
  | ok a => simp [Functor.map, Except.map]

@[simp] theorem ok_bind (a : α) (f : α → Except ε β) : (Except.ok a >>= f) = f a := rfl

@[simp] theorem error_bind (e : ε) (f : α → Except ε β) :
    ((Except.error e : Except ε α) >>= f) = .error e := rfl

@[simp] theorem pure_eq_ok (a : α) : (pure a : Except ε α) = .ok a := rfl

@[simp] theorem throw_eq_error (e : ε) : (throw e : Except ε α) = .error e := rfl

theorem mapM_eq_ok {f : α → Except ε β} {as : List α} {bs : List β} :
    as.mapM f = .ok bs ↔ List.Forall₂ (fun a b => f a = .ok b) as bs := by
  induction as generalizing bs with
  | nil => cases bs <;> simp
  | cons a as ih =>
    rw [List.mapM_cons, bind_eq_ok]
    constructor
    · rintro ⟨b, hb, h⟩
      obtain ⟨rest, hrest, heq⟩ := bind_eq_ok.1 h
      cases heq
      exact .cons hb (ih.1 hrest)
    · intro h
      cases h with
      | cons hb hrest => exact ⟨_, hb, by rw [ih.2 hrest]; rfl⟩

/-- A run over all members of a list ends well when it does for each of them. -/
theorem mapM_map_eq_ok {f : β → Except ε α} {g : α → β} {as : List α}
    (h : ∀ a ∈ as, f (g a) = .ok a) : (as.map g).mapM f = .ok as := by
  rw [mapM_eq_ok, List.forall₂_map_left_iff, List.forall₂_same]
  exact h

/-- A run over a list and a second run over its results end well when they do for each member. -/
theorem exists_mapM_map_eq_ok {γ : Type} {f : α → Except ε β} {g : β → Except ε γ} {r : α → γ}
    {as : List α} (h : ∀ a ∈ as, ∃ b, f a = .ok b ∧ g b = .ok (r a)) :
    ∃ bs, as.mapM f = .ok bs ∧ bs.mapM g = .ok (as.map r) := by
  induction as with
  | nil => exact ⟨[], rfl, rfl⟩
  | cons a as ih =>
    obtain ⟨b, hf, hg⟩ := h a (List.mem_cons_self ..)
    obtain ⟨bs, hfs, hgs⟩ := ih fun c hc => h c (List.mem_cons_of_mem _ hc)
    exact ⟨b :: bs, by rw [List.mapM_cons, hf, hfs]; rfl, by rw [List.mapM_cons, hg, hgs]; rfl⟩

/-- A run over a list and a second run back end well when they do for each member. -/
theorem exists_mapM_eq_ok {f : α → Except ε β} {g : β → Except ε α} {as : List α}
    (h : ∀ a ∈ as, ∃ b, f a = .ok b ∧ g b = .ok a) :
    ∃ bs, as.mapM f = .ok bs ∧ bs.mapM g = .ok as := by
  have hback := exists_mapM_map_eq_ok (r := id) h
  rwa [List.map_id] at hback

/-- What holds of each result of a step holds of all results of a run. -/
theorem forall_of_mapM_eq_ok {f : α → Except ε β} {as : List α} {bs : List β}
    (h : as.mapM f = .ok bs) : ∀ b ∈ bs, ∃ a ∈ as, f a = .ok b := by
  have h := mapM_eq_ok.1 h
  induction h with
  | nil => simp
  | cons hb _ ih =>
    intro b hmem
    rcases List.mem_cons.1 hmem with rfl | hmem
    · exact ⟨_, List.mem_cons_self .., hb⟩
    · obtain ⟨a, ha, hf⟩ := ih (mapM_eq_ok.2 ‹_›) b hmem
      exact ⟨a, List.mem_cons_of_mem _ ha, hf⟩

/-- Some result of a run has a property when some member that it comes from has one. -/
theorem exists_result_iff {f : α → Except ε β} {as : List α} {bs : List β}
    (h : as.mapM f = .ok bs) {p : β → Prop} {q : α → Prop}
    (hpq : ∀ a b, f a = .ok b → (p b ↔ q a)) : (∃ b ∈ bs, p b) ↔ ∃ a ∈ as, q a := by
  rw [mapM_eq_ok] at h
  induction h with
  | nil => simp
  | cons hb _ ih => rw [List.exists_mem_cons_iff, List.exists_mem_cons_iff, hpq _ _ hb, ih]

theorem exists_of_forall₂_of_mem {R : α → β → Prop} {as : List α} {bs : List β}
    (h : List.Forall₂ R as bs) {a : α} (hmem : a ∈ as) : ∃ b, R a b := by
  induction h with
  | nil => cases hmem
  | cons hb _ ih =>
    rcases List.mem_cons.1 hmem with rfl | hmem
    · exact ⟨_, hb⟩
    · exact ih hmem

theorem exists_of_mapM_eq_ok {f : α → Except ε β} {as : List α} {bs : List β}
    (h : as.mapM f = .ok bs) : ∀ a ∈ as, ∃ b, f a = .ok b := fun _ hmem =>
  exists_of_forall₂_of_mem (mapM_eq_ok.1 h) hmem

/-- A run whose steps know one fault, whatever came before, ends with it when one of them does. -/
theorem foldlM_eq_error {f : β → α → Except ε β} {fault : ε} {p : α → Prop}
    (h : ∀ b a e, f b a = .error e ↔ e = fault ∧ p a) {as : List α} {b : β} {e : ε} :
    as.foldlM f b = .error e ↔ e = fault ∧ ∃ a ∈ as, p a := by
  induction as generalizing b with
  | nil => simp
  | cons a as ih =>
    rw [List.foldlM_cons, bind_eq_error, h]
    constructor
    · rintro (⟨he, ha⟩ | ⟨next, -, hrest⟩)
      · exact ⟨he, a, List.mem_cons_self .., ha⟩
      · obtain ⟨he, own, hmem, hown⟩ := ih.1 hrest
        exact ⟨he, own, List.mem_cons_of_mem _ hmem, hown⟩
    · rintro ⟨rfl, own, hmem, hown⟩
      cases hstep : f b a with
      | error e =>
        obtain ⟨rfl, ha⟩ := (h b a e).1 hstep
        exact .inl ⟨rfl, ha⟩
      | ok next =>
        rcases List.mem_cons.1 hmem with rfl | hmem
        · rw [(h b own e).2 ⟨rfl, hown⟩] at hstep
          cases hstep
        · exact .inr ⟨next, rfl, ih.2 ⟨rfl, own, hmem, hown⟩⟩

/-- A step that ends well is none of those that end with the one fault it knows. -/
theorem not_of_eq_ok {x : Except ε α} {fault : ε} {q : Prop}
    (h : ∀ e, x = .error e ↔ e = fault ∧ q) {a : α} (ha : x = .ok a) : ¬ q := by
  intro hq
  rw [(h fault).2 ⟨rfl, hq⟩] at ha
  cases ha

/-- A run over a list whose steps know one fault ends with it when one of them does. -/
theorem mapM_eq_error {f : α → Except ε β} {fault : ε} {p : α → Prop} {as : List α}
    (h : ∀ a ∈ as, ∀ e, f a = .error e ↔ e = fault ∧ p a) {e : ε} :
    as.mapM f = .error e ↔ e = fault ∧ ∃ a ∈ as, p a := by
  induction as with
  | nil => simp
  | cons a as ih =>
    have hfirst := h a List.mem_cons_self
    have hrest := ih fun b hb => h b (List.mem_cons_of_mem _ hb)
    rw [List.mapM_cons, List.exists_mem_cons_iff]
    cases ha : f a with
    | error e' =>
      obtain ⟨rfl, hown⟩ := (hfirst e').1 ha
      simp [hown, eq_comm]
    | ok b =>
      rw [or_iff_right (not_of_eq_ok hfirst ha), ← hrest]
      exact map_eq_error

theorem filterMapM_eq_error {f : α → Except ε (Option β)} {fault : ε} {p : α → Prop} {as : List α}
    (h : ∀ a ∈ as, ∀ e, f a = .error e ↔ e = fault ∧ p a) {e : ε} :
    as.filterMapM f = .error e ↔ e = fault ∧ ∃ a ∈ as, p a := by
  induction as with
  | nil => simp
  | cons a as ih =>
    have hfirst := h a List.mem_cons_self
    have hrest := ih fun b hb => h b (List.mem_cons_of_mem _ hb)
    rw [List.filterMapM_cons, List.exists_mem_cons_iff]
    cases ha : f a with
    | error e' =>
      obtain ⟨rfl, hown⟩ := (hfirst e').1 ha
      simp [hown, eq_comm]
    | ok found =>
      rw [or_iff_right (not_of_eq_ok hfirst ha), ← hrest]
      cases found with
      | none => rfl
      | some b => exact map_eq_error

theorem exists_of_foldlM_eq_ok {f : β → α → Except ε β} {as : List α} {b b' : β}
    (h : as.foldlM f b = .ok b') : ∀ a ∈ as, ∃ before after, f before a = .ok after := by
  induction as generalizing b with
  | nil => simp
  | cons a as ih =>
    rw [List.foldlM_cons, bind_eq_ok] at h
    obtain ⟨next, hstep, hrest⟩ := h
    intro own hmem
    rcases List.mem_cons.1 hmem with rfl | hmem
    · exact ⟨b, next, hstep⟩
    · exact ih hrest own hmem

/-- Whether a run ends with no other faults than those of a kind. -/
def Only (kind : ε → Prop) (x : Except ε α) : Prop := ∀ e, x = .error e → kind e

namespace Only

variable {kind : ε → Prop} {x : Except ε α}

theorem ok (a : α) : Only kind (.ok a) := by
  intro e h
  cases h

theorem of_exists (h : ∃ a, x = .ok a) : Only kind x := by
  obtain ⟨a, rfl⟩ := h
  exact ok a

theorem error {e : ε} (h : kind e) : Only kind (.error e : Except ε α) := by
  rintro _ ⟨⟩
  exact h

theorem mono {wider : ε → Prop} (h : Only kind x) (hkind : ∀ e, kind e → wider e) :
    Only wider x := fun e he => hkind e (h e he)

/-- The faults of two steps are those of the first, and those of the second behind it. -/
theorem bind {f : α → Except ε β} (hx : Only kind x) (hf : ∀ a, x = .ok a → Only kind (f a)) :
    Only kind (x >>= f) := by
  intro e h
  rcases bind_eq_error.1 h with he | ⟨a, ha, he⟩
  · exact hx e he
  · exact hf a ha e he

theorem ok_bind {f : α → Except ε β} (hx : ∃ a, x = .ok a) (hf : ∀ a, Only kind (f a)) :
    Only kind (x >>= f) := by
  obtain ⟨a, rfl⟩ := hx
  exact hf a

theorem mapM {f : α → Except ε β} {as : List α} (h : ∀ a ∈ as, Only kind (f a)) :
    Only kind (as.mapM f) := by
  induction as with
  | nil => exact ok []
  | cons a as ih =>
    rw [List.mapM_cons]
    refine (h a (List.mem_cons_self ..)).bind fun b _ => ?_
    refine (ih fun c hc => h c (List.mem_cons_of_mem _ hc)).bind fun bs _ => ?_
    exact ok _

theorem foldlM {f : β → α → Except ε β} {as : List α} {b : β}
    (h : ∀ b, ∀ a ∈ as, Only kind (f b a)) : Only kind (as.foldlM f b) := by
  induction as generalizing b with
  | nil => exact ok b
  | cons a as ih =>
    rw [List.foldlM_cons]
    refine (h b a (List.mem_cons_self ..)).bind fun next _ => ?_
    exact ih fun c d hd => h c d (List.mem_cons_of_mem _ hd)

end Only

theorem exists_mapM_of_forall {f : α → Except ε β} {as : List α}
    (h : ∀ a ∈ as, ∃ b, f a = .ok b) : ∃ bs, as.mapM f = .ok bs := by
  have hnone : Only (fun _ => False) (as.mapM f) := by
    refine .mapM fun a ha => ?_
    obtain ⟨b, hb⟩ := h a ha
    rw [hb]
    exact .ok b
  exact exists_eq_ok hnone

theorem mapM_eq_some {f : α → Option β} {as : List α} {bs : List β} :
    as.mapM f = some bs ↔ List.Forall₂ (fun a b => f a = some b) as bs := by
  induction as generalizing bs with
  | nil => cases bs <;> simp
  | cons a as ih =>
    rw [List.mapM_cons, Option.bind_eq_bind, Option.bind_eq_some_iff]
    constructor
    · rintro ⟨b, hb, h⟩
      obtain ⟨rest, hrest, heq⟩ := Option.bind_eq_some_iff.1 h
      cases heq
      exact .cons hb (ih.1 hrest)
    · intro h
      cases h with
      | cons hb hrest => exact ⟨_, hb, by rw [ih.2 hrest]; rfl⟩

theorem exists_of_mapM_eq_none {f : α → Option β} {as : List α} (h : as.mapM f = none) :
    ∃ a ∈ as, f a = none := by
  induction as with
  | nil => cases h
  | cons a as ih =>
    cases ha : f a with
    | none => exact ⟨a, List.mem_cons_self .., ha⟩
    | some b =>
      rw [List.mapM_cons, ha] at h
      cases hrest : as.mapM f with
      | none =>
        obtain ⟨a', hmem, hnone⟩ := ih hrest
        exact ⟨a', List.mem_cons_of_mem _ hmem, hnone⟩
      | some rest =>
        rw [hrest] at h
        cases h

end Cuaderno.Outcome
