import Mathlib.Data.List.Forall2

/-!
# Results of checks and readings

When steps that can fail succeed together, and what is left of a result without its value.
-/
set_option autoImplicit false

namespace RemoteDevice

variable {ε ε' α β : Type}

theorem bind_eq_ok_iff {r : Except ε α} {f : α → Except ε β} {b : β} :
    r >>= f = .ok b ↔ ∃ a, r = .ok a ∧ f a = .ok b := by
  cases r <;> simp [bind, Except.bind]

theorem bind_eq_error_iff {r : Except ε α} {f : α → Except ε β} {e : ε} :
    r >>= f = .error e ↔ r = .error e ∨ ∃ a, r = .ok a ∧ f a = .error e := by
  cases r <;> simp [bind, Except.bind]

theorem bind_unit_eq_ok_iff {r : Except ε Unit} {rest : Except ε α} {a : α} :
    (r >>= fun _ => rest) = .ok a ↔ r = .ok () ∧ rest = .ok a := by
  cases r <;> simp [bind, Except.bind]

theorem map_eq_ok_iff {f : α → β} {r : Except ε α} {b : β} :
    r.map f = .ok b ↔ ∃ a, r = .ok a ∧ f a = b := by
  cases r <;> simp [Except.map]

theorem map_eq_error_iff {f : α → β} {r : Except ε α} {e : ε} :
    r.map f = .error e ↔ r = .error e := by
  cases r <;> simp [Except.map]

theorem mapError_eq_ok_iff {f : ε → ε'} {r : Except ε α} {a : α} :
    r.mapError f = .ok a ↔ r = .ok a := by
  cases r with
  | error e =>
    constructor
    · intro failed
      cases failed
    · intro failed
      cases failed
  | ok value =>
    constructor
    · rintro ⟨⟩
      rfl
    · rintro ⟨⟩
      rfl

theorem toOption_eq_some_iff {r : Except ε α} {a : α} : r.toOption = some a ↔ r = .ok a := by
  cases r <;> simp [Except.toOption]

/-- Where it is known what a result would have to be, a failure says that nothing is. -/
theorem not_of_eq_error {r : Except ε α} {P : α → Prop} {e : ε} (spec : ∀ {a}, r = .ok a ↔ P a)
    (failed : r = .error e) (a : α) : ¬P a := by
  intro holds
  rw [spec.mpr holds] at failed
  cases failed

/-! ## Checks of all members of a list -/

theorem forM_eq_ok_iff {check : α → Except ε Unit} {l : List α} :
    l.forM check = .ok () ↔ ∀ a ∈ l, check a = .ok () := by
  induction l with
  | nil => simp [pure, Except.pure]
  | cons a l ih =>
    simp only [List.forM_eq_forM, List.forM_cons] at ih ⊢
    rw [bind_unit_eq_ok_iff, ih, List.forall_mem_cons]

/-- The first member that fails decides the error. -/
theorem forM_eq_error_iff {check : α → Except ε Unit} {l : List α} {e : ε} :
    l.forM check = .error e ↔
      ∃ before a after, l = before ++ a :: after ∧ (∀ b ∈ before, check b = .ok ()) ∧
        check a = .error e := by
  induction l with
  | nil => simp [pure, Except.pure]
  | cons first l ih =>
    simp only [List.forM_eq_forM, List.forM_cons] at ih ⊢
    cases checked : check first with
    | error e' =>
      constructor
      · intro failed
        cases failed
        exact ⟨[], first, l, rfl, by simp, checked⟩
      · rintro ⟨before, a, after, parts, passed, failed⟩
        cases before with
        | nil =>
          obtain ⟨rfl, -⟩ := List.cons.inj parts
          rw [← failed, checked]
          rfl
        | cons b before =>
          obtain ⟨rfl, -⟩ := List.cons.inj parts
          rw [passed first List.mem_cons_self] at checked
          cases checked
    | ok done =>
      have skipped : (Except.ok done >>= fun _ => forM l check) = .error e ↔
          forM l check = .error e := Iff.rfl
      rw [skipped, ih]
      constructor
      · rintro ⟨before, a, after, rfl, passed, failed⟩
        exact ⟨first :: before, a, after, rfl, List.forall_mem_cons.mpr ⟨checked, passed⟩, failed⟩
      · rintro ⟨before, a, after, parts, passed, failed⟩
        cases before with
        | nil =>
          obtain ⟨rfl, -⟩ := List.cons.inj parts
          rw [failed] at checked
          cases checked
        | cons b before =>
          obtain ⟨rfl, rfl⟩ := List.cons.inj parts
          exact ⟨before, a, after, rfl, (List.forall_mem_cons.mp passed).2, failed⟩

/-- The first bad member decides the error. -/
theorem forM_of_find? {check : α → Except ε Unit} {bad : α → Bool} {fault : α → ε}
    {l : List α} {a : α} (checks : ∀ x ∈ l, check x = if bad x then .error (fault x) else .ok ())
    (found : l.find? bad = some a) : l.forM check = .error (fault a) := by
  obtain ⟨here, before, after, rfl, passed⟩ := List.find?_eq_some_iff_append.mp found
  refine forM_eq_error_iff.mpr ⟨before, a, after, rfl, ?_, ?_⟩
  · intro b member
    have sound := passed b member
    rw [Bool.not_eq_true'] at sound
    rw [checks b (by simp [member]), sound]
    rfl
  · rw [checks a (by simp), if_pos here]

/-! ## Results without their values -/

def outcome (r : Except ε α) : Except ε Unit := r.map fun _ => ()

theorem outcome_map (f : α → β) (r : Except ε α) : outcome (r.map f) = outcome r := by
  cases r <;> rfl

theorem outcome_eq_ok_iff {r : Except ε α} : outcome r = .ok () ↔ ∃ a, r = .ok a := by
  cases r <;> simp [outcome, Except.map]

theorem outcome_eq_error_iff {r : Except ε α} {e : ε} : outcome r = .error e ↔ r = .error e := by
  cases r <;> simp [outcome, Except.map]

/-! ## Readings of all members of a list -/

theorem mapM_eq_ok_iff {read : α → Except ε β} {l : List α} {bs : List β} :
    l.mapM read = .ok bs ↔ List.Forall₂ (fun a b => read a = .ok b) l bs := by
  induction l generalizing bs with
  | nil => cases bs <;> simp [pure, Except.pure]
  | cons a l ih =>
    rw [List.mapM_cons, bind_eq_ok_iff, List.forall₂_cons_left_iff]
    constructor
    · rintro ⟨b, first, later⟩
      obtain ⟨rest, others, whole⟩ := bind_eq_ok_iff.mp later
      cases whole
      exact ⟨b, rest, first, ih.mp others, rfl⟩
    · rintro ⟨b, rest, first, others, rfl⟩
      exact ⟨b, first, bind_eq_ok_iff.mpr ⟨rest, ih.mpr others, rfl⟩⟩

/-- Whether the members can all be read is a check of each. -/
theorem outcome_mapM (read : α → Except ε β) (l : List α) :
    outcome (l.mapM read) = l.forM fun a => outcome (read a) := by
  induction l with
  | nil => rfl
  | cons a l ih =>
    rw [List.mapM_cons, List.forM_eq_forM, List.forM_cons, ← List.forM_eq_forM, ← ih]
    cases read a with
    | error e => rfl
    | ok b => cases l.mapM read <;> rfl

theorem mapM_eq_error_iff {read : α → Except ε β} {l : List α} {e : ε} :
    l.mapM read = .error e ↔
      ∃ before a after, l = before ++ a :: after ∧ (∀ b ∈ before, ∃ value, read b = .ok value) ∧
        read a = .error e := by
  rw [← outcome_eq_error_iff, outcome_mapM, forM_eq_error_iff]
  simp only [outcome_eq_ok_iff, outcome_eq_error_iff]

end RemoteDevice
