/-
Module: StaticSite.Proofs.Outcomes
Purpose: When a sequence of steps that may fail succeeds, and which failures it can have.
Trusted boundary: none
Main exports:
  Succeeds, succeeds_iff_of_errors, succeeds_bind, bind_eq_ok_iff, bind_eq_error_iff,
  mapError_eq_ok_iff, mapError_eq_error_iff
-/

namespace StaticSite

/-- The computation gives a value. -/
def Succeeds {ε α : Type} (computation : Except ε α) : Prop :=
  ∃ value, computation = .ok value

section Succeeds

variable {ε α β : Type}

@[simp] theorem succeeds_ok (value : α) : Succeeds (.ok value : Except ε α) :=
  ⟨value, rfl⟩

@[simp] theorem not_succeeds_error (cause : ε) : ¬ Succeeds (.error cause : Except ε α) := by
  rintro ⟨value, impossible⟩
  cases impossible

/-- Computations with the same failures succeed alike. -/
theorem succeeds_iff_of_errors {first : Except ε α} {other : Except ε β}
    (same : ∀ cause, first = .error cause ↔ other = .error cause) :
    Succeeds first ↔ Succeeds other := by
  cases first with
  | error cause =>
      rw [(same cause).mp rfl]
      exact iff_of_false (not_succeeds_error cause) (not_succeeds_error cause)
  | ok value =>
      cases other with
      | error cause => cases (same cause).mpr rfl
      | ok others => exact iff_of_true (succeeds_ok value) (succeeds_ok others)

/-- A sequence succeeds when the first step does and the rest does with its value. -/
theorem succeeds_bind {first : Except ε α} {next : α → Except ε β} :
    Succeeds (first >>= next) ↔ ∃ value, first = .ok value ∧ Succeeds (next value) := by
  cases first with
  | error cause =>
      constructor
      · intro success
        exact absurd success (not_succeeds_error cause)
      · rintro ⟨value, impossible, -⟩
        cases impossible
  | ok value =>
      constructor
      · intro success
        exact ⟨value, rfl, success⟩
      · rintro ⟨other, same, success⟩
        rw [← Except.ok.inj same] at success
        exact success

/-- If the success of the rest does not depend on the value, both parts have to succeed. -/
theorem succeeds_bind_of_iff {first : Except ε α} {next : α → Except ε β} {condition : Prop}
    (rest : ∀ value, Succeeds (next value) ↔ condition) :
    Succeeds (first >>= next) ↔ Succeeds first ∧ condition := by
  rw [succeeds_bind]
  constructor
  · rintro ⟨value, done, success⟩
    exact ⟨⟨value, done⟩, (rest value).mp success⟩
  · rintro ⟨⟨value, done⟩, holds⟩
    exact ⟨value, done, (rest value).mpr holds⟩

/-- Packing a value up cannot fail. -/
theorem succeeds_bind_pure {first : Except ε α} {pack : α → β} :
    Succeeds (first >>= fun value => pure (pack value)) ↔ Succeeds first := by
  have always : ∀ value, Succeeds (pure (pack value) : Except ε β) ↔ True :=
    fun value => iff_of_true (succeeds_ok (pack value)) trivial
  exact (succeeds_bind_of_iff always).trans (and_iff_left trivial)

/-- A sequence has a value if its first step and then the rest have. -/
theorem bind_eq_ok_iff {first : Except ε α} {next : α → Except ε β} {value : β} :
    (first >>= next) = .ok value ↔ ∃ middle, first = .ok middle ∧ next middle = .ok value := by
  cases first with
  | error cause =>
      constructor
      · intro impossible
        cases impossible
      · rintro ⟨middle, impossible, -⟩
        cases impossible
  | ok middle =>
      constructor
      · exact fun given => ⟨middle, rfl, given⟩
      · rintro ⟨same, found, given⟩
        obtain rfl := Except.ok.inj found
        exact given

/-- A sequence fails if its first step does, or if it does not and the rest fails. -/
theorem bind_eq_error_iff {first : Except ε α} {next : α → Except ε β} {cause : ε} :
    (first >>= next) = .error cause ↔
      first = .error cause ∨ ∃ middle, first = .ok middle ∧ next middle = .error cause := by
  cases first with
  | error other =>
      constructor
      · intro failed
        cases failed
        exact .inl rfl
      · rintro (failed | ⟨middle, impossible, -⟩)
        · cases failed
          rfl
        · cases impossible
  | ok middle =>
      constructor
      · exact fun failed => .inr ⟨middle, rfl, failed⟩
      · rintro (impossible | ⟨same, found, failed⟩)
        · cases impossible
        · obtain rfl := Except.ok.inj found
          exact failed

/-- Telling a failure in other words makes no difference to success. -/
theorem mapError_eq_ok_iff {ε' : Type} {computation : Except ε α} {reword : ε → ε'} {value : α} :
    computation.mapError reword = .ok value ↔ computation = .ok value := by
  cases computation with
  | error reason => exact iff_of_false (nomatch ·) (nomatch ·)
  | ok value =>
      constructor
      · intro same
        exact congrArg Except.ok (Except.ok.inj same)
      · intro same
        exact congrArg Except.ok (Except.ok.inj same)

theorem mapError_eq_error_iff {ε' : Type} {computation : Except ε α} {reword : ε → ε'}
    {cause : ε'} :
    computation.mapError reword = .error cause ↔
      ∃ reason, computation = .error reason ∧ reword reason = cause := by
  cases computation with
  | error reason =>
      constructor
      · intro failed
        exact ⟨reason, rfl, Except.error.inj failed⟩
      · rintro ⟨same, failed, rfl⟩
        obtain rfl := Except.error.inj failed
        rfl
  | ok value =>
      constructor
      · intro impossible
        cases impossible
      · rintro ⟨reason, impossible, -⟩
        cases impossible

end Succeeds

end StaticSite
