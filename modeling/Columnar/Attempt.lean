import Columnar.Failure
/-!
# Operations that may stop midway

Writing a record, handing a batch on and running a session change something step by step and may
stop in between. What they leave behind is the state reached and the failure that stopped them, if
any: nothing that was done before the failure is taken back.
-/

set_option autoImplicit false

namespace Columnar

/-- A state reached, and the failure that stopped there. -/
structure Attempt (σ : Type) where
  state : σ
  failure : Option Failure

namespace Attempt

variable {σ τ : Type}

/-- A state reached without a failure. -/
def ok (state : σ) : Attempt σ := ⟨state, none⟩

/-- A state in which a failure stopped. -/
def failed (state : σ) (failure : Failure) : Attempt σ := ⟨state, some failure⟩

/-- The new state of an operation that changes nothing when it fails. -/
def ofExcept (before : σ) : Except Failure σ → Attempt σ
  | .ok after => ok after
  | .error failure => failed before failure

/-- The state as a part of a larger one. -/
def map (f : σ → τ) (attempt : Attempt σ) : Attempt τ :=
  ⟨f attempt.state, attempt.failure⟩

/-- Goes on from the state reached unless a failure stopped there. -/
def andThen (attempt : Attempt σ) (next : σ → Attempt σ) : Attempt σ :=
  match attempt.failure with
  | some _ => attempt
  | none => next attempt.state

/-- The failure, if any, with a name on the way to it. -/
def within (name : String) (attempt : Attempt σ) : Attempt σ :=
  ⟨attempt.state, attempt.failure.map (Failure.inField name)⟩

@[simp] theorem state_ok (state : σ) : (ok state).state = state := rfl

@[simp] theorem failure_ok (state : σ) : (ok state).failure = none := rfl

@[simp] theorem state_failed (state : σ) (failure : Failure) :
    (failed state failure).state = state := rfl

@[simp] theorem failure_failed (state : σ) (failure : Failure) :
    (failed state failure).failure = some failure := rfl

@[simp] theorem state_map (f : σ → τ) (attempt : Attempt σ) :
    (attempt.map f).state = f attempt.state := rfl

@[simp] theorem failure_map (f : σ → τ) (attempt : Attempt σ) :
    (attempt.map f).failure = attempt.failure := rfl

@[simp] theorem state_within (name : String) (attempt : Attempt σ) :
    (attempt.within name).state = attempt.state := rfl

/-- A name on the way neither adds nor takes away a failure. -/
theorem failure_within_eq_none_iff (name : String) (attempt : Attempt σ) :
    (attempt.within name).failure = none ↔ attempt.failure = none :=
  Option.map_eq_none_iff

@[simp] theorem andThen_ok (state : σ) (next : σ → Attempt σ) :
    (ok state).andThen next = next state := rfl

@[simp] theorem andThen_failed (state : σ) (failure : Failure) (next : σ → Attempt σ) :
    (failed state failure).andThen next = failed state failure := rfl

/-- What stopped nowhere goes on. -/
theorem andThen_of_clean {attempt : Attempt σ} (clean : attempt.failure = none)
    (next : σ → Attempt σ) : attempt.andThen next = next attempt.state := by
  rw [andThen, clean]

/-- What stopped at a failure stays there, whatever was to come next. -/
theorem andThen_of_failure {attempt : Attempt σ} {failure : Failure}
    (failed : attempt.failure = some failure) (next : σ → Attempt σ) :
    attempt.andThen next = attempt := by
  rw [andThen, failed]

/-- Two operations in a row go through when both do. -/
theorem failure_andThen_eq_none_iff (attempt : Attempt σ) (next : σ → Attempt σ) :
    (attempt.andThen next).failure = none ↔
      attempt.failure = none ∧ (next attempt.state).failure = none := by
  unfold andThen
  split
  · next failure failed => simp [failed]
  · next clean => simp [clean]

/-- Two operations in a row keep what each of them keeps. -/
theorem state_andThen {P : σ → Prop} {attempt : Attempt σ} {next : σ → Attempt σ}
    (first : P attempt.state) (second : P attempt.state → P (next attempt.state).state) :
    P (attempt.andThen next).state := by
  unfold andThen
  split
  · exact first
  · exact second first

/-- Of three operations in a row it does not matter which two are taken together. -/
theorem andThen_assoc (attempt : Attempt σ) (second third : σ → Attempt σ) :
    (attempt.andThen second).andThen third =
      attempt.andThen fun state => (second state).andThen third := by
  obtain ⟨state, failure⟩ := attempt
  cases failure <;> rfl

end Attempt

end Columnar
