import Mathlib
import Retouch.Failure

/-!
# Steps that may fail

When a sequence of steps succeeds, each of its steps has. The lemmas here take such a sequence
apart, and those about `Succeeds` put it together.
-/

namespace Retouch

variable {ε ε' α β : Type}

/-- A step that has succeeded hands its value to the next one. -/
@[simp]
lemma ok_bind (a : α) (f : α → Except ε β) : (.ok a >>= f) = f a := rfl

/-- After a step that has failed nothing happens. -/
@[simp]
lemma error_bind (e : ε) (f : α → Except ε β) : (.error e >>= f) = .error e := rfl

/-- A step that has met no defect succeeds as a step of an operation. -/
@[simp]
lemma lift_ok (a : α) : (liftM (.ok a : Except Defect α) : Except Failure α) = .ok a := rfl

/-- A step that has met a defect fails as a step of an operation. -/
@[simp]
lemma lift_error (defect : Defect) :
    (liftM (.error defect : Except Defect α) : Except Failure α) =
      .error (.unexpected defect) := rfl

/-- A sequence of two steps succeeds if both do. -/
lemma bind_eq_ok {x : Except ε α} {f : α → Except ε β} {b : β} :
    (x >>= f) = .ok b ↔ ∃ a, x = .ok a ∧ f a = .ok b := by
  cases x with
  | error e => simp [bind, Except.bind]
  | ok a => simp [bind, Except.bind]

/-- A sequence of two steps fails if one of them does. -/
lemma bind_eq_error {x : Except ε α} {f : α → Except ε β} {e : ε} :
    (x >>= f) = .error e ↔ x = .error e ∨ ∃ a, x = .ok a ∧ f a = .error e := by
  cases x with
  | error e => simp [bind, Except.bind]
  | ok a => simp [bind, Except.bind]

/-- A step without effect succeeds with its value. -/
@[simp]
lemma pure_eq_ok {a b : α} : (pure a : Except ε α) = .ok b ↔ a = b := by
  simp [pure, Except.pure]

/-- A step followed by a function succeeds if the step does. -/
lemma map_eq_ok {f : α → β} {x : Except ε α} {b : β} :
    x.map f = .ok b ↔ ∃ a, x = .ok a ∧ f a = b := by
  cases x with
  | error e => simp [Except.map]
  | ok a => simp [Except.map]

/-- A step succeeds under another type of errors if it does under its own. -/
@[simp]
lemma mapError_eq_ok {f : ε → ε'} {x : Except ε α} {a : α} : x.mapError f = .ok a ↔ x = .ok a := by
  cases x with
  | error e => simp [Except.mapError]
  | ok b => simp [Except.mapError]

/-- A step that meets no defect is a step of an operation. -/
@[simp]
lemma lift_eq_ok {x : Except Defect α} {a : α} : (liftM x : Except Failure α) = .ok a ↔ x = .ok a :=
  mapError_eq_ok

/-- A step that meets a defect fails with it as a step of an operation. -/
lemma lift_eq_error {x : Except Defect α} {failure : Failure} :
    (liftM x : Except Failure α) = .error failure ↔
      ∃ defect, x = .error defect ∧ failure = .unexpected defect := by
  cases x with
  | error defect => simp [eq_comm]
  | ok a => simp

/-- A step that does not fail. -/
def Succeeds (x : Except ε α) : Prop :=
  ∃ a, x = .ok a

namespace Succeeds

/-- A value does not fail. -/
lemma ok (a : α) : Succeeds (.ok a : Except ε α) := ⟨a, rfl⟩

/-- Returning a value does not fail. -/
lemma pure (a : α) : Succeeds (Pure.pure a : Except ε α) := ⟨a, rfl⟩

/-- A sequence does not fail if its first step does not, nor what follows its value. -/
lemma bind {x : Except ε α} {f : α → Except ε β} (first : Succeeds x)
    (next : ∀ a, x = .ok a → Succeeds (f a)) : Succeeds (x >>= f) := by
  obtain ⟨a, h⟩ := first
  obtain ⟨b, h'⟩ := next a h
  exact ⟨b, bind_eq_ok.2 ⟨a, h, h'⟩⟩

/-- A step does not fail for what is done with its value. -/
lemma map {x : Except ε α} (f : α → β) (first : Succeeds x) : Succeeds (x.map f) := by
  obtain ⟨a, h⟩ := first
  exact ⟨f a, map_eq_ok.2 ⟨a, h, rfl⟩⟩

end Succeeds

end Retouch
