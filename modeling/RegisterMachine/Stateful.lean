/-!
# Computations that keep their state when they fail

Reading a program and executing it are computations on a state that can stop
with an error, and the state at the error matters. A computation can be done
again and again, whatever it answers. The statements below take a sequence of
two computations apart.
-/

namespace RegisterMachine
namespace Stateful

/-- What becomes of a computation can be compared, together with the state it leaves. -/
instance decidableEqResult
    {Error State Value : Type}
    [DecidableEq Error]
    [DecidableEq State]
    [DecidableEq Value] : DecidableEq (EStateM.Result Error State Value)
  | .ok value state, .ok otherValue otherState =>
      decidable_of_iff (value = otherValue ∧ state = otherState) (by simp)
  | .ok _ _, .error _ _ => isFalse (by simp)
  | .error _ _, .ok _ _ => isFalse (by simp)
  | .error error state, .error otherError otherState =>
      decidable_of_iff (error = otherError ∧ state = otherState) (by simp)

variable {ε σ α β : Type}

/-- What a computation answers, whether it fails or not. -/
def answer (act : EStateM ε σ α) (state : σ) : Except ε α :=
  match act state with
  | .ok result _ => .ok result
  | .error error _ => .error error

/-- The state that a computation leaves, whether it fails or not. -/
def next (act : EStateM ε σ α) (state : σ) : σ :=
  match act state with
  | .ok _ after => after
  | .error _ after => after

/-- The state after a computation has been done a number of times. -/
def after (act : EStateM ε σ α) : Nat → σ → σ
  | 0, state => state
  | times + 1, state => after act times (next act state)

/-- The answers of a computation that is done a number of times. -/
def answers (act : EStateM ε σ α) : Nat → σ → List (Except ε α)
  | 0, _ => []
  | times + 1, state => answer act state :: answers act times (next act state)

/-- The last of a number of times comes after all the others. -/
theorem after_succ
    (act : EStateM ε σ α)
    (times : Nat)
    (state : σ) :
    after act (times + 1) state = next act (after act times state) := by
  induction times generalizing state with
  | zero => rfl
  | succ times inductionHypothesis => exact inductionHypothesis (next act state)

theorem answers_succ
    (act : EStateM ε σ α)
    (times : Nat)
    (state : σ) :
    answers act (times + 1) state =
      answers act times state ++ [answer act (after act times state)] := by
  induction times generalizing state with
  | zero => rfl
  | succ times inductionHypothesis =>
      rw [answers, inductionHypothesis (next act state)]
      rfl

variable {first : EStateM ε σ α}
variable {second : α → EStateM ε σ β}
variable {before after : σ}

/-- A sequence succeeds when both computations do. -/
theorem bind_eq_ok_iff {result : β} :
    (first >>= second) before = .ok result after ↔
      ∃ value middle,
        first before = .ok value middle ∧ second value middle = .ok result after := by
  simp only [bind, EStateM.bind]
  split <;> simp_all [and_assoc]

/-- A sequence fails when the first computation fails or, after it, the second. -/
theorem bind_eq_error_iff {error : ε} :
    (first >>= second) before = .error error after ↔
      first before = .error error after ∨
      ∃ value middle,
        first before = .ok value middle ∧ second value middle = .error error after := by
  simp only [bind, EStateM.bind]
  split <;> simp_all [and_assoc]

end Stateful
end RegisterMachine
