import Mathlib.Data.Nat.Notation
import Mathlib.Tactic.Common

/-!
# Loops in any monad

A loop that is counted, and one that goes on while its body says so, cut off after some iterations.
-/

set_option autoImplicit false

namespace MirrorLink.Library

variable {m : Type → Type} [Monad m] {β : Type}

/-- `n` iterations of `body`, threading the local state `b`. -/
def repeatM (body : β → m β) : ℕ → β → m β
  | 0, b => pure b
  | n + 1, b => do
    let b ← body b
    repeatM body n b

/-- No turn is the value it starts with. -/
@[simp] theorem repeatM_zero (body : β → m β) (b : β) : repeatM body 0 b = pure b := rfl

/-- The first iteration, and the others. -/
theorem repeatM_succ (body : β → m β) (n : ℕ) (b : β) :
    repeatM body (n + 1) b = body b >>= repeatM body n := rfl

/-- `while (body());` cut off after `n` iterations; true if it is still running. -/
def whileM (body : m Bool) : ℕ → m Bool
  | 0 => pure true
  | n + 1 => do
    if ← body then whileM body n
    else pure false

end MirrorLink.Library
