import MirrorLink.Library.Effectful
import Mathlib.Data.List.Infix
import Mathlib.Order.Basic

/-!
# Loops that run until their body returns false

`while (body(s));` runs `body` again and again until a call returns `false`.  It need
not end, so the loop is described by its finite beginnings: `rounds body s n` is where it
stands after at most `n` calls, with the effects of all of them and whether it is still
running.  `Returns body s` says that some number of calls ends it.

The rules: an invariant that every call preserves holds after any number of calls
(`rounds_invariant`); a loop that has stopped stays as it is (`rounds_of_stopped`); it
stops in a call that returns `false` (`returns_iff_exists`).
-/

set_option autoImplicit false

namespace MirrorLink.Library

/-- Where a loop stands: its state, the effects of all calls so far, oldest first, and
whether the last call asked for another one. -/
structure Progress (σ ε : Type) where
  state : σ
  effects : List ε
  running : Bool

variable {σ ε : Type}

/-- The loop `while (body(s));` after at most `n` calls of its body. -/
def rounds (body : Effectful σ ε Bool) (s : σ) : ℕ → Progress σ ε
  | 0 => ⟨s, [], true⟩
  | n + 1 =>
    let p := rounds body s n
    if p.running then
      let o := body.run p.state
      ⟨o.state, p.effects ++ o.effects, o.val⟩
    else p

/-- Some number of calls ends the loop. -/
def Returns (body : Effectful σ ε Bool) (s : σ) : Prop :=
  ∃ n, (rounds body s n).running = false

/-- Before the first round nothing has happened. -/
@[simp] theorem rounds_zero (body : Effectful σ ε Bool) (s : σ) :
    rounds body s 0 = ⟨s, [], true⟩ := rfl

/-- One more round of a loop that runs. -/
theorem rounds_succ (body : Effectful σ ε Bool) (s : σ) (n : ℕ)
    (h : (rounds body s n).running = true) :
    rounds body s (n + 1) =
      ⟨(body.run (rounds body s n).state).state,
        (rounds body s n).effects ++ (body.run (rounds body s n).state).effects,
        (body.run (rounds body s n).state).val⟩ := by
  simp [rounds, h]

/-- A loop that has stopped makes no more rounds. -/
theorem rounds_succ_of_stopped (body : Effectful σ ε Bool) (s : σ) (n : ℕ)
    (h : (rounds body s n).running = false) : rounds body s (n + 1) = rounds body s n := by
  simp [rounds, h]

/-- Nor does it however long it is watched. -/
theorem rounds_of_stopped (body : Effectful σ ε Bool) (s : σ) (n k : ℕ)
    (h : (rounds body s n).running = false) : rounds body s (n + k) = rounds body s n := by
  induction k with
  | zero => rfl
  | succ k ih =>
    rw [← Nat.add_assoc, rounds_succ_of_stopped _ _ _ (by rw [ih]; exact h), ih]

/-- A loop that runs has run all the time. -/
theorem running_of_le (body : Effectful σ ε Bool) (s : σ) {m n : ℕ} (hmn : m ≤ n)
    (h : (rounds body s n).running = true) : (rounds body s m).running = true := by
  by_contra hm
  obtain ⟨k, rfl⟩ := Nat.exists_eq_add_of_le hmn
  rw [rounds_of_stopped body s m k (by simpa using hm)] at h
  exact hm h

/-- Later rounds only add effects. -/
theorem effects_extend (body : Effectful σ ε Bool) (s : σ) {m n : ℕ} (hmn : m ≤ n) :
    (rounds body s m).effects <+: (rounds body s n).effects := by
  induction n, hmn using Nat.le_induction with
  | base => exact List.prefix_refl _
  | succ n _ ih =>
    cases hr : (rounds body s n).running with
    | false => rwa [rounds_succ_of_stopped _ _ _ hr]
    | true =>
      rw [rounds_succ _ _ _ hr]
      exact ih.trans (List.prefix_append _ _)

/-- What the call after `i` others emits is among what `n > i` calls have emitted. -/
theorem mem_effects_of_call (body : Effectful σ ε Bool) (s : σ) {i n : ℕ} (hin : i < n)
    (hr : (rounds body s i).running = true) {e : ε}
    (he : e ∈ (body.run (rounds body s i).state).effects) : e ∈ (rounds body s n).effects := by
  apply (effects_extend body s (Nat.succ_le_of_lt hin)).subset
  rw [Nat.succ_eq_add_one, rounds_succ _ _ _ hr]
  exact List.mem_append_right _ he

/-- **The rule of the loop.**  An invariant of the state and of the effects so far that
each of the first `n` calls preserves holds after them. -/
theorem rounds_invariant (body : Effectful σ ε Bool) (I : σ → List ε → Prop) (s : σ) (n : ℕ)
    (h : I s [])
    (hstep : ∀ i < n, (rounds body s i).running = true →
      I (rounds body s i).state (rounds body s i).effects →
        I (body.run (rounds body s i).state).state
          ((rounds body s i).effects ++ (body.run (rounds body s i).state).effects)) :
    I (rounds body s n).state (rounds body s n).effects := by
  induction n with
  | zero => exact h
  | succ n ih =>
    have hn := ih fun i hi => hstep i (by omega)
    cases hr : (rounds body s n).running with
    | false =>
      rw [rounds_succ_of_stopped _ _ _ hr]
      exact hn
    | true =>
      rw [rounds_succ _ _ _ hr]
      exact hstep n (by omega) hr hn

/-- A loop returns in a call that asks for no other one. -/
theorem returns_iff_exists (body : Effectful σ ε Bool) (s : σ) :
    Returns body s ↔ ∃ n, (rounds body s n).running = true ∧
      (body.run (rounds body s n).state).val = false := by
  constructor
  · rintro ⟨n, hn⟩
    induction n with
    | zero => contradiction
    | succ n ih =>
      cases hr : (rounds body s n).running with
      | false => exact ih hr
      | true =>
        rw [rounds_succ _ _ _ hr] at hn
        exact ⟨n, hr, hn⟩
  · rintro ⟨n, hr, hval⟩
    refine ⟨n + 1, ?_⟩
    rw [rounds_succ _ _ _ hr]
    exact hval

/-! ## The loop as a computation -/

/-- A loop after its first call. -/
theorem rounds_front (body : Effectful σ ε Bool) (s : σ) (n : ℕ) :
    rounds body s (n + 1) =
      if (body.run s).val then
        ⟨(rounds body (body.run s).state n).state,
          (body.run s).effects ++ (rounds body (body.run s).state n).effects,
          (rounds body (body.run s).state n).running⟩
      else ⟨(body.run s).state, (body.run s).effects, false⟩ := by
  induction n with
  | zero =>
    cases hval : (body.run s).val <;> simp [rounds, hval]
  | succ n ih =>
    rw [rounds, ih]
    cases hval : (body.run s).val with
    | false => simp
    | true =>
      cases hr : (rounds body (body.run s).state n).running with
      | false => simp [rounds, hr]
      | true => simp [rounds, hr, List.append_assoc]

/-- A loop with a bound is the rounds that it makes. -/
theorem run_whileM (body : Effectful σ ε Bool) (s : σ) (n : ℕ) :
    (whileM body n).run s =
      ⟨(rounds body s n).running, (rounds body s n).state, (rounds body s n).effects⟩ := by
  induction n generalizing s with
  | zero => rfl
  | succ n ih =>
    rw [rounds_front, whileM, Effectful.run_bind]
    cases hval : (body.run s).val with
    | false => simp
    | true => simp [ih]

end MirrorLink.Library
