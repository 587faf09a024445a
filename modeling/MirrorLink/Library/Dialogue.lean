import Mathlib.Data.Nat.Notation
import Mathlib.Tactic.Common

/-!
# Programs that wait for answers

A program that calls its environment stands at a `Point`: it waits in a state, and what it
has called for is determined by the state, or it has returned.  A run is given by the answers
it gets, oldest first.  `goOn` says where it stands then, `exchanges` what it has called for
and been answered, and `calls` what it has called for in all, answered or not.

The rule of such runs is `goOn_invariant`: what holds at the beginning and is kept by every
answer that the environment may give holds after any number of them.
-/

set_option autoImplicit false

namespace MirrorLink.Library

/-- Where a program stands: it waits for an answer, or has returned. -/
inductive Point (σ ρ : Type) where
  | waiting (s : σ)
  | returned (r : ρ)

section Runs

variable {σ ρ κ ι : Type} (call : σ → κ) (step : σ → ι → Point σ ρ)

/-- Where it stands after some answers; one that has returned hears none. -/
def goOn : Point σ ρ → List ι → Point σ ρ
  | p, [] => p
  | .waiting s, a :: answers => goOn (step s a) answers
  | .returned r, _ :: _ => .returned r

/-- What has been called for and answered. -/
def exchanges : Point σ ρ → List ι → List (κ × ι)
  | .waiting s, a :: answers => (call s, a) :: exchanges (step s a) answers
  | .waiting _, [] => []
  | .returned _, _ => []

/-- What has been called for. -/
def calls : Point σ ρ → List ι → List κ
  | .waiting s, a :: answers => call s :: calls (step s a) answers
  | .waiting s, [] => [call s]
  | .returned _, _ => []

/-- Every answer that is heard is one the environment may give. -/
def AllAllowed (allowed : κ → ι → Prop) : Point σ ρ → List ι → Prop
  | .waiting s, a :: answers => allowed (call s) a ∧ AllAllowed allowed (step s a) answers
  | .waiting _, [] => True
  | .returned _, _ => True

/-- Without answers the program stays where it is. -/
@[simp] theorem goOn_nil (p : Point σ ρ) : goOn step p [] = p := by
  cases p <;> rfl

/-- A program that has returned takes no more answers. -/
@[simp] theorem goOn_returned (r : ρ) (answers : List ι) :
    goOn step (.returned r : Point σ ρ) answers = .returned r := by
  cases answers <;> rfl

/-- The first answer goes to the call that waits. -/
@[simp] theorem goOn_waiting (s : σ) (a : ι) (answers : List ι) :
    goOn step (.waiting s) (a :: answers) = goOn step (step s a) answers := rfl

/-- Without answers there are no exchanges. -/
@[simp] theorem exchanges_nil (p : Point σ ρ) : exchanges call step p [] = [] := by
  cases p <;> rfl

/-- The first exchange is the waiting call with the first answer. -/
@[simp] theorem exchanges_waiting (s : σ) (a : ι) (answers : List ι) :
    exchanges call step (.waiting s) (a :: answers) =
      (call s, a) :: exchanges call step (step s a) answers := rfl

/-- A program that has returned exchanges nothing. -/
@[simp] theorem exchanges_returned (r : ρ) (answers : List ι) :
    exchanges call step (.returned r : Point σ ρ) answers = [] := by
  cases answers <;> rfl

/-- A program that has returned makes no calls. -/
@[simp] theorem calls_returned (r : ρ) (answers : List ι) :
    calls call step (.returned r : Point σ ρ) answers = [] := by
  cases answers <;> rfl

/-- No answer is one that is not allowed. -/
@[simp] theorem allAllowed_nil (allowed : κ → ι → Prop) (p : Point σ ρ) :
    AllAllowed call step allowed p [] := by
  cases p <;> trivial

/-- A program that has returned asks for no answer. -/
@[simp] theorem allAllowed_returned (allowed : κ → ι → Prop) (r : ρ) (answers : List ι) :
    AllAllowed call step allowed (.returned r : Point σ ρ) answers := by
  cases answers <;> trivial

/-- Answers may be given in two parts. -/
theorem goOn_append (p : Point σ ρ) (before after : List ι) :
    goOn step p (before ++ after) = goOn step (goOn step p before) after := by
  induction before generalizing p with
  | nil => rw [List.nil_append, goOn_nil]
  | cons a before ih =>
    cases p with
    | waiting s => exact ih (step s a)
    | returned r => rw [List.cons_append, goOn_returned, goOn_returned, goOn_returned]

/-- The exchanges of two parts follow each other. -/
theorem exchanges_append (p : Point σ ρ) (before after : List ι) :
    exchanges call step p (before ++ after) =
      exchanges call step p before ++ exchanges call step (goOn step p before) after := by
  induction before generalizing p with
  | nil => rw [List.nil_append, exchanges_nil, goOn_nil, List.nil_append]
  | cons a before ih =>
    cases p with
    | waiting s =>
      show (call s, a) :: exchanges call step (step s a) (before ++ after) = _
      rw [ih]
      rfl
    | returned r => simp

/-- The next answer goes to the point that the answers before it lead to. -/
theorem goOn_append_cons {p : Point σ ρ} {before : List ι} {s : σ}
    (hs : goOn step p before = .waiting s) (a : ι) (after : List ι) :
    goOn step p (before ++ a :: after) = goOn step (step s a) after := by
  rw [goOn_append, hs, goOn_waiting]

/-- A program that waits goes on calling from where the next answer takes it. -/
theorem calls_append_cons {p : Point σ ρ} {before : List ι} {s : σ}
    (hs : goOn step p before = .waiting s) (a : ι) (after : List ι) :
    calls call step p (before ++ a :: after) =
      calls call step p before ++ calls call step (step s a) after := by
  induction before generalizing p with
  | nil =>
    rw [goOn_nil] at hs
    subst hs
    rfl
  | cons b before ih =>
    cases p with
    | waiting t =>
      show call t :: calls call step (step t b) (before ++ a :: after) = _
      rw [ih hs]
      rfl
    | returned r =>
      rw [goOn_returned] at hs
      cases hs

/-- A program that waits has made a call. -/
theorem calls_waiting_ne_nil (s : σ) (answers : List ι) :
    calls call step (.waiting s : Point σ ρ) answers ≠ [] := by
  cases answers <;> exact List.cons_ne_nil _ _

/-- What it has been answered is a beginning of the answers. -/
theorem map_snd_exchanges_prefix (p : Point σ ρ) (answers : List ι) :
    (exchanges call step p answers).map Prod.snd <+: answers := by
  induction answers generalizing p with
  | nil =>
    simp only [exchanges_nil, List.map_nil, List.nil_prefix]
  | cons a answers ih =>
    cases p with
    | waiting s => exact List.cons_prefix_cons.mpr ⟨rfl, ih (step s a)⟩
    | returned r =>
      rw [exchanges_returned, List.map_nil]
      exact List.nil_prefix

/-- What is allowed of all answers is allowed of the first of them. -/
theorem allAllowed_append {allowed : κ → ι → Prop} {p : Point σ ρ} {before after : List ι}
    (h : AllAllowed call step allowed p (before ++ after)) :
    AllAllowed call step allowed p before := by
  induction before generalizing p with
  | nil => exact allAllowed_nil call step allowed p
  | cons a before ih =>
    cases p with
    | waiting s => exact ⟨h.1, ih h.2⟩
    | returned r => trivial

/-- **The rule of a run.**  What is true of the exchanges so far and of where the program
stands, at the beginning and after every answer it may be given, is true in the end. -/
theorem goOn_invariant (allowed : κ → ι → Prop) (I : List (κ × ι) → Point σ ρ → Prop)
    (hstep : ∀ h s a, allowed (call s) a → I h (.waiting s) → I (h ++ [(call s, a)]) (step s a))
    (p : Point σ ρ) (h : List (κ × ι)) (answers : List ι) (hI : I h p)
    (hallowed : AllAllowed call step allowed p answers) :
    I (h ++ exchanges call step p answers) (goOn step p answers) := by
  induction answers generalizing p h with
  | nil => rwa [exchanges_nil, List.append_nil, goOn_nil]
  | cons a answers ih =>
    cases p with
    | waiting s =>
      have hrest := ih (step s a) (h ++ [(call s, a)]) (hstep h s a hallowed.1 hI) hallowed.2
      rwa [List.append_assoc] at hrest
    | returned r => rwa [exchanges_returned, List.append_nil, goOn_returned]

end Runs

end MirrorLink.Library
