import Mathlib.Data.Nat.Notation
import Mathlib.Tactic.Common

/-!
# Queues

A queue is given by its operations: one that is empty, one more element, and the element that is
next.  `FirstInFirstOut` is what is asked of them, one operation at a time.  It does not say what a
queue is: `Holds q s l` says that the elements of `l` are taken from `s` one after the other, and
then nothing is left.

The rules: an empty queue holds nothing (`holds_empty`), what is put into a queue is behind what it
holds (`Holds.post`, `Holds.postAll`), and what is taken is the first of it (`Holds.take_cons`).
-/

set_option autoImplicit false

namespace MirrorLink.Library

/-- The operations of a queue in a state `σ`. -/
structure Queue (σ α : Type) where
  empty : σ
  post : σ → α → σ
  /-- The next element and what is behind it, if there is any. -/
  take : σ → Option (α × σ)

namespace Queue

variable {σ α : Type}

/-- Elements are taken in the order they were put in, and once each. -/
structure FirstInFirstOut (q : Queue σ α) : Prop where
  take_empty : q.take q.empty = none
  /-- What is put where nothing waits is next, and nothing waits behind it. -/
  take_post_idle : ∀ s a, q.take s = none → ∃ t, q.take (q.post s a) = some (a, t) ∧
    q.take t = none
  /-- What is put where something waits is behind it. -/
  take_post_busy : ∀ s a t b, q.take s = some (a, t) → q.take (q.post s b) = some (a, q.post t b)

/-- These elements wait in the queue, and no others. -/
inductive Holds (q : Queue σ α) : σ → List α → Prop
  | idle {s : σ} (h : q.take s = none) : Holds q s []
  | next {s t : σ} {a : α} {l : List α} (h : q.take s = some (a, t)) (rest : Holds q t l) :
    Holds q s (a :: l)

variable {q : Queue σ α} {s : σ} {l : List α}

/-- Nothing waits in an empty queue. -/
theorem holds_empty (hq : q.FirstInFirstOut) : q.Holds q.empty [] :=
  .idle hq.take_empty

/-- One more element waits behind the others. -/
theorem Holds.post (h : q.Holds s l) (hq : q.FirstInFirstOut) (a : α) :
    q.Holds (q.post s a) (l ++ [a]) := by
  induction h with
  | idle h =>
    obtain ⟨t, htake, hnone⟩ := hq.take_post_idle _ a h
    exact .next htake (.idle hnone)
  | next h _ ih => exact .next (hq.take_post_busy _ _ _ a h) ih

/-- Some more elements, in their order. -/
theorem Holds.postAll (h : q.Holds s l) (hq : q.FirstInFirstOut) (more : List α) :
    q.Holds (more.foldl q.post s) (l ++ more) := by
  induction more generalizing s l with
  | nil => rwa [List.append_nil]
  | cons a more ih =>
    have hrest := ih (h.post hq a)
    rwa [List.append_assoc] at hrest

/-- Nothing is taken from a queue in which nothing waits. -/
theorem Holds.take_nil (h : q.Holds s []) : q.take s = none := by
  cases h with
  | idle h => exact h

/-- The first element is taken, and the others wait. -/
theorem Holds.take_cons {a : α} (h : q.Holds s (a :: l)) :
    ∃ t, q.take s = some (a, t) ∧ q.Holds t l := by
  cases h with
  | next h rest => exact ⟨_, h, rest⟩

/-- What waits in a queue is determined by it. -/
theorem Holds.unique {l' : List α} (h : q.Holds s l) (h' : q.Holds s l') : l = l' := by
  induction h generalizing l' with
  | idle h =>
    cases h' with
    | idle => rfl
    | next h' => rw [h] at h'; cases h'
  | next h _ ih =>
    cases h' with
    | idle h' => rw [h] at h'; cases h'
    | next h' rest' =>
      rw [h] at h'
      cases h'
      rw [ih rest']

/-! ## A queue -/

/-- A list, of which the first element is next. -/
def ofList (α : Type) : Queue (List α) α where
  empty := []
  post l a := l ++ [a]
  take
    | [] => none
    | a :: l => some (a, l)

/-- A list, taken from its head, is first in first out. -/
theorem firstInFirstOut_ofList : (ofList α).FirstInFirstOut where
  take_empty := rfl
  take_post_idle l a h := by
    cases l with
    | nil => exact ⟨[], rfl, rfl⟩
    | cons b l => cases h
  take_post_busy l a t b h := by
    cases l with
    | nil => cases h
    | cons c l =>
      cases h
      rfl

end Queue

end MirrorLink.Library
