import Mathlib.Data.List.Induction

/-!
# The last write counts

A loop over a list, each turn of which writes a field or leaves it as it is, leaves in it what
the last turn that writes has written (`foldl_lastWrite`).  Each field of a state can be looked
at alone, whatever the turns do to the others.
-/

set_option autoImplicit false

namespace MirrorLink.Library

variable {σ α β : Type}

/-- What the last of the elements that write has written. -/
def lastWrite (writes : α → Option β) (as : List α) : Option β := (as.filterMap writes).getLast?

/-- The last element writes, or what came before counts. -/
theorem lastWrite_concat (writes : α → Option β) (as : List α) (a : α) :
    lastWrite writes (as ++ [a]) = (writes a).or (lastWrite writes as) := by
  unfold lastWrite
  rw [List.filterMap_append]
  cases ha : writes a with
  | none => simp [ha]
  | some b => simp [ha]

/-- What has been written last has been written by one of the elements. -/
theorem mem_of_lastWrite {writes : α → Option β} {as : List α} {b : β}
    (h : lastWrite writes as = some b) : ∃ a ∈ as, writes a = some b := by
  have hmem := List.mem_of_getLast? h
  rwa [List.mem_filterMap] at hmem

/-- Writing something that depends on what would be written. -/
theorem lastWrite_bind {γ : Type} {writes : α → Option β} {f : β → Option γ} {as : List α}
    (h : ∀ a ∈ as, ∀ b, writes a = some b → (f b).isSome = true) :
    lastWrite (fun a => (writes a).bind f) as = (lastWrite writes as).bind f := by
  induction as using List.reverseRecOn with
  | nil => rfl
  | append_singleton as a ih =>
    have hlast := h a (List.mem_append_right _ List.mem_cons_self)
    rw [lastWrite_concat, lastWrite_concat, ih fun a' ha' => h a' (List.mem_append_left _ ha')]
    cases hwrites : writes a with
    | none => rfl
    | some b =>
      obtain ⟨c, hc⟩ := Option.isSome_iff_exists.mp (hlast b hwrites)
      simp [hc]

/-- The last write counts, if it comes to anything. -/
theorem lastWrite_bind_some {γ : Type} {writes : α → Option β} {f : β → Option γ} {as : List α}
    {b : β} {c : γ} (h : lastWrite writes as = some b) (hf : f b = some c) :
    lastWrite (fun a => (writes a).bind f) as = some c := by
  induction as using List.reverseRecOn with
  | nil => cases h
  | append_singleton as a ih =>
    rw [lastWrite_concat] at h ⊢
    cases hwrites : writes a with
    | none =>
      rw [hwrites, Option.none_or] at h
      rw [Option.bind_none, Option.none_or, ih h]
    | some d =>
      rw [hwrites, Option.some_or] at h
      cases h
      rw [Option.bind_some, hf, Option.some_or]

/-- Of the elements that are selected, the last one that has something to write. -/
theorem lastWrite_ite (p : α → Prop) [DecidablePred p] (f : α → Option β) (as : List α) :
    lastWrite (fun a => if p a then f a else none) as =
      ((as.filter fun a => p a).filterMap f).getLast? := by
  rw [lastWrite, List.filterMap_filter]
  congr 2
  funext a
  by_cases ha : p a
  · simp [ha]
  · simp [ha]

/-- A member that each step writes or keeps is what was written last. -/
theorem foldl_lastWrite (get : σ → β) (step : σ → α → σ) (writes : α → Option β)
    (hstep : ∀ s a, get (step s a) = (writes a).getD (get s)) (as : List α) (s : σ) :
    get (as.foldl step s) = (lastWrite writes as).getD (get s) := by
  induction as using List.reverseRecOn with
  | nil => rfl
  | append_singleton as a ih =>
    rw [List.foldl_append, List.foldl_cons, List.foldl_nil, hstep, ih, lastWrite_concat]
    cases writes a <;> rfl

/-- The same for a field that may be unset, where nothing unsets it. -/
theorem foldl_lastWrite_or (get : σ → Option β) (step : σ → α → σ) (writes : α → Option β)
    (hstep : ∀ s a, get (step s a) = (writes a).or (get s)) (as : List α) (s : σ) :
    get (as.foldl step s) = (lastWrite writes as).or (get s) := by
  induction as using List.reverseRecOn with
  | nil => rfl
  | append_singleton as a ih =>
    rw [List.foldl_append, List.foldl_cons, List.foldl_nil, hstep, ih, lastWrite_concat,
      Option.or_assoc]

end MirrorLink.Library
