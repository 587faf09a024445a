import MirrorLink.Library.Loops

/-!
# Computations that keep a state and emit effects

A program that talks to its environment is an `Effectful σ ε α`: from a state of type
`σ` it computes an `Outcome`, that is a value, the state it ends in, and the effects of
type `ε` it emitted on the way, oldest first.  The three projections of a sequential
composition are the rules the proofs use (`val_bind`, `state_bind`, `effects_bind`).

The rule of a counted loop `repeatM body n b`, whose body threads a local state `b`, is
`repeatM_invariant`: what every iteration preserves holds after the loop.

`Emits P x` says that every effect `x` can emit satisfies `P`, with one rule for each way
of composing computations.
-/

set_option autoImplicit false

namespace MirrorLink.Library

/-- What one run leaves behind: its value, the state it ends in, and the effects it
emitted, oldest first. -/
structure Outcome (σ ε α : Type) where
  val : α
  state : σ
  effects : List ε

/-- An outcome with the effects `es` before its own. -/
def Outcome.after {σ ε α : Type} (o : Outcome σ ε α) (es : List ε) : Outcome σ ε α :=
  ⟨o.val, o.state, es ++ o.effects⟩

/-- Effects before a run leave its value as it is. -/
@[simp] theorem Outcome.val_after {σ ε α : Type} (o : Outcome σ ε α) (es : List ε) :
    (o.after es).val = o.val := rfl

/-- Effects before a run leave its state as it is. -/
@[simp] theorem Outcome.state_after {σ ε α : Type} (o : Outcome σ ε α) (es : List ε) :
    (o.after es).state = o.state := rfl

/-- Effects before a run stand in front of its own. -/
@[simp] theorem Outcome.effects_after {σ ε α : Type} (o : Outcome σ ε α) (es : List ε) :
    (o.after es).effects = es ++ o.effects := rfl

/-- An outcome is known with its value, its state and its effects. -/
theorem Outcome.eq_of_val {σ ε α : Type} {o : Outcome σ ε α} {a : α} (h : o.val = a) :
    o = ⟨a, o.state, o.effects⟩ := by
  rw [← h]

/-- A computation over a state `σ` that emits effects `ε` and returns an `α`. -/
structure Effectful (σ ε α : Type) where
  run : σ → Outcome σ ε α

namespace Effectful

variable {σ ε α β : Type}

instance : Monad (Effectful σ ε) where
  pure a := ⟨fun s => ⟨a, s, []⟩⟩
  bind x f := ⟨fun s =>
    let o := x.run s
    let p := (f o.val).run o.state
    ⟨p.val, p.state, o.effects ++ p.effects⟩⟩

/-- Emit one effect. -/
def emit (e : ε) : Effectful σ ε Unit := ⟨fun s => ⟨(), s, [e]⟩⟩

/-- Read a part of the state. -/
def gets (f : σ → α) : Effectful σ ε α := ⟨fun s => ⟨f s, s, []⟩⟩

/-- Change the state. -/
def modify (f : σ → σ) : Effectful σ ε Unit := ⟨fun s => ⟨(), f s, []⟩⟩

/-- Returning a value changes nothing. -/
@[simp] theorem run_pure (a : α) (s : σ) :
    (pure a : Effectful σ ε α).run s = ⟨a, s, []⟩ := rfl

/-- An effect is the only one of its run. -/
@[simp] theorem run_emit (e : ε) (s : σ) :
    (emit e : Effectful σ ε Unit).run s = ⟨(), s, [e]⟩ := rfl

/-- Looking at the state changes nothing. -/
@[simp] theorem run_gets (f : σ → α) (s : σ) :
    (gets f : Effectful σ ε α).run s = ⟨f s, s, []⟩ := rfl

/-- A change of the state has no effects. -/
@[simp] theorem run_modify (f : σ → σ) (s : σ) :
    (modify f : Effectful σ ε Unit).run s = ⟨(), f s, []⟩ := rfl

/-- The value of a sequence is that of its second part. -/
@[simp] theorem val_bind (x : Effectful σ ε α) (f : α → Effectful σ ε β) (s : σ) :
    ((x >>= f).run s).val = ((f (x.run s).val).run (x.run s).state).val := rfl

/-- The state after a sequence is that after its second part. -/
@[simp] theorem state_bind (x : Effectful σ ε α) (f : α → Effectful σ ε β) (s : σ) :
    ((x >>= f).run s).state = ((f (x.run s).val).run (x.run s).state).state := rfl

/-- The effects of a sequence follow each other. -/
@[simp] theorem effects_bind (x : Effectful σ ε α) (f : α → Effectful σ ε β) (s : σ) :
    ((x >>= f).run s).effects =
      (x.run s).effects ++ ((f (x.run s).val).run (x.run s).state).effects := rfl

/-- A sequence runs its second part in the state that the first leaves. -/
theorem run_bind (x : Effectful σ ε α) (f : α → Effectful σ ε β) (s : σ) :
    (x >>= f).run s =
      ⟨((f (x.run s).val).run (x.run s).state).val, ((f (x.run s).val).run (x.run s).state).state,
        (x.run s).effects ++ ((f (x.run s).val).run (x.run s).state).effects⟩ := rfl

/-- A sequential composition whose first part is known goes on from there. -/
theorem run_bind_of {x : Effectful σ ε α} {s t : σ} {a : α} {es : List ε}
    (hx : x.run s = ⟨a, t, es⟩) (f : α → Effectful σ ε β) :
    (x >>= f).run s = ((f a).run t).after es := by
  rw [run_bind, hx]
  rfl

/-- What is read from the state may be put in for the reading. -/
theorem run_gets_bind (f : σ → α) (g : α → Effectful σ ε β) (s : σ) :
    (gets f >>= g).run s = (g (f s)).run s := rfl

/-- A condition chooses the run. -/
@[simp] theorem run_ite (c : Prop) [Decidable c] (x y : Effectful σ ε α) (s : σ) :
    (if c then x else y).run s = if c then x.run s else y.run s := by
  split <;> rfl

/-! ## Counted loops -/

/-- A loop of `m + n` iterations is a loop of `m` followed by one of `n`: the value, the
state and the effects of the one are those of the other. -/
theorem run_repeatM_add (body : β → Effectful σ ε β) (m n : ℕ) (b : β) (s : σ) :
    (repeatM body (m + n) b).run s = (repeatM body m b >>= repeatM body n).run s := by
  induction m generalizing b s with
  | zero => simp only [Nat.zero_add, repeatM_zero]; rfl
  | succ m ih =>
    rw [Nat.add_right_comm, repeatM_succ, repeatM_succ]
    have h := ih ((body b).run s).val ((body b).run s).state
    show Outcome.mk _ _ _ = Outcome.mk _ _ _
    rw [h]
    simp only [val_bind, state_bind, effects_bind, List.append_assoc]

/-- The last turn of a loop may be taken off as well as the first. -/
theorem run_repeatM_last (body : β → Effectful σ ε β) (n : ℕ) (b : β) (s : σ) :
    (repeatM body (n + 1) b).run s = (repeatM body n b >>= body).run s := by
  have hone : ∀ b s, (repeatM body 1 b).run s = (body b).run s := by
    intro b s
    rw [repeatM_succ, run_bind, repeatM_zero, run_pure, List.append_nil]
  rw [run_repeatM_add, run_bind, run_bind, hone]

/-- **The rule of the counted loop.**  An invariant of the local state, the state and the
effects so far that every iteration preserves holds at the end. -/
theorem repeatM_invariant (body : β → Effectful σ ε β) (I : β → σ → List ε → Prop)
    (hstep : ∀ b s es, I b s es →
      I ((body b).run s).val ((body b).run s).state (es ++ ((body b).run s).effects))
    (n : ℕ) (b : β) (s : σ) (es : List ε) (h : I b s es) :
    I ((repeatM body n b).run s).val ((repeatM body n b).run s).state
      (es ++ ((repeatM body n b).run s).effects) := by
  induction n generalizing b s es with
  | zero => simpa using h
  | succ n ih =>
    have hbody := hstep b s es h
    have hrest := ih _ _ _ hbody
    simpa only [repeatM_succ, val_bind, state_bind, effects_bind, List.append_assoc] using hrest

/-! ## Bounding the effects -/

/-- Every effect `x` can emit satisfies `P`. -/
def Emits (P : ε → Prop) (x : Effectful σ ε α) : Prop := ∀ s, ∀ e ∈ (x.run s).effects, P e

variable {P : ε → Prop}

/-- Returning a value has no effects to look at. -/
theorem emits_pure (a : α) : Emits P (pure a : Effectful σ ε α) := by
  intro s e he
  simp at he

/-- Nor has looking at the state. -/
theorem emits_gets (f : σ → α) : Emits P (gets f : Effectful σ ε α) := by
  intro s e he
  simp at he

/-- The one effect of `emit` is looked at. -/
theorem emits_emit {e : ε} (h : P e) : Emits P (emit e : Effectful σ ε Unit) := by
  intro s e' he
  rw [run_emit, List.mem_singleton] at he
  rw [he]
  exact h

/-- The effects of a sequence are those of its parts. -/
theorem emits_bind {x : Effectful σ ε α} {f : α → Effectful σ ε β} (hx : Emits P x)
    (hf : ∀ s, Emits P (f (x.run s).val)) : Emits P (x >>= f) := by
  intro s e he
  rw [effects_bind, List.mem_append] at he
  rcases he with he | he
  · exact hx s e he
  · exact hf s _ e he

/-- A loop emits what its body emits from local states that satisfy an invariant. -/
theorem emits_repeatM {body : β → Effectful σ ε β} (I : β → Prop)
    (hbody : ∀ b, I b → Emits P (body b)) (hkeep : ∀ b s, I b → I ((body b).run s).val)
    (n : ℕ) (b : β) (hb : I b) : Emits P (repeatM body n b) := by
  induction n generalizing b with
  | zero => exact emits_pure b
  | succ n ih =>
    rw [repeatM_succ]
    exact emits_bind (hbody b hb) fun s => ih _ (hkeep b s hb)

end Effectful

end MirrorLink.Library
