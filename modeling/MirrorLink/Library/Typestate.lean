import MirrorLink.Library.Rounds

/-!
# Effects that follow a protocol

A protocol is an automaton over effects: `step` says where an effect leads, if it may come there.
`Obeys step P x Q` says of a computation `x` that from any state of it and of the automaton for
which `P` holds, all its effects may come one after the other, and that `Q` holds in the end.

There is a rule for each way of composing computations.
-/

set_option autoImplicit false

namespace MirrorLink.Library

open Effectful

variable {σ ε θ α β : Type} {step : θ → ε → Option θ}

def Obeys (step : θ → ε → Option θ) (P : σ → θ → Prop) (x : Effectful σ ε α)
    (Q : α → σ → θ → Prop) : Prop :=
  ∀ s q, P s q → ∃ q', (x.run s).effects.foldlM step q = some q' ∧
    Q (x.run s).val (x.run s).state q'

variable {P P' : σ → θ → Prop} {Q Q' : α → σ → θ → Prop} {R : β → σ → θ → Prop}

/-- A program that is done has to show its postcondition. -/
theorem obeys_pure {a : α} (h : ∀ s q, P s q → Q a s q) : Obeys step P (pure a) Q :=
  fun s q hP => ⟨q, rfl, h s q hP⟩

/-- A change of the state is seen by no rule of the effects. -/
theorem obeys_modify {f : σ → σ} {Q : Unit → σ → θ → Prop} (h : ∀ s q, P s q → Q () (f s) q) :
    Obeys step P (modify f) Q :=
  fun s q hP => ⟨q, rfl, h s q hP⟩

/-- An effect takes the step that the rule has for it. -/
theorem obeys_emit {e : ε} {Q : Unit → σ → θ → Prop}
    (h : ∀ s q, P s q → ∃ q', step q e = some q' ∧ Q () s q') : Obeys step P (emit e) Q := by
  intro s q hP
  obtain ⟨q', hstep, hQ⟩ := h s q hP
  refine ⟨q', ?_, hQ⟩
  show ([e] : List ε).foldlM step q = _
  rw [List.foldlM_cons, hstep]
  rfl

/-- **Composition.** -/
theorem obeys_bind {x : Effectful σ ε α} {f : α → Effectful σ ε β} (hx : Obeys step P x Q)
    (hf : ∀ a, Obeys step (Q a) (f a) R) : Obeys step P (x >>= f) R := by
  intro s q hP
  obtain ⟨q', hfirst, hQ⟩ := hx s q hP
  obtain ⟨q'', hrest, hR⟩ := hf _ _ q' hQ
  refine ⟨q'', ?_, hR⟩
  rw [effects_bind, List.foldlM_append, hfirst]
  exact hrest

/-- The condition may be strengthened and the postcondition weakened. -/
theorem Obeys.mono {x : Effectful σ ε α} (hx : Obeys step P x Q)
    (hP : ∀ s q, P' s q → P s q) (hQ : ∀ a s q, Q a s q → Q' a s q) : Obeys step P' x Q' := by
  intro s q h
  obtain ⟨q', hrun, hq⟩ := hx s q (hP s q h)
  exact ⟨q', hrun, hQ _ _ _ hq⟩

/-- Each branch may use the condition it is taken under. -/
theorem obeys_ite {c : Prop} [Decidable c] {x y : Effectful σ ε α}
    (hx : c → Obeys step P x Q) (hy : ¬ c → Obeys step P y Q) :
    Obeys step P (if c then x else y) Q := by
  by_cases hc : c
  · rw [if_pos hc]
    exact hx hc
  · rw [if_neg hc]
    exact hy hc

/-- A computation none of whose effects the automaton sees. -/
theorem obeys_of_unseen {x : Effectful σ ε α}
    (hunseen : ∀ s, ∀ e ∈ (x.run s).effects, ∀ q, step q e = some q)
    (h : ∀ s q, P s q → Q (x.run s).val (x.run s).state q) : Obeys step P x Q := by
  intro s q hP
  refine ⟨q, ?_, h s q hP⟩
  have hall := hunseen s
  generalize (x.run s).effects = es at hall
  induction es with
  | nil => rfl
  | cons e es ih =>
    rw [List.foldlM_cons, hall e List.mem_cons_self q]
    exact ih fun e' he' => hall e' (List.mem_cons_of_mem _ he')

end MirrorLink.Library
