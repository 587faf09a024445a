import MirrorLink.Library.Loops

/-!
# Programs that call a service

An `Interaction` is a program with its calls left open: it has come to an end, or it calls for
something and goes on with the answer.  What the answers may be is up to a `Service`: it says
in which of its states it may be called for something, which answers may come then, and where
they leave it.  A program can only go wrong by calling for what is not allowed.

`Ensures` is the weakest precondition of a program: whatever the service answers, nothing is
called for that is not allowed, and what is returned satisfies the postcondition.  It is proved
by the rules `ensures_bind` and `Ensures.mono`, and says exactly this of everything that a run
reaches (`ensures_iff`).  Runs themselves are put together by `Reaches.bind`, or are computed by
`play`, where something is there that can work out its answers.
-/

set_option autoImplicit false

namespace MirrorLink.Library

/-- A program that calls for a `k : κ` and is answered an `ι k`. -/
inductive Interaction (κ : Type) (ι : κ → Type) (α : Type) where
  | done (a : α)
  | ask (k : κ) (next : ι k → Interaction κ ι α)

namespace Interaction

variable {κ : Type} {ι : κ → Type} {α β : Type}

protected def bind : Interaction κ ι α → (α → Interaction κ ι β) → Interaction κ ι β
  | done a, f => f a
  | ask k next, f => ask k fun answer => (next answer).bind f

instance : Monad (Interaction κ ι) where
  pure := done
  bind := Interaction.bind

/-- Call for something and return the answer. -/
def call (k : κ) : Interaction κ ι (ι k) := ask k done

end Interaction

/-! ## Services -/

/-- What answers a program. -/
structure Service (κ : Type) (ι : κ → Type) (σ : Type) where
  /-- What may be called for. -/
  allows : σ → κ → Prop
  /-- The answers that may come, and where they leave the service. -/
  serves : σ → (k : κ) → ι k → σ → Prop

namespace Service

open Interaction

variable {κ : Type} {ι : κ → Type} {σ α β : Type} (S : Service κ ι σ)

/-- What may have become of a program and of the service after some answers. -/
inductive Reaches : Interaction κ ι α → σ → Interaction κ ι α → σ → Prop where
  | here (p : Interaction κ ι α) (s : σ) : Reaches p s p s
  | further {k : κ} {next : ι k → Interaction κ ι α} {answer : ι k} {s s' t : σ}
    {p : Interaction κ ι α} (hserves : S.serves s k answer s')
    (rest : Reaches (next answer) s' p t) : Reaches (.ask k next) s p t

/-- Whatever is answered, nothing is called for that is not allowed, and `Q` holds of what is
returned. -/
def Ensures (Q : α → σ → Prop) : Interaction κ ι α → σ → Prop
  | .done a, s => Q a s
  | .ask k next, s =>
    S.allows s k ∧ ∀ answer s', S.serves s k answer s' → Ensures Q (next answer) s'

/-- A program has not gone wrong: it has ended as it should, or calls for what is allowed. -/
def Sound (Q : α → σ → Prop) : Interaction κ ι α → σ → Prop
  | .done a, s => Q a s
  | .ask k _, s => S.allows s k

variable {S} {Q Q' : α → σ → Prop} {s : σ}

/-- A call is allowed, and whatever it is answered the rest keeps the promise. -/
theorem ensures_call_bind {k : κ} {f : ι k → Interaction κ ι α} (hallows : S.allows s k)
    (hserves : ∀ answer s', S.serves s k answer s' → S.Ensures Q (f answer) s') :
    S.Ensures Q (call k >>= f) s := ⟨hallows, hserves⟩

/-- A promise may be weakened. -/
theorem Ensures.mono {p : Interaction κ ι α} (h : S.Ensures Q p s)
    (hQ : ∀ a t, Q a t → Q' a t) : S.Ensures Q' p s := by
  induction p generalizing s with
  | done a => exact hQ a s h
  | ask k next ih => exact ⟨h.1, fun answer t ht => ih answer (h.2 answer t ht)⟩

/-- A program of two parts ensures what its second part ensures of all that the first one
returns. -/
theorem ensures_bind {R : β → σ → Prop} {p : Interaction κ ι α} {f : α → Interaction κ ι β} :
    S.Ensures R (p >>= f) s ↔ S.Ensures (fun a t => S.Ensures R (f a) t) p s := by
  induction p generalizing s with
  | done a => exact Iff.rfl
  | ask k next ih =>
    constructor
    · intro h
      exact ⟨h.1, fun answer t ht => (ih answer).mp (h.2 answer t ht)⟩
    · intro h
      exact ⟨h.1, fun answer t ht => (ih answer).mpr (h.2 answer t ht)⟩

/-- A run whose first answer is given. -/
theorem Reaches.answered {k : κ} {next : ι k → Interaction κ ι α} {s t : σ}
    {p : Interaction κ ι α} (answer : ι k) (s' : σ) (hserves : S.serves s k answer s')
    (rest : S.Reaches (next answer) s' p t) : S.Reaches (.ask k next) s p t :=
  .further hserves rest

/-- A run of a program of two parts: one of the first part to its end, and one of the second. -/
theorem Reaches.bind {p : Interaction κ ι α} {f : α → Interaction κ ι β} {q : Interaction κ ι β}
    {s t u : σ} {a : α} (h : S.Reaches p s (.done a) t) (h' : S.Reaches (f a) t q u) :
    S.Reaches (p >>= f) s q u := by
  generalize hend : (Interaction.done a : Interaction κ ι α) = ended at h
  induction h with
  | here p s =>
    subst hend
    exact h'
  | further hserves _ ih => exact .further hserves (ih h' hend)

/-- A run that comes to the same place, described in another way. -/
theorem Reaches.to_eq {p q : Interaction κ ι α} {s t t' : σ} (h : S.Reaches p s q t)
    (ht : t = t') : S.Reaches p s q t' :=
  ht ▸ h

/-- A run of one call. -/
theorem reaches_call {k : κ} (answer : ι k) {s t : σ} (h : S.serves s k answer t) :
    S.Reaches (call k) s (.done answer) t :=
  .further h (.here _ _)

/-- **Soundness and completeness.**  What a program ensures is what holds of everything its
runs reach. -/
theorem ensures_iff {p : Interaction κ ι α} :
    S.Ensures Q p s ↔ ∀ p' t, S.Reaches p s p' t → S.Sound Q p' t := by
  constructor
  · intro h p' t hreach
    induction hreach with
    | here p s =>
      cases p with
      | done a => exact h
      | ask k next => exact h.1
    | further hserves _ ih => exact ih (h.2 _ _ hserves)
  · intro h
    induction p generalizing s with
    | done a => exact h _ _ (.here _ _)
    | ask k next ih =>
      refine ⟨h _ _ (.here _ _), fun answer t ht => ih answer ?_⟩
      intro p' t' hreach
      exact h p' t' (.further ht hreach)

end Service

end MirrorLink.Library
