import Mathlib.Data.List.Perm.Basic

/-!
# What is opened is closed or held

A program that opens and closes things leaves a list of entries.  `Settles held entries held'`
says that with `held` at the beginning and `held'` at the end nothing is lost and nothing is
closed twice: what was held or opened is what was closed or is still held, each as often.

Entries settle one after the other (`Settles.trans`), and what is held in the end is
determined by them (`Settles.unique`).
-/

set_option autoImplicit false

namespace MirrorLink.Library

/-- Something is opened, or closed. -/
inductive Entry (τ : Type) where
  | opened (t : τ)
  | closed (t : τ)
  deriving DecidableEq, Repr

namespace Entry

variable {τ : Type}

def openedOnly : Entry τ → Option τ
  | opened t => some t
  | closed _ => none

def closedOnly : Entry τ → Option τ
  | opened _ => none
  | closed t => some t

end Entry

variable {τ : Type}

/-- Everything that was held before or is opened is closed or is held after, each once. -/
def Settles (held : List τ) (entries : List (Entry τ)) (held' : List τ) : Prop :=
  (held ++ entries.filterMap Entry.openedOnly).Perm (entries.filterMap Entry.closedOnly ++ held')

namespace Settles

variable {held held' held'' : List τ} {entries entries' : List (Entry τ)}

/-- No entries change nothing. -/
theorem nil (held : List τ) : Settles held [] held := by
  unfold Settles
  rw [List.filterMap_nil, List.filterMap_nil, List.append_nil, List.nil_append]

/-- Entries after entries. -/
theorem trans (h : Settles held entries held') (h' : Settles held' entries' held'') :
    Settles held (entries ++ entries') held'' := by
  unfold Settles at *
  rw [List.filterMap_append, List.filterMap_append, ← List.append_assoc]
  refine (h.append_right _).trans ?_
  rw [List.append_assoc, List.append_assoc]
  exact h'.append_left _

/-- The order of what is held does not matter. -/
theorem of_perm (h : Settles held entries held') (hperm : held'.Perm held'') :
    Settles held entries held'' :=
  List.Perm.trans h (hperm.append_left _)

/-- What is held in the end is determined by the entries. -/
theorem unique (h : Settles held entries held') (h' : Settles held entries held'') :
    held'.Perm held'' :=
  (List.perm_append_left_iff _).mp (List.Perm.trans (List.Perm.symm h) h')

/-- What is opened is held. -/
theorem opened (held : List τ) (t : τ) : Settles held [.opened t] (held ++ [t]) :=
  List.Perm.refl _

/-- What is closed is not held any more. -/
theorem closed [DecidableEq τ] (t : τ) (ht : t ∈ held) :
    Settles held [.closed t] (held.erase t) := by
  show (held ++ []).Perm ([t] ++ held.erase t)
  rw [List.append_nil]
  exact List.perm_cons_erase ht

/-- What is opened and closed again leaves no trace. -/
theorem opened_closed (held : List τ) (t : τ) : Settles held [.opened t, .closed t] held :=
  List.perm_append_comm

end Settles

end MirrorLink.Library
