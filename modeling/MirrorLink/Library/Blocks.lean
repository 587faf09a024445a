import Mathlib.Data.Nat.Notation
import Mathlib.Logic.Function.Basic

/-!
# Blocks of memory

What is allocated: the contents of the block at each address, if there is one.  A block that
is allocated where none was and freed again leaves nothing behind (`free_alloc`), whatever has
been stored in it in between (`alloc_alloc`), and blocks at different addresses do not know of
each other (`alloc_of_ne`, `free_alloc_of_ne`).
-/

set_option autoImplicit false

namespace MirrorLink.Library

/-- The contents of what is allocated, by address. -/
abbrev Blocks (β : Type) : Type := ℕ → Option β

namespace Blocks

variable {β : Type} {h : Blocks β} {a b : ℕ} {c d : β}

/-- Allocate a block, or replace the contents of one. -/
def alloc (h : Blocks β) (a : ℕ) (c : β) : Blocks β := Function.update h a (some c)

def free (h : Blocks β) (a : ℕ) : Blocks β := Function.update h a none

/-- A new block has the contents it is allocated with. -/
@[simp] theorem alloc_self : h.alloc a c a = some c := Function.update_self _ _ _

/-- A freed block has no contents. -/
@[simp] theorem free_self : h.free a a = none := Function.update_self _ _ _

/-- An allocation leaves the other blocks as they are. -/
theorem alloc_of_ne (hne : b ≠ a) : h.alloc a c b = h b := Function.update_of_ne hne _ _

/-- Freeing a block leaves the other blocks as they are. -/
theorem free_of_ne (hne : b ≠ a) : h.free a b = h b := Function.update_of_ne hne _ _

/-- The last contents that are put into a block count. -/
@[simp] theorem alloc_alloc : (h.alloc a c).alloc a d = h.alloc a d :=
  Function.update_idem _ _ _

/-- What is allocated and freed again leaves nothing behind. -/
theorem free_alloc (ha : h a = none) : (h.alloc a c).free a = h := by
  unfold free alloc
  rw [Function.update_idem, ← ha, Function.update_eq_self]

/-- What a block held does not matter when it is freed. -/
@[simp] theorem free_alloc_self : (h.alloc a c).free a = h.free a := Function.update_idem _ _ _

/-- An allocation and the freeing of another block may change places. -/
theorem free_alloc_of_ne (hne : a ≠ b) : (h.alloc a c).free b = (h.free b).alloc a c := by
  unfold free alloc
  exact Function.update_comm hne _ _ _

end Blocks

end MirrorLink.Library
