import Mathlib.Data.Nat.Notation
import Mathlib.Tactic.Ring

/-!
# Arithmetic in the integer types of C

A product of two `int`s has a value only if it is an `int` again; C leaves everything else
undefined (`intMul`).  A sum of an `int` and a `uint32_t` is a sum of two `uint32_t`s and
wraps (`intAddUnsigned`); an `int` that was converted from a `uint32_t` counts there with
the value it had before, also where it is negative.
-/

set_option autoImplicit false

namespace MirrorLink.Library

/-- The values of `int`. -/
def IsInt (n : ℤ) : Prop := -2147483648 ≤ n ∧ n ≤ 2147483647

instance (n : ℤ) : Decidable (IsInt n) := by
  unfold IsInt
  infer_instance

/-- `a * b` for two `int`s; nothing if it overflows. -/
def intMul (a b : ℤ) : Option ℤ := if IsInt (a * b) then some (a * b) else none

/-- A product is defined if and only if an `int` has room for it. -/
theorem intMul_eq_some_iff (a b n : ℤ) : intMul a b = some n ↔ a * b = n ∧ IsInt n := by
  unfold intMul
  split
  · rename_i h
    rw [Option.some.injEq]
    exact ⟨fun hn => ⟨hn, hn ▸ h⟩, And.left⟩
  · rename_i h
    simp only [false_iff, reduceCtorEq]
    rintro ⟨rfl, hn⟩
    exact h hn

/-- `size + len` for an `int` and a `uint32_t`. -/
def intAddUnsigned (size : Int32) (len : UInt32) : UInt32 := size.toUInt32 + len

/-- An `int` added to an unsigned number is added modulo 2³². -/
theorem toNat_intAddUnsigned_toInt32 (n len : UInt32) :
    (intAddUnsigned n.toInt32 len).toNat = (n.toNat + len.toNat) % 2 ^ 32 := by
  rw [intAddUnsigned, UInt32.toUInt32_toInt32, UInt32.toNat_add]

end MirrorLink.Library
