import MirrorLink.Library.CInt
import MirrorLink.Program.VncHandshake

/-!
# The lengths of `CoreStack/vnc_session.c` in their C types

The operands are 16-bit fields promoted to `int`, and the 32-bit name length converted to
the `int` that `buffer_append` takes.  The session computes with the natural numbers that
come out of these expressions; `rawInt_eq_some_iff` and `toNat_appendSum` are the connection.
-/

set_option autoImplicit false

namespace MirrorLink.Program

open MirrorLink.Library

/-- `w * h * 2` -/
def rawInt (w h : UInt16) : Option ℤ := (intMul w.toNat h.toNat).bind fun n => intMul n 2

/-- `3 * m` -/
def runInt (m : UInt16) : Option ℤ := intMul 3 m.toNat

/-- `num * 6` -/
def colourMapInt (num : UInt16) : Option ℤ := intMul num.toNat 6

/-- `size + buf->len`, where `size` has been converted from a `uint32_t`. -/
def appendSum (size len : UInt32) : UInt32 := intAddUnsigned size.toInt32 len

/-- The length of a raw rectangle is defined below 2³⁰ pixels. -/
theorem rawInt_eq_some_iff (w h : UInt16) (n : ℤ) :
    rawInt w h = some n ↔ (w.toNat * h.toNat * 2 : ℤ) = n ∧ w.toNat * h.toNat < 2 ^ 30 := by
  simp only [rawInt, Option.bind_eq_some_iff, intMul_eq_some_iff, IsInt]
  rw [← Nat.cast_mul]
  constructor
  · rintro ⟨_, ⟨rfl, -⟩, rfl, -, hle⟩
    exact ⟨rfl, by omega⟩
  · rintro ⟨rfl, hlt⟩
    exact ⟨_, ⟨rfl, by omega, by omega⟩, rfl, by omega, by omega⟩

/-- The length of the runs of a line is always defined. -/
theorem runInt_eq (m : UInt16) : runInt m = some (3 * (m.toNat : ℤ)) := by
  have hm := m.toNat_lt
  rw [runInt, intMul_eq_some_iff]
  exact ⟨rfl, by unfold IsInt; omega⟩

/-- So is that of a colour map. -/
theorem colourMapInt_eq (num : UInt16) : colourMapInt num = some ((num.toNat : ℤ) * 6) := by
  have hnum := num.toNat_lt
  rw [colourMapInt, intMul_eq_some_iff]
  exact ⟨rfl, by unfold IsInt; omega⟩

/-- The size of a buffer grows modulo 2³². -/
theorem toNat_appendSum (size len : UInt32) :
    (appendSum size len).toNat = (size.toNat + len.toNat) % 2 ^ 32 :=
  toNat_intAddUnsigned_toInt32 size len

end MirrorLink.Program
