import MirrorLink.Library.Bytes

/-!
# The growing buffer of `UI/buffer.c`

A `Buffer` is an allocation and the number of its bytes in use; `size` is the length of the
allocation.  Sizes are 32-bit unsigned numbers, and `buffer_append` adds to them without a
check, so that a request close to 2^32 bytes makes the buffer no larger (`append`).

A buffer that grows as bytes arrive is zeroed behind them (`Holds`), which is what makes its
contents a text.
-/

set_option autoImplicit false

namespace MirrorLink.Program

open MirrorLink.Library

structure Buffer where
  buf : List UInt8
  len : ℕ
  len_le : len ≤ buf.length

namespace Buffer

/-- The size of the allocation. -/
def size (b : Buffer) : ℕ := b.buf.length

/-- `buffer_init` -/
def init (size : ℕ) : Buffer := ⟨List.replicate size 0, 0, Nat.zero_le _⟩

/-- An allocation all of which is in use. -/
def full (bytes : List UInt8) : Buffer := ⟨bytes, bytes.length, Nat.le_refl _⟩

/-- `buffer_append`: make room for `n` bytes behind those in use, in a new, zeroed
allocation. -/
def append (b : Buffer) (n : ℕ) : Buffer :=
  if h : (n + b.len) % 2 ^ 32 > b.size then
    { buf := b.buf.take b.len ++ List.replicate ((n + b.len) % 2 ^ 32 - b.len) 0
      len := b.len
      len_le := by
        have := b.len_le
        rw [List.length_append, List.length_take]
        omega }
  else b

/-- `read` into `buf + len`, and `len += t`; nothing if the bytes do not fit. -/
def fill (b : Buffer) (bytes : List UInt8) : Option Buffer :=
  if h : b.len + bytes.length ≤ b.size then
    some
      { buf := b.buf.take b.len ++ overlay bytes (b.buf.drop b.len)
        len := b.len + bytes.length
        len_le := by
          have := b.len_le
          rw [List.length_append, List.length_take, length_overlay _ _ (by
            rw [List.length_drop]; exact Nat.le_sub_of_add_le' h), List.length_drop]
          unfold size at h
          omega }
  else none

/-- A full buffer is its bytes. -/
@[simp] theorem buf_full (bytes : List UInt8) : (full bytes).buf = bytes := rfl

/-- All of them count. -/
@[simp] theorem len_full (bytes : List UInt8) : (full bytes).len = bytes.length := rfl

/-- Growing leaves the length. -/
@[simp] theorem len_append (b : Buffer) (n : ℕ) : (b.append n).len = b.len := by
  unfold append
  split <;> rfl

/-- It leaves what is in the buffer. -/
theorem take_append (b : Buffer) (n : ℕ) : (b.append n).buf.take b.len = b.buf.take b.len := by
  have hlen := b.len_le
  unfold append
  split
  · exact List.take_left' (by rw [List.length_take]; omega)
  · rfl

/-- It makes room, as long as the sum has 32 bits. -/
theorem size_append (b : Buffer) (n : ℕ) (h : n + b.len < 2 ^ 32) :
    b.len + n ≤ (b.append n).size := by
  have hlen := b.len_le
  unfold append
  split
  · rename_i hgrow
    simp only [size, List.length_append, List.length_take, List.length_replicate]
    rw [Nat.mod_eq_of_lt h] at hgrow ⊢
    omega
  · rename_i hgrow
    rw [Nat.mod_eq_of_lt h] at hgrow
    omega

/-- The buffer holds `data`, and zeros behind it. -/
structure Holds (b : Buffer) (data : List UInt8) : Prop where
  len : b.len = data.length
  zeros : ∃ k, b.buf = data ++ List.replicate k 0

/-- A new buffer holds nothing. -/
theorem holds_init (n : ℕ) : Holds (init n) [] := ⟨rfl, n, rfl⟩

/-- What a buffer holds stands at its beginning. -/
theorem Holds.take {b : Buffer} {data : List UInt8} (h : Holds b data) :
    b.buf.take b.len = data := by
  obtain ⟨hlen, k, hbuf⟩ := h
  rw [hbuf, hlen, List.take_left' rfl]

/-- Growing leaves what it holds. -/
theorem Holds.append {b : Buffer} {data : List UInt8} (h : Holds b data) (n : ℕ) :
    Holds (b.append n) data := by
  unfold Buffer.append
  split
  · refine ⟨h.len, (n + b.len) % 2 ^ 32 - b.len, ?_⟩
    show b.buf.take b.len ++ List.replicate _ 0 = _
    rw [h.take]
  · exact h

/-- What fits is added to what it holds. -/
theorem Holds.fill {b : Buffer} {data bytes : List UInt8} (h : Holds b data)
    (hfit : data.length + bytes.length ≤ b.size) :
    ∃ b', b.fill bytes = some b' ∧ Holds b' (data ++ bytes) := by
  obtain ⟨k, hbuf⟩ := h.zeros
  unfold Buffer.fill
  rw [dif_pos (by rw [h.len]; exact hfit)]
  refine ⟨_, rfl, ?_, k - bytes.length, ?_⟩
  · show b.len + bytes.length = _
    rw [h.len, List.length_append]
  · have hdrop : b.buf.drop b.len = List.replicate k 0 := by
      rw [hbuf, h.len, List.drop_left' rfl]
    show b.buf.take b.len ++ overlay bytes (b.buf.drop b.len) = _
    rw [h.take, hdrop, overlay, List.drop_replicate, List.append_assoc]

end Buffer

end MirrorLink.Program
