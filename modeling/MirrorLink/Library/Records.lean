import MirrorLink.Library.Bytes
import MirrorLink.Library.Heap

/-!
# Records in an array of bytes

A record begins with its length, and the next one begins at the next multiple of four.
`Padded` says which bytes are a sequence of records, of whatever form one record has;
`walkRecords` is the loop that goes through such bytes, with a counter of those that are left.

`walkRecords_padded` is the rule of the loop: it comes to every record once, in order, up to
the first at which a turn stops.
-/

set_option autoImplicit false

namespace MirrorLink.Library

/-! ## Reading an array -/

def byteAt (buf : List UInt8) (i : ℕ) : Except Fault UInt8 :=
  match buf.drop i with
  | b0 :: _ => .ok b0
  | _ => .error .outsideArray

/-- A 16-bit word, least significant byte first. -/
def le16At (buf : List UInt8) (i : ℕ) : Except Fault UInt16 :=
  match buf.drop i with
  | b0 :: b1 :: _ => .ok (be16 b1 b0)
  | _ => .error .outsideArray

/-- A 32-bit word, least significant byte first. -/
def le32At (buf : List UInt8) (i : ℕ) : Except Fault UInt32 :=
  match buf.drop i with
  | b0 :: b1 :: b2 :: b3 :: _ => .ok (le32 b0 b1 b2 b3)
  | _ => .error .outsideArray

def le16Bytes (v : UInt16) : List UInt8 := [(v &&& 0xff).toUInt8, (v >>> 8).toUInt8]

def le32Bytes (v : UInt32) : List UInt8 :=
  [v.toUInt8, (v >>> 8).toUInt8, (v >>> 16).toUInt8, (v >>> 24).toUInt8]

/-- A number of 16 bits has two bytes. -/
@[simp] theorem length_le16Bytes (v : UInt16) : (le16Bytes v).length = 2 := rfl

/-- A number of 32 bits has four bytes. -/
@[simp] theorem length_le32Bytes (v : UInt32) : (le32Bytes v).length = 4 := rfl

/-- The byte at a place in the buffer. -/
theorem byteAt_eq {buf after : List UInt8} {i : ℕ} {b : UInt8} (h : buf.drop i = b :: after) :
    byteAt buf i = .ok b := by
  rw [byteAt, h]

/-- A number of 16 bits in the buffer is read as it was written. -/
theorem le16At_eq {buf after : List UInt8} {i : ℕ} {v : UInt16}
    (h : buf.drop i = le16Bytes v ++ after) : le16At buf i = .ok v := by
  rw [le16At, h]
  exact congrArg Except.ok (be16_bytes v)

/-- A number of 32 bits in the buffer is read as it was written. -/
theorem le32At_eq {buf after : List UInt8} {i : ℕ} {v : UInt32}
    (h : buf.drop i = le32Bytes v ++ after) : le32At buf i = .ok v := by
  rw [le32At, h]
  exact congrArg Except.ok (be32_bytes v)

/-- What is behind some bytes of an array. -/
theorem drop_add_of_append {buf front after : List UInt8} {i n : ℕ}
    (h : buf.drop i = front ++ after) (hn : front.length = n) : buf.drop (i + n) = after := by
  rw [← List.drop_drop, h, List.drop_left' hn]

/-! ## Sequences of records -/

/-- The next multiple of four. -/
def alignTo4 (n : ℕ) : ℕ := (n + 3) / 4 * 4

/-- The records, each as `enc` has it and followed by any bytes up to the next multiple of
four; behind the last one some of these may be missing. -/
inductive Padded {β : Type} (enc : β → List UInt8 → Prop) : List β → List UInt8 → Prop where
  | nil : Padded enc [] []
  | last {r : β} {bytes padding : List UInt8} (hr : enc r bytes)
    (hpadding : bytes.length + padding.length ≤ alignTo4 bytes.length) :
    Padded enc [r] (bytes ++ padding)
  | cons {r : β} {rs : List β} {bytes padding rest : List UInt8} (hr : enc r bytes)
    (hpadding : bytes.length + padding.length = alignTo4 bytes.length)
    (hrest : Padded enc rs rest) : Padded enc (r :: rs) (bytes ++ padding ++ rest)

/-- `for (r = first; OK(r, left); r = NEXT(r, left))`: a turn ends the loop, or gives what it
does and how far it is to the next record. -/
def walkRecords {ρ : Type} (turn : ℕ → ℤ → Except Fault (Option (List ρ × ℕ))) :
    ℕ → ℕ → ℤ → Except Fault (List ρ)
  | 0, _, _ => throw .notReturned
  | turns + 1, r, left => do
    match ← turn r left with
    | none => pure []
    | some (done, size) =>
      let rest ← walkRecords turn turns (r + size) (left - size)
      pure (done ++ rest)

section Walk

variable {β ρ : Type} {enc : β → List UInt8 → Prop} {buf : List UInt8}
  {turn : ℕ → ℤ → Except Fault (Option (List ρ × ℕ))}

/-- The walk ends with a turn that finds no record. -/
theorem walkRecords_stop {turns r : ℕ} {left : ℤ} (hturns : 0 < turns)
    (h : turn r left = .ok none) : walkRecords turn turns r left = .ok [] := by
  obtain ⟨turns, rfl⟩ := Nat.exists_eq_succ_of_ne_zero (Nat.ne_of_gt hturns)
  rw [walkRecords, h]
  rfl

/-- A record is read, and the walk goes on behind it. -/
theorem walkRecords_next {turns r size : ℕ} {left : ℤ} {done rest : List ρ}
    (h : turn r left = .ok (some (done, size)))
    (hrest : walkRecords turn turns (r + size) (left - size) = .ok rest) :
    walkRecords turn (turns + 1) r left = .ok (done ++ rest) := by
  refine bind_eq_ok.mpr ⟨_, h, ?_⟩
  exact bind_eq_ok.mpr ⟨rest, hrest, rfl⟩

/-- **The rule of the walk**, by induction over the records.  A turn need only be right about
records that are no longer than all the bytes. -/
theorem walkRecords_padded (stops : β → Prop) [DecidablePred stops] (does : β → List ρ)
    {most : ℕ} (hpos : ∀ r bytes, enc r bytes → 0 < bytes.length)
    (hend : ∀ r left, left ≤ 0 → turn r left = .ok none)
    (hturn : ∀ r bytes i left after, enc r bytes → bytes.length ≤ most →
      buf.drop i = bytes ++ after → (bytes.length : ℤ) ≤ left →
      turn i left = .ok (if stops r then none else some (does r, alignTo4 bytes.length)))
    {rs : List β} {bytes : List UInt8} (h : Padded enc rs bytes) {turns i : ℕ}
    {after : List UInt8} (hbuf : buf.drop i = bytes ++ after) (hmost : bytes.length ≤ most)
    (hturns : bytes.length < turns) :
    walkRecords turn turns i bytes.length =
      .ok ((rs.takeWhile fun r => ¬ stops r).flatMap does) := by
  induction h generalizing turns i with
  | nil => exact walkRecords_stop (Nat.zero_lt_of_lt hturns) (hend _ _ le_rfl)
  | @last r bytes padding hr hpadding =>
    have hlength := hpos r bytes hr
    rw [List.append_assoc] at hbuf
    rw [List.length_append] at hmost hturns ⊢
    obtain ⟨turns, rfl⟩ := Nat.exists_eq_succ_of_ne_zero (Nat.ne_of_gt (Nat.zero_lt_of_lt hturns))
    have hone := hturn r bytes i ↑(bytes.length + padding.length) _ hr (by omega) hbuf (by omega)
    by_cases hstop : stops r
    · rw [if_pos hstop] at hone
      rw [walkRecords_stop (Nat.succ_pos _) hone, List.takeWhile_cons_of_neg (by simpa using hstop)]
      rfl
    · rw [if_neg hstop] at hone
      -- nothing is left, or less than nothing
      have hrest : walkRecords turn turns (i + alignTo4 bytes.length)
          (↑(bytes.length + padding.length) - ↑(alignTo4 bytes.length)) = .ok [] :=
        walkRecords_stop (by omega) (hend _ _ (by omega))
      rw [walkRecords_next hone hrest, List.takeWhile_cons_of_pos (by simpa using hstop)]
      rfl
  | @cons r rs bytes padding rest hr hpadding hrest ih =>
    have hlength := hpos r bytes hr
    rw [List.append_assoc] at hbuf
    rw [List.length_append, List.length_append] at hmost hturns ⊢
    obtain ⟨turns, rfl⟩ := Nat.exists_eq_succ_of_ne_zero (Nat.ne_of_gt (Nat.zero_lt_of_lt hturns))
    have hone := hturn r bytes i ↑(bytes.length + padding.length + rest.length) _ hr (by omega)
      (by rwa [List.append_assoc] at hbuf) (by omega)
    by_cases hstop : stops r
    · rw [if_pos hstop] at hone
      rw [walkRecords_stop (Nat.succ_pos _) hone, List.takeWhile_cons_of_neg (by simpa using hstop)]
      rfl
    · rw [if_neg hstop] at hone
      have hnext : buf.drop (i + alignTo4 bytes.length) = rest ++ after :=
        drop_add_of_append hbuf (by rw [List.length_append, hpadding])
      have hgo : walkRecords turn turns (i + alignTo4 bytes.length) rest.length = .ok _ :=
        ih hnext (by omega) (by omega)
      have hleft : ((bytes.length + padding.length + rest.length : ℕ) : ℤ) -
          (alignTo4 bytes.length : ℕ) = (rest.length : ℕ) := by omega
      rw [← hleft] at hgo
      rw [walkRecords_next hone hgo, List.takeWhile_cons_of_pos (by simpa using hstop)]
      rfl

end Walk

end MirrorLink.Library
