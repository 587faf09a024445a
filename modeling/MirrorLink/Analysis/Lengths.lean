import MirrorLink.Analysis.Handshake
import MirrorLink.Analysis.UpdateFraming
import MirrorLink.Program.Lengths

/-!
# Exact lengths

Of the lengths the session computes, those of a run and of a colour map always fit their
type.  The length of a Raw rectangle does for fewer than 2^30 pixels, and the size of the
buffer behind ServerInit for a name of fewer than 2^32 - 24 bytes; beyond that the one
overflows and the other wraps, so that `buffer_append` leaves the buffer as it is.
-/

set_option autoImplicit false

namespace MirrorLink.Analysis

open MirrorLink.Library MirrorLink.Program Effectful

/-- The rectangle passes the checks of the Raw branch and is read. -/
def RawPasses (s : VncSession) (px py w h : UInt16) : Prop :=
  w ≠ 0 ∧ h ≠ 0 ∧ px.toNat + w.toNat ≤ s.rfbWidth.toNat ∧ py.toNat + h.toNat ≤ s.rfbHeight.toNat

/-- Every rectangle that passes has fewer than `n` pixels exactly when the framebuffer has. -/
theorem rawPasses_lt_iff (s : VncSession) (n : ℕ) (hn : 0 < n) :
    (∀ px py w h, RawPasses s px py w h → w.toNat * h.toNat < n) ↔
      s.rfbWidth.toNat * s.rfbHeight.toNat < n := by
  constructor
  · intro hall
    by_cases hempty : s.rfbWidth = 0 ∨ s.rfbHeight = 0
    · rcases hempty with h0 | h0 <;> simp [h0, hn]
    · rw [not_or] at hempty
      exact hall 0 0 _ _ ⟨hempty.1, hempty.2, by simp, by simp⟩
  · rintro hsize px py w h ⟨-, -, hwide, hhigh⟩
    exact (Nat.mul_le_mul (by omega) (by omega)).trans_lt hsize

/-- `buffer_append` makes exactly the room that was asked for, unless there is more. -/
theorem size_append_eq (b : Buffer) (n : ℕ) (h : n + b.len < 2 ^ 32) :
    (b.append n).size = max b.size (n + b.len) := by
  have hlen : b.len ≤ b.size := b.len_le
  unfold Buffer.append
  split
  · rename_i hgrow
    rw [Nat.mod_eq_of_lt h] at hgrow
    simp only [Buffer.size, List.length_append, List.length_take, List.length_replicate,
      Nat.mod_eq_of_lt h] at hlen hgrow ⊢
    omega
  · rename_i hgrow
    rw [Nat.mod_eq_of_lt h] at hgrow
    omega

/-- A buffer has room for `n` more bytes after `buffer_append` exactly when the sum does not
wrap. -/
theorem size_append_iff (b : Buffer) (n : ℕ) (hn : n < 2 ^ 32) (hsize : b.size < 2 ^ 32) :
    b.len + n ≤ (b.append n).size ↔ n + b.len < 2 ^ 32 := by
  refine ⟨?_, b.size_append n⟩
  intro hroom
  by_contra hwrap
  have hlen : b.len ≤ b.size := b.len_le
  have hkeep : b.append n = b := by
    unfold Buffer.append
    rw [dif_neg (by omega)]
  rw [hkeep] at hroom
  omega

/-! ## What is read with these lengths -/

/-- A raw rectangle is one read of the length that was computed. -/
theorem run_framebufferRaw_of_passes {px py w h : UInt16} {c : Client}
    (hp : RawPasses c.session px py w h) :
    ((framebufferRaw px py w h).run c).effects =
      (if w.toNat * h.toNat * 2 < 2 ^ 31 then [] else [.signedOverflow]) ++
        [.read (rawLength w h) (rawLength w h) (c.readCode (rawLength w h))] := by
  obtain ⟨hw, hh, hwide, hhigh⟩ := hp
  rw [run_framebufferRaw, if_neg]
  rintro ((h0 | h0) | h0)
  · exact hw h0
  · exact hh h0
  · omega

/-- A line of runs is one read of three bytes each. -/
theorem effects_framebufferRleLine (m : UInt16) (c : Client) (more : List UInt8) :
    ((framebufferRleLine ()).run { c with unread := be16Bytes m ++ more }).effects =
      [.read 2 2 0, .read (3 * m.toNat) (3 * m.toNat)
        (Client.readCode { c with unread := more } (3 * m.toNat))] := by
  have hread := run_connRead_append (n := 2) ({ c with unread := be16Bytes m ++ more }.draw 2)
    ({ c with unread := be16Bytes m ++ more }.indeterminate 2) rfl rfl
    (Client.length_indeterminate _ _).le
  have hcount : be16 ((be16Bytes m).getD 0 0) ((be16Bytes m).getD 1 0) = m := be16_bytes m
  unfold framebufferRleLine
  simp only [run_uninitialised_bind, run_bind_of hread, hcount, run_connReadFreed]
  rfl

/-- A colour map is one read of six bytes a colour. -/
theorem effects_colourMap (front : Block 4) (num : UInt16) (c : Client) (more : List UInt8) :
    (vncSessionDoworks.run
        { c with unread := 1 :: (front.val ++ (be16Bytes num ++ more)) }).effects =
      [.read 1 1 0, .read 6 6 0, .read num.toNat (num.toNat * 6)
        (Client.readCode { c with unread := more } (num.toNat * 6))] := by
  obtain ⟨front, hfront⟩ := front
  obtain ⟨b1, b2, b3, b4, rfl⟩ := List.length_eq_four.mp hfront
  have hcount : be16 (Client.byte { c with
      unread := 1 :: ([b1, b2, b3, b4] ++ (be16Bytes num ++ more)) } 5) (Client.byte { c with
      unread := 1 :: ([b1, b2, b3, b4] ++ (be16Bytes num ++ more)) } 6) = num := be16_bytes num
  rw [run_doworks_setColourMapEntries _ rfl, hcount]
  have hone : Client.readCode { c with
      unread := 1 :: ([b1, b2, b3, b4] ++ (be16Bytes num ++ more)) } 1 = 0 := by
    rw [Client.readCode_eq_zero_iff]
    simp
  have hsix : Client.readCode (Client.skip { c with
      unread := 1 :: ([b1, b2, b3, b4] ++ (be16Bytes num ++ more)) } 1) 6 = 0 := by
    rw [Client.readCode_eq_zero_iff]
    simp
  rw [headerEffects, hone, hsix]
  rfl

/-- What the reads of ServerInit are: its header, and the name into the room behind it. -/
theorem effects_initializationMessages (i : ServerInit) (c : Client) (more : List UInt8) :
    (initializationMessages.run { c with unread := i.header ++ more }).effects =
      [.write [0], .read 24 24 0,
        .read (((Buffer.full i.header).append i.nameLength.toNat).size - 24) i.nameLength.toNat
          (Client.readCode { c with unread := more } i.nameLength.toNat)] := by
  have hread := run_connRead_append (n := 24) { c with unread := i.header ++ more }
    (Buffer.init 24).buf rfl i.length_header (by simp [Buffer.init])
  unfold initializationMessages
  rw [run_bind_of (run_connWrite _ _), run_bind_of hread]
  simp only [Buffer.buf_full, nameLength_header, run_bind_of (run_connRead _ _ _),
    run_modifySession, List.length_drop]
  rfl

/-! ## Exact lengths -/

/-- The lengths of a Raw rectangle, of a run of a Run Length line, of a colour map and of
the name in ServerInit, and what is read with them. -/
structure LengthsExact (c : Client) (px py w h m num : UInt16) (i : ServerInit) : Prop where
  raw : RawPasses c.session px py w h →
    rawInt w h = some (w.toNat * h.toNat * 2 : ℤ) ∧
      ((framebufferRaw px py w h).run c).effects =
        [.read (w.toNat * h.toNat * 2) (w.toNat * h.toNat * 2)
          (c.readCode (w.toNat * h.toNat * 2))]
  run : runInt m = some (3 * (m.toNat : ℤ)) ∧
    ∀ more, ((framebufferRleLine ()).run { c with unread := be16Bytes m ++ more }).effects =
      [.read 2 2 0, .read (3 * m.toNat) (3 * m.toNat)
        (Client.readCode { c with unread := more } (3 * m.toNat))]
  colourMap : colourMapInt num = some ((num.toNat : ℤ) * 6) ∧
    ∀ (front : Block 4) more, (vncSessionDoworks.run
        { c with unread := 1 :: (front.val ++ (be16Bytes num ++ more)) }).effects =
      [.read 1 1 0, .read 6 6 0, .read num.toNat (num.toNat * 6)
        (Client.readCode { c with unread := more } (num.toNat * 6))]
  sum : (appendSum i.nameLength 24).toNat = i.nameLength.toNat + 24
  room : 24 + i.nameLength.toNat ≤ ((Buffer.full i.header).append i.nameLength.toNat).size
  kept : ((Buffer.full i.header).append i.nameLength.toNat).buf.take 24 = i.header
  name : ∀ more, (initializationMessages.run { c with unread := i.header ++ more }).effects =
    [.write [0], .read 24 24 0, .read i.nameLength.toNat i.nameLength.toNat
      (Client.readCode { c with unread := more } i.nameLength.toNat)]

/-- **Exact lengths.**  All lengths are exact as long as a Raw rectangle that is read has
fewer than 2^30 pixels and the name in ServerInit has fewer than 2^32 - 24 bytes. -/
theorem lengths_exact_iff (c : Client) (px py w h m num : UInt16) (i : ServerInit) :
    LengthsExact c px py w h m num i ↔
      (RawPasses c.session px py w h → w.toNat * h.toNat < 2 ^ 30) ∧
        i.nameLength.toNat < 2 ^ 32 - 24 := by
  have hname := i.nameLength.toNat_lt
  have hlength : (Buffer.full i.header).size = 24 := i.length_header
  have hsum := toNat_appendSum i.nameLength 24
  rw [show UInt32.toNat 24 = 24 from rfl] at hsum
  constructor
  · intro hexact
    refine ⟨fun hp => ((rawInt_eq_some_iff w h _).mp (hexact.raw hp).1).2, ?_⟩
    have hlen : (Buffer.full i.header).len = 24 := i.length_header
    have hroom := size_append_iff (Buffer.full i.header) i.nameLength.toNat hname (by omega)
    rw [hlen] at hroom
    have hfits := hroom.mp hexact.room
    omega
  · rintro ⟨hpixels, hfits⟩
    have hgrown : ((Buffer.full i.header).append i.nameLength.toNat).size =
        24 + i.nameLength.toNat := by
      have hlen : (Buffer.full i.header).len = 24 := i.length_header
      rw [size_append_eq _ _ (by omega), hlength, hlen]
      omega
    constructor
    · intro hp
      have hlt := hpixels hp
      have hraw : rawLength w h = w.toNat * h.toNat * 2 := by
        unfold rawLength
        omega
      refine ⟨(rawInt_eq_some_iff w h _).mpr ⟨rfl, hlt⟩, ?_⟩
      rw [run_framebufferRaw_of_passes hp, if_pos (by omega), hraw, List.nil_append]
    · exact ⟨runInt_eq m, effects_framebufferRleLine m c⟩
    · exact ⟨colourMapInt_eq num, fun front => effects_colourMap front num c⟩
    · omega
    · omega
    · have hkeep := (Buffer.full i.header).take_append i.nameLength.toNat
      rw [Buffer.len_full, i.length_header, Buffer.buf_full] at hkeep
      rw [hkeep, List.take_of_length_le i.length_header.le]
    · intro more
      rw [effects_initializationMessages, hgrown, Nat.add_sub_cancel_left]

/-- A framebuffer of 32768 by 32768 pixels, all of it updated by one Raw rectangle. -/
theorem lengths_exact_fails :
    ¬ ∀ (c : Client) (px py w h m num : UInt16) (i : ServerInit),
      LengthsExact c px py w h m num i := by
  intro hall
  have hexact := hall
    ⟨⟨32768, 32768, Block.zero 12, Block.zero 28, 2⟩, [], .endOfFile, fun _ => 0⟩
    0 0 32768 32768 0 0 ⟨32768, 32768, Block.zero 16, 0, Block.zero 0⟩
  have hraw := (hexact.raw ⟨by decide, by decide, by decide, by decide⟩).1
  exact absurd hraw (by decide)

end MirrorLink.Analysis
