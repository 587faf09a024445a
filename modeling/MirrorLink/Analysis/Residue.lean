import MirrorLink.Analysis.Locations
import MirrorLink.Program.Upnp

/-!
# What is left in the receive buffer

`read` ends nothing: behind a datagram the array `buffer` holds what it held before, and
after a failed `read` it holds nothing else.  The text that is handed on ends at the first
zero byte, so that a datagram speaks for itself exactly if it contains one
(`residue_free_iff`).
-/

set_option autoImplicit false

namespace MirrorLink.Analysis

open MirrorLink.Library MirrorLink.Program Effectful

/-- The array that is handed to `handle_ssdp_resp`. -/
def handedOn (buffer : Block 1025) : Receipt → Option (List UInt8)
  | .data datagram => some (overlay datagram.bytes buffer.val)
  | .empty => none
  | .failed => some buffer.val

/-- The context after a ready client has been handled.  Nothing if the array has no zero
byte: `strtok` then runs over its end. -/
def contextAfter (p : Pass) (fd : ℤ) (buffer : Block 1025) (receipt : Receipt) (t : Thread) :
    Option Context :=
  if ∀ memory ∈ handedOn buffer receipt, 0 ∈ memory then
    some ((handleReady { p with stack := fun _ => buffer } fd receipt).run t).state.context
  else none

/-- What is received decides alone: the addresses after a datagram do not depend on the array
before the `read`, and a failed `read` changes nothing. -/
def ResidueFree : Receipt → Prop
  | .data datagram => ∀ p fd buffer buffer' t s,
      (contextAfter p fd buffer (.data datagram) t).map (Service.location · s) =
        (contextAfter p fd buffer' (.data datagram) t).map (Service.location · s)
  | .empty => True
  | .failed => ∀ p fd buffer t, contextAfter p fd buffer .failed t = some t.context

/-- What is received ends itself. -/
def EndsItself : Receipt → Prop
  | .data datagram => 0 ∈ datagram.bytes
  | .empty => True
  | .failed => False

/-! ## Datagrams that end themselves -/

/-- A datagram is read out of the buffer it is received into. -/
theorem context_handleReady_data (p : Pass) (fd : ℤ) (datagram : ReadData) (t : Thread) :
    ((handleReady p fd (.data datagram)).run t).state.context =
      handleSsdpResp t.context (cstring (overlay datagram.bytes (p.stack fd).val)) := rfl

/-- A datagram with a zero in it is read by itself. -/
theorem contextAfter_of_ended (p : Pass) (fd : ℤ) (buffer : Block 1025) (datagram : ReadData)
    (t : Thread) (h : 0 ∈ datagram.bytes) :
    contextAfter p fd buffer (.data datagram) t =
      some (handleSsdpResp t.context (cstring datagram.bytes)) := by
  have hinside : ∀ memory ∈ handedOn buffer (.data datagram), 0 ∈ memory := by
    intro memory hmemory
    rw [handedOn, Option.mem_some_iff] at hmemory
    rw [← hmemory]
    exact List.mem_append_left _ h
  rw [contextAfter, if_pos hinside, context_handleReady_data]
  show some (handleSsdpResp _ (cstring (datagram.bytes ++ _))) = _
  rw [cstring_append_of_mem h]

/-! ## Datagrams that do not -/

/-- An array without a zero byte. -/
def fullBlock : Block 1025 := ⟨List.replicate 1025 1, List.length_replicate⟩

/-- In a buffer without a zero no datagram ends. -/
theorem contextAfter_fullBlock (p : Pass) (fd : ℤ) (datagram : ReadData) (t : Thread)
    (h : 0 ∉ datagram.bytes) : contextAfter p fd fullBlock (.data datagram) t = none := by
  unfold contextAfter
  rw [if_neg]
  intro hinside
  have hmem := hinside _ rfl
  rw [overlay, List.mem_append] at hmem
  rcases hmem with hmem | hmem
  · exact h hmem
  · have hone := List.eq_of_mem_replicate (List.mem_of_mem_drop hmem)
    exact absurd hone (by decide)

/-- In a buffer of zeros every datagram does. -/
theorem contextAfter_zero (p : Pass) (fd : ℤ) (datagram : ReadData) (t : Thread) :
    (contextAfter p fd (Block.zero 1025) (.data datagram) t).isSome = true := by
  have hinside : ∀ memory ∈ handedOn (Block.zero 1025) (.data datagram), 0 ∈ memory := by
    intro memory hmemory
    rw [handedOn, Option.mem_some_iff] at hmemory
    rw [← hmemory]
    apply List.mem_append_right
    have hpos : 1025 - datagram.bytes.length ≠ 0 := by
      have := datagram.length_le
      omega
    show 0 ∈ (List.replicate 1025 0).drop _
    rw [List.drop_replicate]
    exact List.mem_replicate.mpr ⟨hpos, rfl⟩
  rw [contextAfter, if_pos hinside]
  rfl

/-- The array after `text` had been there behind `n` bytes, and a zero byte behind it. -/
def staleBlock (n : ℕ) (text : List UInt8) : Block 1025 :=
  (Block.zero 1025).store (List.replicate n 0 ++ text)

/-- A datagram that is shorter than what was there leaves the rest of it. -/
theorem overlay_staleBlock (bytes text : List UInt8)
    (hfit : bytes.length + text.length < 1025) :
    overlay bytes (staleBlock bytes.length text).val =
      bytes ++ (text ++ List.replicate (1025 - (bytes.length + text.length)) 0) := by
  have hlen : (List.replicate bytes.length (0 : UInt8) ++ text).length =
      bytes.length + text.length := by
    rw [List.length_append, List.length_replicate]
  rw [staleBlock, Block.val_store, Block.val_zero, List.take_of_length_le (by omega)]
  unfold overlay
  rw [hlen, List.drop_replicate, List.append_assoc, List.drop_left' List.length_replicate]

/-- **The residue.**  A line left behind a datagram is read with it. -/
theorem contextAfter_staleBlock (p : Pass) (fd : ℤ) (datagram : ReadData) (t : Thread)
    (text : List UInt8) (h : 0 ∉ datagram.bytes) (htext : 0 ∉ text)
    (hfit : datagram.bytes.length + text.length < 1025) :
    contextAfter p fd (staleBlock datagram.bytes.length text) (.data datagram) t =
      some (handleSsdpResp t.context (datagram.bytes ++ text)) := by
  have hinside : ∀ memory ∈ handedOn (staleBlock datagram.bytes.length text) (.data datagram),
      0 ∈ memory := by
    intro memory hmemory
    rw [handedOn, Option.mem_some_iff, overlay_staleBlock _ _ hfit] at hmemory
    rw [← hmemory]
    apply List.mem_append_right
    apply List.mem_append_right
    exact List.mem_replicate.mpr ⟨by omega, rfl⟩
  rw [contextAfter, if_pos hinside, context_handleReady_data, overlay_staleBlock _ _ hfit,
    cstring_append h, cstring_append_zeros _ _ htext]

/-- Whatever a datagram without a zero byte says, an earlier answer that is left behind it
decides which address is stored. -/
theorem residue_decides (datagram : ReadData) (text : List UInt8) (s : Service)
    (h : 0 ∉ datagram.bytes) (htext : 0 ∉ text)
    (hfit : datagram.bytes.length + text.length < 1024)
    (hst : lastWord [] (stWords text) = s.urn)
    (hlocation : lastWord [] (locationWords text) ≠ []) :
    ∃ buffer, ∀ p fd t, (contextAfter p fd buffer (.data datagram) t).map
      (Service.location · s) = some (lastWord [] (locationWords text)) := by
  have hurn : s.urn ≠ [] := by cases s <;> decide
  refine ⟨staleBlock datagram.bytes.length (10 :: text), ?_⟩
  intro p fd t
  rw [contextAfter_staleBlock p fd datagram t _ h]
  · have hst' : lastWord [] (stWords (datagram.bytes ++ 10 :: text)) = s.urn := by
      rw [stWords_append, lastWord_append, lastWord_eq _ _ (by rw [hst]; exact hurn), hst]
    rw [Option.map_some, location_handleSsdpResp, if_pos hst', locationWords_append,
      lastWord_append, lastWord_eq _ _ hlocation]
  · rw [List.mem_cons, not_or]
    exact ⟨by decide, htext⟩
  · rw [List.length_cons]
    omega

/-! ## The exact condition -/

/-- An answer for the device at the address `a`. -/
def deviceAnswer : List UInt8 :=
  ascii "ST: urn:schemas-upnp-org:device:TmServerDevice:1\nLocation: a"

/-- A pass in which nothing else happens. -/
def idlePass : Pass := ⟨[], fun _ => none, fun _ => Block.zero 1025, .failed, true⟩

/-- A read that fails leaves all of it. -/
theorem not_residueFree_failed : ¬ ResidueFree .failed := by
  intro h
  have hafter := h idlePass 3 (staleBlock 0 deviceAnswer) ⟨Context.zero, 0⟩
  have hlocation := congrArg (Option.map Context.tmServerDevice) hafter
  exact absurd hlocation (by decide +kernel)

/-- **What is received decides alone** exactly if it ends itself. -/
theorem residue_free_iff (receipt : Receipt) : ResidueFree receipt ↔ EndsItself receipt := by
  cases receipt with
  | data datagram =>
    constructor
    · intro hfree
      by_contra h
      have hsame := hfree idlePass 3 fullBlock (Block.zero 1025) ⟨Context.zero, 0⟩ .serverDevice
      rw [contextAfter_fullBlock _ _ _ _ h] at hsame
      have hsome := contextAfter_zero idlePass 3 datagram ⟨Context.zero, 0⟩
      rw [← Option.isSome_map, ← hsame] at hsome
      cases hsome
    · intro h p fd buffer buffer' t s
      rw [contextAfter_of_ended _ _ _ _ _ h, contextAfter_of_ended _ _ _ _ _ h]
  | empty => exact Iff.rfl
  | failed => exact iff_of_false not_residueFree_failed id

/-- The beginning of an answer, as it is sent. -/
def statusLine : ReadData :=
  ⟨ascii "HTTP/1.1 200 OK\r\n\r\n", by decide, by decide⟩

/-- With an earlier answer behind it a datagram has an address, with an empty array it has
none. -/
theorem residue_free_fails : ¬ ∀ receipt : Receipt, ResidueFree receipt := by
  intro h
  have hfree := h (.data statusLine)
  have hstatus : 0 ∉ statusLine.bytes := by decide
  have hsame := hfree idlePass 3 (staleBlock statusLine.bytes.length deviceAnswer)
    (staleBlock statusLine.bytes.length []) ⟨Context.zero, 0⟩ .serverDevice
  rw [contextAfter_staleBlock _ _ _ _ _ hstatus (by decide +kernel) (by decide +kernel),
    contextAfter_staleBlock _ _ _ _ _ hstatus List.not_mem_nil (by decide +kernel)] at hsame
  exact absurd hsame (by decide +kernel)

end MirrorLink.Analysis
