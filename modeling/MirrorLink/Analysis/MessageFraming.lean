import MirrorLink.Analysis.ConfigurationProtocol
import MirrorLink.Interface.ServerMessages

/-!
# Where the other messages end

For a Bell, a Server Cut Text and an extension message the client computes the length the
server has announced, and one call of `vncSessionDoworks` consumes one message
(`doworks_message`).  For Set Colour Map Entries it reads the header one byte too long and
takes the count from there: what it consumes is one byte more than a multiple of six, what
the server has sent is a multiple of six (`doworks_colourMap`).  So a sequence of messages is
read message by message exactly when no colour map comes before the first ByeBye
(`message_framing`).
-/

set_option autoImplicit false

namespace MirrorLink.Analysis

open MirrorLink.Library MirrorLink.Program

/-! ## One message -/

/-- An extension takes its header and its payload. -/
theorem unread_doworks_extension (c : Client) (h : MessageType.ofByte c.typeByte = .extension) :
    (vncSessionDoworks.run c).state.unread = c.unread.drop (4 + c.payloadLength.toNat) := by
  have hc := readingCase c
  generalize c.reading = r at hc
  rw [run_doworks_extension c h]
  cases hc with
  | update ht => rw [h] at ht; contradiction
  | colourMap ht => rw [h] at ht; contradiction
  | cutText ht => rw [h] at ht; contradiction
  | typeOnly ht => rw [h] at ht; rcases ht with ht | ht <;> contradiction
  | byeBye _ he =>
    rw [run_exMessageParse_byeBye c he]
    rfl
  | display _ he hs =>
    rw [run_exMessageParse_display c he hs]
    rfl
  | event _ he hs =>
    rw [run_exMessageParse_event c he hs]
    rfl
  | dropped _ hb hd he =>
    rw [run_exMessageParse_inert c hb hd he]
    rfl

/-- **One call, one message**, unless it is a colour map; a ByeBye is the last one. -/
theorem doworks_message (m : ServerMessage) (c : Client) (more : List UInt8)
    (hu : c.unread = m.bytes ++ more) (hm : m.isColourMap = false) :
    (vncSessionDoworks.run c).state.unread = more ∧
      (vncSessionDoworks.run c).val = !m.isByeBye := by
  cases m with
  | setColourMapEntries padding first count colours => simp [ServerMessage.isColourMap] at hm
  | bell =>
    have ht : MessageType.ofByte c.typeByte = .bell := by
      rw [Client.typeByte, hu]
      rfl
    rw [run_doworks_typeOnly c (.inl ht)]
    refine ⟨?_, rfl⟩
    rw [Client.unread_skip, hu]
    rfl
  | serverCutText padding length text =>
    obtain ⟨bytes, hbytes⟩ := padding
    obtain ⟨p0, p1, p2, rfl⟩ := List.length_eq_three.mp hbytes
    have ht : MessageType.ofByte c.typeByte = .serverCutText := by
      rw [Client.typeByte, hu]
      rfl
    have hlength : be32 (c.byte 4) (c.byte 5) (c.byte 6) (c.byte 7) = length := by
      simp only [Client.byte, hu]
      exact be32_bytes length
    rw [run_doworks_serverCutText c ht, hlength]
    refine ⟨?_, rfl⟩
    simp only [Client.unread_skip, hu, ← List.drop_drop]
    exact List.drop_left' text.length_val
  | extension type length payload =>
    have ht : MessageType.ofByte c.typeByte = .extension := by
      rw [Client.typeByte, hu]
      rfl
    have hlength : c.payloadLength = length := by
      simp only [Client.payloadLength, Client.byte, hu]
      exact be16_bytes length
    have htype : c.byte 1 = type := by
      rw [Client.byte, hu]
      rfl
    constructor
    · rw [unread_doworks_extension c ht, hlength, hu, ← List.drop_drop]
      exact List.drop_left' payload.length_val
    · have hstop : (vncSessionDoworks.run c).val = false ↔ type = 0 := by
        rw [val_doworks, ← htype, ← ofByte_eq_byeBye_iff]
        constructor
        · intro hr
          have hc := readingCase c
          rw [hr] at hc
          cases hc with
          | byeBye _ he => exact he
        · intro he
          simp [Client.reading, ht, he]
      show _ = !(type == 0)
      by_cases h0 : type = 0
      · rw [hstop.mpr h0, h0]
        rfl
      · have hgoes : (vncSessionDoworks.run c).val = true := by
          simpa using mt hstop.mp h0
        rw [hgoes, beq_eq_false_iff_ne.mpr h0]
        rfl

/-- **A colour map** is never consumed exactly. -/
theorem doworks_colourMap (m : ServerMessage) (c : Client) (more : List UInt8)
    (hu : c.unread = m.bytes ++ more) (hm : m.isColourMap = true) (hmore : more ≠ []) :
    (vncSessionDoworks.run c).state.unread ≠ more := by
  cases m with
  | bell => simp [ServerMessage.isColourMap] at hm
  | serverCutText padding length text => simp [ServerMessage.isColourMap] at hm
  | extension type length payload => simp [ServerMessage.isColourMap] at hm
  | setColourMapEntries padding first count colours =>
    have ht : MessageType.ofByte c.typeByte = .setColourMapEntries := by
      rw [Client.typeByte, hu]
      rfl
    have hsent : c.unread.length = 6 + 6 * count.toNat + more.length := by
      rw [hu, ServerMessage.bytes]
      simp only [List.length_append, List.length_cons, length_be16Bytes, Block.length_val]
      omega
    have hpos := List.length_pos_iff.mpr hmore
    rw [run_doworks_setColourMapEntries c ht]
    intro hsame
    have htaken := congrArg List.length hsame
    simp only [Client.unread_skip, List.length_drop] at htaken
    omega

/-! ## Sequences of messages -/

/-- No message before the `i`-th is a ByeBye. -/
def NoByeByeBefore (ms : List ServerMessage) (i : ℕ) : Prop :=
  ∀ m ∈ ms.take i, m.isByeBye = false

/-- No colour map comes before the first ByeBye. -/
def NoColourMap (ms : List ServerMessage) : Prop :=
  ∀ (i : ℕ) (hi : i < ms.length), NoByeByeBefore ms i → ms[i].isColourMap = false

/-- The `i`-th call reads the `i`-th message and nothing else, until a ByeBye ends the loop. -/
structure ReadsMessages (ms : List ServerMessage) (c : Client) (rest : List UInt8) : Prop where
  reads : ∀ i ≤ ms.length, NoByeByeBefore ms i →
    (loopAfter c i).running = true ∧
      (loopAfter c i).state.unread = (ms.drop i).flatMap ServerMessage.bytes ++ rest
  stops : ∀ (i : ℕ) (hi : i < ms.length), NoByeByeBefore ms i → ms[i].isByeBye = true →
    (loopAfter c (i + 1)).running = false ∧
      (loopAfter c (i + 1)).state.unread = (ms.drop (i + 1)).flatMap ServerMessage.bytes ++ rest

/-- One more message that does not end the session. -/
theorem noByeByeBefore_succ (ms : List ServerMessage) (i : ℕ) (hi : i < ms.length) :
    NoByeByeBefore ms (i + 1) ↔ NoByeByeBefore ms i ∧ ms[i].isByeBye = false := by
  unfold NoByeByeBefore
  rw [List.take_succ_eq_append_getElem hi, List.forall_mem_append, List.forall_mem_singleton]

/-- The bytes that are left begin with the next message. -/
theorem flatMap_bytes_drop (ms : List ServerMessage) (i : ℕ) (hi : i < ms.length)
    (rest : List UInt8) :
    (ms.drop i).flatMap ServerMessage.bytes ++ rest =
      ms[i].bytes ++ ((ms.drop (i + 1)).flatMap ServerMessage.bytes ++ rest) := by
  rw [List.drop_eq_getElem_cons hi, List.flatMap_cons, List.append_assoc]

/-- Without a colour map the loop follows the messages. -/
theorem readsMessages (ms : List ServerMessage) (h : NoColourMap ms) (c : Client)
    (rest : List UInt8) (hu : c.unread = ms.flatMap ServerMessage.bytes ++ rest) :
    ReadsMessages ms c rest := by
  have hreads : ∀ i ≤ ms.length, NoByeByeBefore ms i →
      (loopAfter c i).running = true ∧
        (loopAfter c i).state.unread = (ms.drop i).flatMap ServerMessage.bytes ++ rest := by
    intro i
    induction i with
    | zero => exact fun _ _ => ⟨rfl, by simpa using hu⟩
    | succ i ih =>
      intro hi hbefore
      obtain ⟨hbefore', hnot⟩ := (noByeByeBefore_succ ms i hi).mp hbefore
      obtain ⟨hrunning, hunread⟩ := ih (by omega) hbefore'
      rw [flatMap_bytes_drop ms i hi] at hunread
      obtain ⟨hrest, hval⟩ := doworks_message ms[i] _ _ hunread (h i hi hbefore')
      rw [loopAfter_succ _ _ hrunning]
      exact ⟨by rw [hval, hnot]; rfl, hrest⟩
  refine ⟨hreads, ?_⟩
  intro i hi hbefore hbye
  obtain ⟨hrunning, hunread⟩ := hreads i (by omega) hbefore
  rw [flatMap_bytes_drop ms i hi] at hunread
  obtain ⟨hrest, hval⟩ := doworks_message ms[i] _ _ hunread (h i hi hbefore)
  rw [loopAfter_succ _ _ hrunning]
  exact ⟨by rw [hval, hbye]; rfl, hrest⟩

/-- **Framing of the other messages.**  Whatever comes after them, the messages are read one
call each until the first ByeBye if no colour map comes before it, and only then. -/
theorem message_framing (ms : List ServerMessage) :
    (∀ (c : Client) (rest : List UInt8), c.unread = ms.flatMap ServerMessage.bytes ++ rest →
      ReadsMessages ms c rest) ↔ NoColourMap ms := by
  constructor
  · intro h i hi hbefore
    by_contra hcolour
    rw [Bool.not_eq_false] at hcolour
    let c : Client :=
      { session := ⟨0, 0, Block.zero 12, Block.zero 28, 0⟩
        unread := ms.flatMap ServerMessage.bytes ++ [0]
        failure := .endOfFile
        residue := fun _ => 0 }
    have hreads := h c [0] rfl
    obtain ⟨hrunning, hunread⟩ := hreads.reads i (by omega) hbefore
    have hnot : ms[i].isByeBye = false := by
      cases hm : ms[i] <;> simp [hm, ServerMessage.isColourMap] at hcolour ⊢
      rfl
    obtain ⟨-, hunread'⟩ :=
      hreads.reads (i + 1) (by omega) ((noByeByeBefore_succ ms i hi).mpr ⟨hbefore, hnot⟩)
    rw [flatMap_bytes_drop ms i hi] at hunread
    rw [loopAfter_succ _ _ hrunning] at hunread'
    exact doworks_colourMap ms[i] _ _ hunread hcolour (by simp) hunread'
  · intro h c rest hu
    exact readsMessages ms h c rest hu

/-- A colour map of one colour takes the Bell behind it with it. -/
theorem message_framing_fails :
    ∃ (ms : List ServerMessage) (c : Client), c.unread = ms.flatMap ServerMessage.bytes ∧
      ms.length = 2 ∧ (loopAfter c 1).running = true ∧ (loopAfter c 1).state.unread = [] := by
  let ms : List ServerMessage :=
    [.setColourMapEntries 0 0 1 ⟨[0, 0, 0, 0, 0, 0], rfl⟩, .bell]
  let s : VncSession := ⟨800, 480, Block.zero 12, Block.zero 28, 2⟩
  exact ⟨ms, ⟨s, ms.flatMap ServerMessage.bytes, .endOfFile, fun _ => 0⟩, rfl, rfl,
    by decide +kernel, by decide +kernel⟩

end MirrorLink.Analysis
