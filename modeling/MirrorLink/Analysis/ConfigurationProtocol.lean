import MirrorLink.Analysis.Doworks
import MirrorLink.Interface.Protocol

/-!
# The configuration protocol of a session

Every call of `vncSessionDoworks` whose configuration payloads fit their members is a
`ProtocolStep` (`doworks_protocolStep`), so that everything the loop writes has the shape
of a `ProtocolRun`.  From it the order of the configuration messages follows for every
stream the server may send; a message that stops the loop is a ByeBye (`doworks_stops_iff`).
-/

set_option autoImplicit false

namespace MirrorLink.Analysis

open MirrorLink.Library MirrorLink.Program

/-- The message loop after at most `n` calls. -/
abbrev loopAfter (c : Client) (n : ℕ) : Progress Client Effect := rounds vncSessionDoworks c n

/-- One more call of `vnc_session_doworks` in a loop that runs. -/
theorem loopAfter_succ (c : Client) (n : ℕ) (h : (loopAfter c n).running = true) :
    loopAfter c (n + 1) =
      ⟨(vncSessionDoworks.run (loopAfter c n).state).state,
        (loopAfter c n).effects ++ (vncSessionDoworks.run (loopAfter c n).state).effects,
        (vncSessionDoworks.run (loopAfter c n).state).val⟩ :=
  rounds_succ vncSessionDoworks c n h

/-- A loop that has ended makes no more calls. -/
theorem loopAfter_succ_of_stopped (c : Client) (n : ℕ) (h : (loopAfter c n).running = false) :
    loopAfter c (n + 1) = loopAfter c n :=
  rounds_succ_of_stopped vncSessionDoworks c n h

/-- What the call after `i` others writes. -/
def callWrites (c : Client) (i : ℕ) : List (List UInt8) :=
  writes (vncSessionDoworks.run (loopAfter c i).state).effects

/-- If the next message is a Server Display Configuration its payload is at most
`sizeof(sdinfo)` bytes, if it is a Server Event Configuration at most `sizeof(seinfo)`. -/
def PayloadsFit (c : Client) : Prop :=
  c.typeByte = 128 → (c.byte 1 = 1 → c.payloadLength.toNat ≤ 12) ∧
    (c.byte 1 = 3 → c.payloadLength.toNat ≤ 28)

instance (c : Client) : Decidable (PayloadsFit c) := by
  unfold PayloadsFit
  infer_instance

/-- The stream goes on with a whole ByeBye. -/
def NextIsByeBye (u : List UInt8) : Prop :=
  ∃ hi lo payload rest, u = 128 :: 0 :: hi :: lo :: (payload ++ rest) ∧
    payload.length = (be16 hi lo).toNat

/-! ## One call is one step -/

/-- The type of an extension is 128. -/
theorem ofByte_eq_extension_iff (b : UInt8) :
    MessageType.ofByte b = .extension ↔ b = 128 := by
  unfold MessageType.ofByte
  split_ifs with h0 h1 h2 h3 h4 <;> simp_all

/-- The extension that ends the session is 0. -/
theorem ofByte_eq_byeBye_iff (b : UInt8) : ExtensionType.ofByte b = .byeBye ↔ b = 0 := by
  unfold ExtensionType.ofByte
  split_ifs <;> simp_all

/-- The display configuration is 1. -/
theorem ofByte_eq_display_iff (b : UInt8) :
    ExtensionType.ofByte b = .serverDisplayConfiguration ↔ b = 1 := by
  unfold ExtensionType.ofByte
  split_ifs <;> simp_all

/-- The event configuration is 3. -/
theorem ofByte_eq_event_iff (b : UInt8) :
    ExtensionType.ofByte b = .serverEventConfiguration ↔ b = 3 := by
  unfold ExtensionType.ofByte
  split_ifs <;> simp_all

/-- Twelve bytes do not reach the status behind `sdinfo`. -/
theorem status_copySdinfo (s : VncSession) (buf : List UInt8) (h : buf.length ≤ 12) :
    (s.copySdinfo buf).status = s.status := by
  simp [VncSession.copySdinfo, List.drop_of_length_le (show buf.length ≤ 40 by omega)]

/-- **Refinement.**  One call whose payload fits is one step of the protocol. -/
theorem doworks_protocolStep (c : Client) (hfit : PayloadsFit c) :
    ProtocolStep c.session (writes (vncSessionDoworks.run c).effects)
      (vncSessionDoworks.run c).state.session := by
  cases hr : c.reading with
  | update =>
    obtain ⟨-, hyes, hno⟩ := doworks_update c hr
    cases hn : c.namesHandled with
    | true =>
      obtain ⟨inc, w, h, hw, hs⟩ := hyes hn
      rw [hw, hs]
      exact .answer c.session inc w h
    | false =>
      obtain ⟨hw, hs⟩ := hno hn
      rw [hw, hs]
      exact .drop c.session
  | byeBye =>
    obtain ⟨-, hw, hs⟩ := doworks_byeBye c hr
    rw [hw, hs]
    exact .byeBye c.session
  | display =>
    obtain ⟨h0, -, hw, hs⟩ := doworks_display c hr
    have hc := readingCase c
    rw [hr] at hc
    cases hc with
    | display ht he _ =>
      have hlen : c.payload.length ≤ 12 := by
        rw [Client.length_payload]
        exact (hfit ((ofByte_eq_extension_iff _).mp ht)).1 ((ofByte_eq_display_iff _).mp he)
      rw [hw, hs]
      exact .display c.session _ h0 (status_copySdinfo _ _ hlen)
  | event =>
    obtain ⟨h1, -, hw, hs⟩ := doworks_event c hr
    rw [hw, hs]
    exact .event c.session _ h1 rfl rfl rfl
  | inert =>
    obtain ⟨-, hw, hs⟩ := doworks_inert c hr
    rw [hw, hs]
    exact .drop c.session

/-- **Every run of the loop is a run of the protocol.** -/
theorem loop_protocolRun (c : Client) (n : ℕ)
    (hfit : ∀ i < n, (loopAfter c i).running = true → PayloadsFit (loopAfter c i).state) :
    ProtocolRun c.session (writes (loopAfter c n).effects) (loopAfter c n).state.session := by
  apply rounds_invariant vncSessionDoworks
    (fun s es => ProtocolRun c.session (writes es) s.session) c n .start
  intro i hi hr hrun
  rw [writes_append]
  exact hrun.step (doworks_protocolStep _ (hfit i hi hr))

/-- **What stops the loop**, when the reads of the call complete, is a whole ByeBye. -/
theorem doworks_stops_iff (c : Client) (h : Complete (vncSessionDoworks.run c).effects) :
    (vncSessionDoworks.run c).val = false ↔ NextIsByeBye c.unread := by
  rw [val_doworks]
  constructor
  · intro hr
    have hc := readingCase c
    rw [hr] at hc
    cases hc with
    | byeBye ht he =>
      rw [run_doworks_extension c ht, run_exMessageParse_byeBye c he] at h
      simp only [headerEffects, payloadEffect, List.cons_append, List.nil_append, complete_read,
        Client.readCode_eq_zero_iff, Client.unread_skip, List.length_drop] at h
      rw [ofByte_eq_extension_iff, Client.typeByte] at ht
      rw [ofByte_eq_byeBye_iff, Client.byte] at he
      obtain ⟨h1, h3, hlen, -⟩ := h
      rcases hu : c.unread with _ | ⟨t, _ | ⟨e, _ | ⟨hi, _ | ⟨lo, u⟩⟩⟩⟩
      -- the header takes four bytes
      iterate 4
        simp only [hu, List.length_cons, List.length_nil] at h1 h3
        omega
      simp only [hu, List.getD_cons_zero, List.getD_cons_succ] at ht he
      have hl : c.payloadLength = be16 hi lo := by
        simp [Client.payloadLength, Client.byte, hu]
      rw [hl, hu] at hlen
      simp only [List.length_cons] at hlen
      refine ⟨hi, lo, u.take (be16 hi lo).toNat, u.drop (be16 hi lo).toNat, ?_, ?_⟩
      · rw [List.take_append_drop, ht, he]
      · rw [List.length_take]
        omega
  · rintro ⟨hi, lo, payload, rest, hu, -⟩
    simp [Client.reading, Client.typeByte, Client.byte, hu, MessageType.ofByte,
      ExtensionType.ofByte]

/-! ## Every run -/

/-- What the configuration protocol promises about the first `n` calls of the loop. -/
structure ConfigurationProtocol (c : Client) (n : ℕ) : Prop where
  /-- The status only ever moves 0 → 1 → 2. -/
  status_move : ∀ i < n,
    let s := (loopAfter c i).state.session.status
    let s' := (loopAfter c (i + 1)).state.session.status
    s' = s ∨ (s = 0 ∧ s' = 1) ∨ (s = 1 ∧ s' = 2)
  /-- The Client Display Configuration is written at most once. -/
  display_once : (writes (loopAfter c n).effects).countP isDisplayConfiguration ≤ 1
  /-- The Client Event Configuration is written at most once. -/
  event_once : (writes (loopAfter c n).effects).countP isEventConfiguration ≤ 1
  /-- It is written only after the Client Display Configuration. -/
  event_after_display : ∀ pre e post, writes (loopAfter c n).effects = pre ++ e :: post →
    isEventConfiguration e = true → ∃ d ∈ pre, isDisplayConfiguration d = true
  /-- It is followed at once by one pixel format and one non-incremental request for the
  current size. -/
  event_followed : ∀ i < n, (loopAfter c i).running = true →
    (∃ m ∈ callWrites c i, isEventConfiguration m = true) →
    let s := (loopAfter c i).state.session
    let s' := (loopAfter c (i + 1)).state.session
    callWrites c i = [clientEventConfiguration, setPixelFormat,
        framebufferUpdateRequest 0 s.rfbWidth s.rfbHeight] ∧
      s'.rfbWidth = s.rfbWidth ∧ s'.rfbHeight = s.rfbHeight
  /-- The pixel format is written nowhere else. -/
  format_only_with_event : ∀ i < n, (loopAfter c i).running = true →
    (∃ m ∈ callWrites c i, isSetPixelFormat m = true) →
    ∃ m ∈ callWrites c i, isEventConfiguration m = true
  /-- The loop stops exactly at a ByeBye, which it answers with a ByeBye and nothing else. -/
  stops_at_byeBye : ∀ i < n, (loopAfter c i).running = true →
    ((loopAfter c (i + 1)).running = false ↔ NextIsByeBye (loopAfter c i).state.unread) ∧
    ((loopAfter c (i + 1)).running = false → callWrites c i = [byeByeMessage])

/-- **The configuration protocol.**  Whatever the server sends, as long as the reads
complete and the configuration payloads fit, a loop that starts in status 0 keeps to the
protocol. -/
theorem configuration_protocol (c : Client) (hstatus : c.session.status = 0) (n : ℕ)
    (hread : Complete (loopAfter c n).effects)
    (hfit : ∀ i < n, (loopAfter c i).running = true → PayloadsFit (loopAfter c i).state) :
    ConfigurationProtocol c n := by
  have hshape := protocolRun_shape hstatus (loop_protocolRun c n hfit)
  obtain ⟨honce, honce'⟩ := hshape.countP_le
  have hcall : ∀ i < n, (loopAfter c i).running = true →
      Complete (vncSessionDoworks.run (loopAfter c i).state).effects :=
    fun i hi hr e he => hread e (mem_effects_of_call _ _ hi hr he)
  have hsucc : ∀ i, (loopAfter c i).running = true →
      (loopAfter c (i + 1)).state = (vncSessionDoworks.run (loopAfter c i).state).state ∧
        (loopAfter c (i + 1)).running = (vncSessionDoworks.run (loopAfter c i).state).val := by
    intro i hr
    rw [loopAfter_succ _ _ hr]
    exact ⟨rfl, rfl⟩
  refine ⟨?_, honce, honce', fun pre e post hws he => hshape.event_after_display hws he,
    ?_, ?_, ?_⟩
  · intro i hi
    cases hr : (loopAfter c i).running with
    | false =>
      left
      rw [loopAfter_succ_of_stopped _ _ hr]
    | true =>
      rw [(hsucc i hr).1]
      exact (doworks_protocolStep _ (hfit i hi hr)).status_move
  · intro i hi hr he
    rw [(hsucc i hr).1]
    exact (doworks_protocolStep _ (hfit i hi hr)).event_followed he
  · intro i hi hr hf
    exact (doworks_protocolStep _ (hfit i hi hr)).format_only_with_event hf
  · intro i hi hr
    rw [(hsucc i hr).2]
    refine ⟨doworks_stops_iff _ (hcall i hi hr), fun hstop => ?_⟩
    exact (doworks_byeBye _ ((val_doworks _).mp hstop)).2.1

/-- A display and an event configuration, a Bell, an update of no rectangles and a ByeBye. -/
theorem configuration_protocol_on_handshake :
    ConfigurationProtocol
      { session := { rfbWidth := 800, rfbHeight := 480, sdinfo := Block.zero 12,
                     seinfo := Block.zero 28, status := 0 }
        unread := [128, 1, 0, 2, 7, 7, 2, 128, 3, 0, 1, 9, 0, 0, 0, 0, 128, 0, 0, 0]
        failure := .endOfFile
        residue := fun _ => 0 } 5 :=
  configuration_protocol _ rfl 5 (by decide +kernel) (by decide +kernel)

end MirrorLink.Analysis
