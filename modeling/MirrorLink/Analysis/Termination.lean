import MirrorLink.Analysis.Cut
import MirrorLink.Analysis.Handshake
import MirrorLink.Analysis.MessageFraming

/-!
# When the task comes to an end

The message loop has one exit, an extension message of type 0; a read that fails is not
one.  So a stream that has ended ends the task only if some call finds a ByeBye at the
start of what is left, or the byte 128 as the last one, which it takes for a ByeBye
(`task_returns_iff`); on any other stream the loop goes on for ever.  For a stream of whole
messages this says that one of them is a ByeBye (`returns_messages_iff`).
-/

set_option autoImplicit false

namespace MirrorLink.Analysis

open MirrorLink.Library MirrorLink.Program

/-- What is left begins with the type of a ByeBye, or with as much of it as there is. -/
def StartsByeBye (u : List UInt8) : Prop := u = [128] ∨ ∃ more, u = 128 :: 0 :: more

/-- A call reads `ByeBye` exactly if the stream begins with it. -/
theorem reading_eq_byeBye_iff (c : Client) : c.reading = .byeBye ↔ StartsByeBye c.unread := by
  constructor
  · intro h
    have hc := readingCase c
    rw [h] at hc
    cases hc with
    | byeBye ht he =>
      rw [ofByte_eq_extension_iff, Client.typeByte] at ht
      rw [ofByte_eq_byeBye_iff, Client.byte] at he
      unfold StartsByeBye
      rcases hu : c.unread with _ | ⟨b, _ | ⟨e, more⟩⟩
      · simp [hu] at ht
      · left
        simpa [hu] using ht
      · simp only [hu, List.getD_cons_zero, List.getD_cons_succ] at ht he
        exact .inr ⟨more, by rw [ht, he]⟩
  · rintro (h | ⟨more, h⟩) <;>
      simp [Client.reading, Client.typeByte, Client.byte, h, MessageType.ofByte,
        ExtensionType.ofByte]

/-- The loop returns exactly if some call finds `ByeBye`. -/
theorem returns_iff (c : Client) :
    Returns vncSessionDoworks c ↔
      ∃ n, (loopAfter c n).running = true ∧ StartsByeBye (loopAfter c n).state.unread := by
  rw [returns_iff_exists]
  simp only [val_doworks, reading_eq_byeBye_iff]

/-- A loop with nothing more to read never returns. -/
theorem not_returns_of_unread_nil (c : Client) (n : ℕ) (hr : (loopAfter c n).running = true)
    (hu : (loopAfter c n).state.unread = []) : ¬ Returns vncSessionDoworks c := by
  rintro ⟨k, hk⟩
  obtain ⟨hrunning, -⟩ := loopAfter_of_unread_nil c n hr hu k
  have hstopped := rounds_of_stopped vncSessionDoworks c k n hk
  rw [Nat.add_comm n k, loopAfter, hstopped, hk] at hrunning
  contradiction

/-- Of several `ByeBye` one is the first. -/
theorem exists_first_byeBye (ms : List ServerMessage) (h : ∃ m ∈ ms, m.isByeBye = true) :
    ∃ (i : ℕ) (hi : i < ms.length), ms[i].isByeBye = true ∧ NoByeByeBefore ms i := by
  have hex : ∃ i, ∃ hi : i < ms.length, ms[i].isByeBye = true := by
    obtain ⟨m, hm, hbye⟩ := h
    obtain ⟨i, hi, rfl⟩ := List.getElem_of_mem hm
    exact ⟨i, hi, hbye⟩
  classical
  obtain ⟨hi, hbye⟩ := Nat.find_spec hex
  refine ⟨Nat.find hex, hi, hbye, ?_⟩
  intro m hm
  obtain ⟨j, hj, rfl⟩ := List.getElem_of_mem hm
  rw [List.length_take] at hj
  rw [List.getElem_take]
  by_contra hnot
  exact Nat.find_min hex (show j < Nat.find hex by omega) ⟨by omega, by simpa using hnot⟩

/-- **A stream of whole messages**, without colour maps, ends the loop exactly when one of
them is a ByeBye. -/
theorem returns_messages_iff (ms : List ServerMessage) (h : NoColourMap ms) (c : Client)
    (hu : c.unread = ms.flatMap ServerMessage.bytes) :
    Returns vncSessionDoworks c ↔ ∃ m ∈ ms, m.isByeBye = true := by
  have hreads := readsMessages ms h c [] (by rw [hu, List.append_nil])
  constructor
  · intro hreturns
    by_contra hnone
    push Not at hnone
    have hbefore : NoByeByeBefore ms ms.length := by
      intro m hm
      simpa using hnone m (List.mem_of_mem_take hm)
    obtain ⟨hrunning, hunread⟩ := hreads.reads ms.length le_rfl hbefore
    rw [List.drop_length, List.flatMap_nil, List.append_nil] at hunread
    exact not_returns_of_unread_nil c ms.length hrunning hunread hreturns
  · intro hbye
    obtain ⟨i, hi, hbye', hfirst⟩ := exists_first_byeBye ms hbye
    exact ⟨i + 1, (hreads.stops i hi hfirst hbye').1⟩

/-- **When the task returns.**  A stream that completes the handshake and ends some time
after it ends the task exactly when the loop comes to a point where what is left begins with
the bytes 128 and 0, or is the byte 128 alone. -/
theorem task_returns_iff (m : ServerHandshake) (tail : List UInt8) (c : Client)
    (hu : c.unread = m.bytes ++ tail) :
    TaskReturns c ↔
      ∃ n, (loopAfter (vncHandshake.run c).state n).running = true ∧
        StartsByeBye (loopAfter (vncHandshake.run c).state n).state.unread := by
  have hval := (handshake_accepts m c tail hu).1
  unfold TaskReturns
  rw [hval, returns_iff]
  simp

section Examples

/-- A version 3.7 handshake without a desktop name. -/
def plainHandshake : ServerHandshake where
  version := .v37
  types := [1]
  types_lt := by decide
  offers_none := by decide
  init := ⟨800, 480, Block.zero 16, 0, Block.zero 0⟩

/-- A client whose peer sends that handshake and `tail` and goes away. -/
def clientOf (tail : List UInt8) : Client where
  session := ⟨0, 0, Block.zero 12, Block.zero 28, 0⟩
  unread := plainHandshake.bytes ++ tail
  failure := .endOfFile
  residue := fun _ => 0

/-- A Bell and a ByeBye end the task. -/
theorem task_returns_on_byeBye : TaskReturns (clientOf [2, 128, 0, 0, 0]) :=
  (task_returns_iff plainHandshake [2, 128, 0, 0, 0] (clientOf [2, 128, 0, 0, 0]) rfl).mpr
    ⟨1, by decide +kernel, .inr ⟨[0, 0], by decide +kernel⟩⟩

/-- A peer that goes away after the handshake leaves the task running. -/
theorem task_returns_fails : ¬ TaskReturns (clientOf []) := by
  obtain ⟨hval, hunread, -⟩ :=
    handshake_accepts plainHandshake (clientOf []) [] rfl
  rintro (h | h)
  · rw [hval] at h
    contradiction
  · exact not_returns_of_unread_nil _ 0 rfl hunread h

end Examples

end MirrorLink.Analysis
