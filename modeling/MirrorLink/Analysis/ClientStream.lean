import MirrorLink.Analysis.Doworks
import MirrorLink.Analysis.Handshake
import MirrorLink.Analysis.TaskRefinement
import MirrorLink.Interface.ClientMessages

/-!
# A server can read what the client writes

Each call of the message loop writes one `ClientAnswer` (`doworks_answer`), so that a run of it is
a `Conversation`; the phases of the handshake write the parts before it.  Together they are what
the server's reader accepts (`client_stream`), whatever the server has sent: the lengths in what
the client writes do not depend on what it reads.
-/

set_option autoImplicit false

namespace MirrorLink.Analysis

open MirrorLink.Library MirrorLink.Program Effectful

/-! ## The message loop -/

/-- The messages a run of the loop writes are those of a list. -/
def Says (es : List Effect) (ms : List ClientMessage) : Prop :=
  writes es = ms.map ClientMessage.bytes

/-- What is said in turn is said one after the other. -/
theorem Says.append {es fs : List Effect} {ms ns : List ClientMessage} (h : Says es ms)
    (h' : Says fs ns) : Says (es ++ fs) (ms ++ ns) := by
  unfold Says at h h' ⊢
  rw [writes_append, h, h', List.map_append]

/-- The bytes written are those of the messages. -/
theorem Says.flatten {es : List Effect} {ms : List ClientMessage} (h : Says es ms) :
    (writes es).flatten = ms.flatMap ClientMessage.bytes := by
  rw [show writes es = ms.map ClientMessage.bytes from h, List.flatMap_def]

/-- **One call.**  What it writes is an answer, the last one if the loop is left. -/
theorem doworks_answer (c : Client) :
    ∃ out, ClientAnswer (vncSessionDoworks.run c).val out ∧
      Says (vncSessionDoworks.run c).effects out := by
  cases hreading : c.reading with
  | update =>
    obtain ⟨hval, hyes, hno⟩ := doworks_update c hreading
    rw [hval]
    cases hnamed : c.namesHandled with
    | true =>
      obtain ⟨inc, w, h, hwrites, -⟩ := hyes hnamed
      exact ⟨_, .request inc w h, hwrites⟩
    | false => exact ⟨_, .silence, (hno hnamed).1⟩
  | byeBye =>
    obtain ⟨hval, hwrites, -⟩ := doworks_byeBye c hreading
    rw [hval]
    refine ⟨_, .byeBye, ?_⟩
    rw [Says, hwrites, List.map_singleton, ClientMessage.bytes_byeBye]
  | display =>
    obtain ⟨-, hval, hwrites, -⟩ := doworks_display c hreading
    rw [hval]
    refine ⟨_, .display, ?_⟩
    rw [Says, hwrites, List.map_singleton, ClientMessage.bytes_displayConfiguration]
  | event =>
    obtain ⟨-, hval, hwrites, -⟩ := doworks_event c hreading
    rw [hval]
    refine ⟨_, .event c.session.rfbWidth c.session.rfbHeight, ?_⟩
    rw [Says, hwrites, List.map_cons, List.map_cons, List.map_singleton,
      ClientMessage.bytes_eventConfiguration, ClientMessage.bytes_pixelFormat,
      ClientMessage.bytes_request]
  | inert =>
    obtain ⟨hval, hwrites, -⟩ := doworks_inert c hreading
    rw [hval]
    exact ⟨_, .silence, hwrites⟩

/-- **The loop only answers**, for any number of calls. -/
theorem loop_conversation (c : Client) (n : ℕ) :
    ∃ ms, Conversation (rounds vncSessionDoworks c n).running ms ∧
      Says (rounds vncSessionDoworks c n).effects ms := by
  induction n with
  | zero => exact ⟨[], .start, rfl⟩
  | succ n ih =>
    obtain ⟨ms, hms, hsays⟩ := ih
    cases hr : (rounds vncSessionDoworks c n).running with
    | false =>
      rw [rounds_succ_of_stopped _ _ _ hr]
      exact ⟨ms, hms, hsays⟩
    | true =>
      obtain ⟨out, hout, hsays'⟩ := doworks_answer (rounds vncSessionDoworks c n).state
      rw [rounds_succ _ _ _ hr]
      rw [hr] at hms
      exact ⟨ms ++ out, .answer hms hout, hsays.append hsays'⟩

/-! ## The handshake -/

/-- The version that is found is sent back. -/
theorem writes_version (c : Client) :
    ((protocolVersionHandshake.run c).val = none ∧
        writes (protocolVersionHandshake.run c).effects = []) ∨
      ∃ v : RfbVersion, (protocolVersionHandshake.run c).val = some v.digit ∧
        writes (protocolVersionHandshake.run c).effects = [v.bytes] := by
  have hfetched : ((connRead (c.indeterminate 12) 12).run (c.draw 12)).val = c.fetched 12 := rfl
  have hwrites : writes (protocolVersionHandshake.run c).effects =
      if c.fetched 12 ≠ version37 ∧ c.fetched 12 ≠ version38 then [] else [c.fetched 12] := by
    unfold protocolVersionHandshake
    rw [run_uninitialised_bind, effects_bind, run_ite, hfetched]
    split_ifs <;> rfl
  cases hval : (protocolVersionHandshake.run c).val with
  | none =>
    left
    refine ⟨rfl, ?_⟩
    rw [hwrites, if_pos]
    by_contra hknown
    have hversion : ∃ v : RfbVersion, c.fetched 12 = v.bytes := by
      by_cases h37 : c.fetched 12 = version37
      · exact ⟨.v37, h37⟩
      · exact ⟨.v38, by_contra fun h38 => hknown ⟨h37, h38⟩⟩
    obtain ⟨v, hv⟩ := hversion
    rw [(val_version_iff c v.digit).mpr ⟨v, rfl, hv⟩] at hval
    cases hval
  | some d =>
    right
    obtain ⟨v, rfl, hv⟩ := (val_version_iff c d).mp hval
    refine ⟨v, rfl, ?_⟩
    rw [hwrites, hv, if_neg]
    cases v <;> simp [RfbVersion.bytes]

/-- None is chosen, or nothing is. -/
theorem writes_security (c : Client) :
    writes (securityHandshake.run c).effects =
      if (securityHandshake.run c).val then [[1]] else [] := by
  unfold securityHandshake
  rw [effects_bind, val_bind, run_connRead]
  simp only
  rw [writes_append]
  by_cases hnum : (overlay (c.unread.take 1) [0]).getD 0 0 = 0
  · rw [if_pos hnum]
    rfl
  · rw [if_neg hnum, run_uninitialised_bind, val_bind, effects_bind, run_connRead, writes_append,
      securityFlag_eq]
    generalize overlay _ _ = types
    by_cases hnone : 1 ∈ types
    · rw [if_pos hnone]
      rfl
    · rw [if_neg hnone]
      rfl

/-- The result of the security handshake is only read. -/
theorem writes_result (digit : UInt8) (c : Client) :
    writes ((securityResultHandshake digit).run c).effects = [] := by
  unfold securityResultHandshake readReason
  rw [run_ite]
  split
  · rw [run_uninitialised_bind, effects_bind, run_connRead, run_ite, run_ite]
    split
    · rfl
    · split <;> rfl
  · rfl

/-- Initialisation writes the shared flag. -/
theorem writes_initializationMessages (c : Client) :
    writes (initializationMessages.run c).effects = [[0]] := rfl

/-- What a handshake writes that does not come to the message loop, and one that does. -/
theorem writes_vncHandshake (c : Client) :
    ((vncHandshake.run c).val = true ∧ ∃ v : RfbVersion,
        writes (vncHandshake.run c).effects = [v.bytes, [1], [0], setEncodings]) ∨
      ((vncHandshake.run c).val = false ∧ (writes (vncHandshake.run c).effects = [] ∨
        ∃ v : RfbVersion, writes (vncHandshake.run c).effects = [v.bytes] ∨
          writes (vncHandshake.run c).effects = [v.bytes, [1]])) := by
  rw [run_vncHandshake]
  generalize cleared c = c
  rcases writes_version c with ⟨hval, hversion⟩ | ⟨v, hval, hversion⟩
  · right
    rw [run_bind_of (Outcome.eq_of_val hval)]
    exact ⟨rfl, .inl (by simpa using hversion)⟩
  rw [run_bind_of (Outcome.eq_of_val hval)]
  generalize (protocolVersionHandshake.run c).state = c' at *
  have hsecurity := writes_security c'
  cases hval' : (securityHandshake.run c').val with
  | false =>
    right
    rw [hval'] at hsecurity
    simp only [run_bind_of (Outcome.eq_of_val hval')]
    refine ⟨rfl, .inr ⟨v, .inl ?_⟩⟩
    simpa [hversion] using hsecurity
  | true =>
    rw [hval'] at hsecurity
    simp only [run_bind_of (Outcome.eq_of_val hval'), if_true]
    generalize (securityHandshake.run c').state = c'' at *
    have hresult := writes_result v.digit c''
    cases hval'' : ((securityResultHandshake v.digit).run c'').val with
    | false =>
      right
      simp only [run_bind_of (Outcome.eq_of_val hval'')]
      refine ⟨rfl, .inr ⟨v, .inr ?_⟩⟩
      simp [hversion, hsecurity, hresult]
    | true =>
      left
      simp only [run_bind_of (Outcome.eq_of_val hval''), if_true]
      refine ⟨rfl, v, ?_⟩
      simp [hversion, hsecurity, hresult, writes_initializationMessages, effects_bind]

/-! ## The stream -/

section Stream

variable {c : Client} (n : ℕ)

/-- A client that comes to its message loop writes a session. -/
theorem stream_of_loop (hval : (vncHandshake.run c).val = true) : ∃ v ms,
    readClientStream (writes ((sessionTask n).run c).effects).flatten =
      some (.session v 1 0 (ClientMessage.announcement :: ms)) ∧
    Conversation ((sessionTask n).run c).val ms := by
  rcases writes_vncHandshake c with ⟨-, v, hwrites⟩ | ⟨hstopped, -⟩
  · obtain ⟨ms, hms, hsays⟩ := loop_conversation (vncHandshake.run c).state n
    rw [sessionTask, run_bind_of (Outcome.eq_of_val hval), if_pos rfl, run_whileM]
    refine ⟨v, ms, ?_, hms⟩
    rw [Outcome.effects_after, writes_append, hwrites, List.flatten_append, hsays.flatten,
      ← readClientStream_session, List.flatMap_cons, ClientMessage.bytes_announcement]
    simp
  · exact absurd (hstopped.symm.trans hval) (by decide)

/-- One that does not has written a part of its handshake. -/
theorem stream_of_stopped (hval : (vncHandshake.run c).val = false) :
    let o := (sessionTask n).run c
    let stream := readClientStream (writes o.effects).flatten
    o.val = false ∧ (stream = some .silent ∨ ∃ v, stream = some (.version v) ∨
      stream = some (.security v 1)) := by
  intro o stream
  have ho : o = ⟨false, (vncHandshake.run c).state, (vncHandshake.run c).effects⟩ := by
    show (sessionTask n).run c = _
    rw [sessionTask, run_bind_of (Outcome.eq_of_val hval), if_neg (by decide)]
    simp [Outcome.after]
  have hstream : stream = readClientStream (writes (vncHandshake.run c).effects).flatten := by
    show readClientStream (writes o.effects).flatten = _
    rw [ho]
  rw [hstream, ho]
  refine ⟨rfl, ?_⟩
  rcases writes_vncHandshake c with ⟨hloop, -⟩ | ⟨-, hwrites | ⟨v, hwrites | hwrites⟩⟩
  · exact absurd (hval.symm.trans hloop) (by decide)
  · left
    rw [hwrites]
    rfl
  · refine .inr ⟨v, .inl ?_⟩
    rw [hwrites, List.flatten_singleton, readClientStream_version]
  · refine .inr ⟨v, .inr ?_⟩
    rw [hwrites, ← readClientStream_security]
    rfl

end Stream

/-- **The server can read the client.**  Whatever it has sent, and wherever that ends, what the
client has written is a whole stream: before the message loop nothing, the version, or the
version and the security type None; and from then on ClientInit, the encodings and a conversation
that has ended with a ByeBye if the task has returned. -/
theorem client_stream (c : Client) (n : ℕ) :
    let o := (sessionTask n).run c
    let stream := readClientStream (writes o.effects).flatten
    ((vncHandshake.run c).val = false → o.val = false ∧
      (stream = some .silent ∨ ∃ v, stream = some (.version v) ∨
        stream = some (.security v 1))) ∧
    ((vncHandshake.run c).val = true → ∃ v ms,
      stream = some (.session v 1 0 (ClientMessage.announcement :: ms)) ∧
        Conversation o.val ms) :=
  ⟨stream_of_stopped n, stream_of_loop n⟩

/-! ## On the socket -/

/-- A write of which everything was accepted. -/
def Delivered : Traffic → Prop
  | .read _ _ => True
  | .write data accepted => accepted = data

/-- What is accepted is all that was to be written. -/
theorem accepted_of_delivered {L : List Traffic} (h : ∀ e ∈ L, Delivered e) :
    L.flatMap Traffic.accepted = (messages L).flatten := by
  induction L with
  | nil => rfl
  | cons e L ih =>
    have hL := ih fun e he => h e (List.mem_cons_of_mem _ he)
    rw [List.flatMap_cons, hL]
    cases e with
    | read len bytes => rfl
    | write data accepted =>
      have hdata : accepted = data := h _ List.mem_cons_self
      rw [hdata]
      rfl

/-- **What arrives at the server.**  If nothing comes any more after a read that came up short, and
every write was accepted whole, the bytes that a task has put on the socket are a stream the
server can read: a session if the task goes on, and whatever it is with the conversation ended
if it has returned. -/
theorem task_stream (fd : ℤ) (n : ℕ) (w w' : VncWorld) (more : Bool) (hlog : w.log = [])
    (hreach : (vncService fd).Reaches (VncTask.vncSessionTask n) w (.done more) w')
    (hsettled : Settled w'.log) (hdelivered : ∀ e ∈ w'.log, Delivered e) :
    let stream := readClientStream (w'.log.flatMap Traffic.accepted)
    (∃ v ms, stream = some (.session v 1 0 (ClientMessage.announcement :: ms)) ∧
        Conversation more ms) ∨
      (more = false ∧ (stream = some .silent ∨ ∃ v, stream = some (.version v) ∨
        stream = some (.security v 1))) := by
  intro stream
  have hstream : stream = readClientStream (w'.log.flatMap Traffic.accepted) := rfl
  obtain ⟨hpossible, residue, hsession⟩ := session_of_reaches hlog hreach
  obtain ⟨hfeeds, -⟩ := feeds_of_settled hsettled hpossible (.inl rfl)
  obtain ⟨hval, -, -, hwrites, -⟩ := hsession _ .endOfFile hfeeds
  rw [accepted_of_delivered hdelivered, ← hwrites] at hstream
  rw [← hval, hstream]
  generalize (⟨w.session, w'.log.flatMap Traffic.taken ++ [], .endOfFile, residue⟩ : Client) = c
  cases h : (vncHandshake.run c).val with
  | false => exact .inr (stream_of_stopped n h)
  | true => exact .inl (stream_of_loop n h)

/-- The server of the sample can read what it is sent: a session, in which the ByeBye is
answered. -/
theorem task_stream_of_session :
    ∃ w', (vncService 5).Reaches (VncTask.vncSessionTask 3) (sampleWorld sampleBlocks)
        (.done false) w' ∧
      ∃ v ms, readClientStream (w'.log.flatMap Traffic.accepted) =
          some (.session v 1 0 (ClientMessage.announcement :: ms)) ∧
        Conversation false ms := by
  have hreach := reaches_sampleLeft 5 .byteByByte (fun _ => 7) (h := sampleBlocks) (a := 1)
    (b := 2) rfl rfl (by decide)
  have hdelivered : ∀ e ∈ sampleLog, Delivered e := by
    simp [sampleLog, sampleMessages, handshakeTraffic, sampleHandshake, Delivered]
  have hstream := task_stream 5 3 (sampleWorld sampleBlocks) _ false rfl hreach
    (settled_of_whole whole_sampleLog) hdelivered
  have hread : readClientStream (sampleLog.flatMap Traffic.accepted) =
      some (.session .v38 1 0 [.announcement, .byeBye]) :=
    readClientStream_session .v38 1 0 [.announcement, .byeBye]
  refine ⟨_, hreach, hstream.resolve_right ?_⟩
  rintro ⟨-, h | ⟨v, h | h⟩⟩ <;> cases hread.symm.trans h

end MirrorLink.Analysis
