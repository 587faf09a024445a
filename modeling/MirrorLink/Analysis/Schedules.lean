import MirrorLink.Analysis.TaskRefinement

/-!
# A session does not see its memory

The arrays that nobody initialised are read into before they are looked at.  So two clients that
have the same members and are sent the same bytes do the same until a read comes up short,
whatever those arrays hold (`session_blind`).

With `task_refines` this is so of the task: where `malloc` puts its blocks, what it finds there, and
how `select`, `read` and `write` cut the bytes make no difference to what is written and to where
the session comes (`task_schedule`).
-/

set_option autoImplicit false

namespace MirrorLink.Analysis

open MirrorLink.Library MirrorLink.Program Effectful

/-! ## Computations that do the same -/

/-- What is done before a read comes up short. -/
def untilShort (es : List Effect) : List Effect := es.takeWhile Effect.completed

/-- What is complete is seen whole, and what follows it too. -/
theorem untilShort_append_of_complete {es fs : List Effect} (h : Complete es) :
    untilShort (es ++ fs) = es ++ untilShort fs :=
  List.takeWhile_append_of_pos h

/-- Behind a read that is short nothing is seen. -/
theorem untilShort_append_of_short {es fs : List Effect} (h : ¬ Complete es) :
    untilShort (es ++ fs) = untilShort es := by
  induction es with
  | nil => exact absurd complete_nil h
  | cons e es ih =>
    unfold untilShort at ih ⊢
    cases he : e.completed with
    | false => rw [List.cons_append, List.takeWhile_cons_of_neg (by simp [he]),
        List.takeWhile_cons_of_neg (by simp [he])]
    | true =>
      have hes : ¬ Complete es := by
        intro hes
        apply h
        intro e' he'
        rcases List.mem_cons.mp he' with rfl | he'
        · exact he
        · exact hes e' he'
      rw [List.cons_append, List.takeWhile_cons_of_pos he, List.takeWhile_cons_of_pos he, ih hes]

/-- The same members, and the same bytes to come. -/
def Alike (c d : Client) : Prop := c.session = d.session ∧ c.unread = d.unread

/-- From clients that are alike, two computations do the same up to their first short read; if
there is none, they come to clients that are alike, with related values. -/
def Blind {α : Type} (R : α → α → Prop) (x y : Session α) : Prop :=
  ∀ c d, Alike c d →
    untilShort (x.run c).effects = untilShort (y.run d).effects ∧
    (Complete (x.run c).effects ↔ Complete (y.run d).effects) ∧
    (Complete (x.run c).effects →
      Alike (x.run c).state (y.run d).state ∧ R (x.run c).val (y.run d).val)

/-- What is complete is seen whole. -/
theorem untilShort_of_complete {es : List Effect} (h : Complete es) : untilShort es = es := by
  have happend : untilShort (es ++ []) = es ++ untilShort [] := untilShort_append_of_complete h
  rw [List.append_nil] at happend
  exact happend.trans (List.append_nil es)

section Rules

variable {α β : Type} {R : α → α → Prop} {S : β → β → Prop}

/-- Results that correspond. -/
theorem blind_pure {a b : α} (h : R a b) : Blind R (pure a) (pure b) := by
  intro c d hcd
  simp [hcd, h]

/-- **Sequencing**: what corresponds in the middle is handed on. -/
theorem blind_bind {x y : Session α} {f g : α → Session β} (hx : Blind R x y)
    (hf : ∀ a b, R a b → Blind S (f a) (g b)) : Blind S (x >>= f) (y >>= g) := by
  intro c d hcd
  obtain ⟨huntil, hcomplete, hsame⟩ := hx c d hcd
  simp only [effects_bind, complete_append, val_bind, state_bind]
  by_cases h : Complete (x.run c).effects
  · have h' := hcomplete.mp h
    obtain ⟨hstates, hvals⟩ := hsame h
    obtain ⟨huntil', hcomplete', hsame'⟩ := hf _ _ hvals _ _ hstates
    rw [untilShort_append_of_complete h, untilShort_append_of_complete h', huntil']
    rw [untilShort_of_complete h, untilShort_of_complete h'] at huntil
    refine ⟨?_, and_congr hcomplete hcomplete', fun h => hsame' h.2⟩
    rw [huntil]
  · have h' := mt hcomplete.mpr h
    rw [untilShort_append_of_short h, untilShort_append_of_short h']
    exact ⟨huntil, iff_of_false (fun hc => h hc.1) fun hc => h' hc.1, fun hc => absurd hc.1 h⟩

/-- An operation that reads nothing, and looks at the members only. -/
theorem blind_of_members {x y : Session α} (val : VncSession → α)
    (session : VncSession → VncSession) (es : VncSession → List Effect)
    (hR : ∀ s, R (val s) (val s))
    (hx : ∀ c, x.run c = ⟨val c.session, { c with session := session c.session }, es c.session⟩)
    (hy : ∀ c, y.run c = ⟨val c.session, { c with session := session c.session }, es c.session⟩) :
    Blind R x y := by
  rintro c d ⟨hsession, hunread⟩
  rw [hx, hy, hsession]
  exact ⟨rfl, Iff.rfl, fun _ => ⟨⟨rfl, hunread⟩, hR _⟩⟩

/-- The sessions are the same. -/
theorem blind_session : Blind Eq (gets Client.session) (gets Client.session) :=
  blind_of_members id id (fun _ => []) (fun _ => rfl) (fun _ => rfl)
    fun _ => rfl

/-- And they change in the same way. -/
theorem blind_modifySession (f : VncSession → VncSession) :
    Blind Eq (modifySession f) (modifySession f) :=
  blind_of_members (fun _ => ()) f (fun _ => []) (fun _ => rfl)
    (fun _ => rfl) fun _ => rfl

/-- The same bytes are copied into both. -/
theorem blind_memcpyMember (capacity : ℕ) (buf : List UInt8)
    (copy : VncSession → List UInt8 → VncSession) :
    Blind Eq (memcpyMember capacity buf copy) (memcpyMember capacity buf copy) :=
  blind_of_members (fun _ => ()) (copy · buf) (fun _ => [.copy capacity buf.length])
    (fun _ => rfl) (fun _ => rfl) fun _ => rfl

/-- The effects are the same. -/
theorem blind_emit (e : Effect) : Blind Eq (emit e : Session Unit) (emit e) :=
  blind_of_members (fun _ => ()) id (fun _ => [e]) (fun _ => rfl) (fun _ => rfl) fun _ => rfl

/-- What is written is the same. -/
theorem blind_connWrite (data : List UInt8) : Blind Eq (connWrite data) (connWrite data) :=
  blind_emit _

/-- Arrays that nobody initialised have their lengths in common. -/
theorem blind_uninitialised (n : ℕ) :
    Blind (fun a b => a.length = n ∧ b.length = n) (uninitialised n) (uninitialised n) := by
  rintro c d ⟨hsession, hunread⟩
  simp [Alike, hsession, hunread]

/-- A read of `len` bytes: if they come, they are the same bytes. -/
theorem blind_of_read {x y : Session α} (capacity len : ℕ) (val val' : List UInt8 → α)
    (hx : ∀ c, x.run c =
      ⟨val (c.unread.take len), c.skip len, [.read capacity len (c.readCode len)]⟩)
    (hy : ∀ c, y.run c =
      ⟨val' (c.unread.take len), c.skip len, [.read capacity len (c.readCode len)]⟩)
    (hR : ∀ bytes, bytes.length = len → R (val bytes) (val' bytes)) : Blind R x y := by
  rintro c d ⟨hsession, hunread⟩
  rw [hx, hy, hunread]
  by_cases hlen : len ≤ d.unread.length
  · have hcode : c.readCode len = 0 := (c.readCode_eq_zero_iff len).mpr (hunread ▸ hlen)
    have hcode' : d.readCode len = 0 := (d.readCode_eq_zero_iff len).mpr hlen
    rw [hcode, hcode']
    refine ⟨rfl, Iff.rfl, fun _ => ⟨⟨hsession, ?_⟩, hR _ (List.length_take_of_le hlen)⟩⟩
    rw [Client.unread_skip, Client.unread_skip, hunread]
  · have hcode : c.readCode len ≠ 0 := by
      rw [Ne, Client.readCode_eq_zero_iff, hunread]
      exact hlen
    have hcode' : d.readCode len ≠ 0 := by
      rw [Ne, Client.readCode_eq_zero_iff]
      exact hlen
    simp [untilShort, Effect.completed, hcode, hcode']

/-- Two arrays that are read into from end to end hold the same bytes. -/
theorem blind_connRead {buf buf' : List UInt8} (hbuf : buf.length = buf'.length) {len : ℕ}
    (hlen : buf.length ≤ len) :
    Blind (fun a b => a = b ∧ a.length = len) (connRead buf len) (connRead buf' len) := by
  have hrun : ∀ c, (connRead buf' len).run c =
      ⟨overlay (c.unread.take len) buf', c.skip len,
        [.read buf.length len (c.readCode len)]⟩ := by
    intro c
    rw [hbuf]
    rfl
  refine blind_of_read _ len (overlay · buf) (overlay · buf') (fun _ => rfl) hrun ?_
  intro bytes hbytes
  rw [overlay_of_length_le _ _ (by omega), overlay_of_length_le _ _ (by omega)]
  exact ⟨rfl, hbytes⟩

/-- An array that is known, read into or not. -/
theorem blind_connRead_self (buf : List UInt8) (len : ℕ) :
    Blind Eq (connRead buf len) (connRead buf len) :=
  blind_of_read _ len (overlay · buf) (overlay · buf) (fun _ => rfl) (fun _ => rfl) fun _ _ => rfl

/-- What is read and freed is not looked at. -/
theorem blind_connReadFreed (capacity len : ℕ) :
    Blind Eq (connReadFreed capacity len) (connReadFreed capacity len) :=
  blind_of_read capacity len (fun _ => ()) (fun _ => ()) (fun _ => rfl) (fun _ => rfl)
    fun _ _ => rfl

/-- **Loops**: turns that keep the correspondence keep it all along. -/
theorem blind_repeatM {body body' : α → Session α}
    (hbody : ∀ a b, R a b → Blind R (body a) (body' b)) (n : ℕ) {a b : α} (h : R a b) :
    Blind R (repeatM body n a) (repeatM body' n b) := by
  induction n generalizing a b with
  | zero => exact blind_pure h
  | succ n ih =>
    rw [repeatM_succ, repeatM_succ]
    exact blind_bind (hbody a b h) fun _ _ h => ih h

/-- So does a loop that runs as long as its turns say. -/
theorem blind_whileM {body : Session Bool} (hbody : Blind Eq body body) (n : ℕ) :
    Blind Eq (whileM body n) (whileM body n) := by
  induction n with
  | zero => exact blind_pure rfl
  | succ n ih =>
    refine blind_bind hbody ?_
    rintro more _ rfl
    cases more with
    | false => exact blind_pure rfl
    | true => exact ih

/-- A part whose value is the same. -/
theorem blind_then {x : Session α} {f g : α → Session β} (hx : Blind Eq x x)
    (hf : ∀ a, Blind S (f a) (g a)) : Blind S (x >>= f) (x >>= g) := by
  refine blind_bind hx ?_
  rintro a _ rfl
  exact hf a

/-- An array that nobody initialised, read into from end to end. -/
theorem blind_readInto {n : ℕ} {f : List UInt8 → Session β}
    (hf : ∀ buf : List UInt8, buf.length = n → Blind S (f buf) (f buf)) :
    Blind S (uninitialised n >>= fun buf => connRead buf n >>= f)
      (uninitialised n >>= fun buf => connRead buf n >>= f) := by
  refine blind_bind (blind_uninitialised n) ?_
  rintro buf buf' ⟨hbuf, hbuf'⟩
  refine blind_bind (blind_connRead (hbuf.trans hbuf'.symm) hbuf.le) ?_
  rintro buf _ ⟨rfl, hlen⟩
  exact hf buf hlen

end Rules

/-! ## The session -/

/-- A raw rectangle is read without a look at what was there. -/
theorem blind_framebufferRaw (px py w h : UInt16) :
    Blind Eq (framebufferRaw px py w h) (framebufferRaw px py w h) := by
  unfold framebufferRaw
  split
  · exact blind_pure rfl
  refine blind_then blind_session fun session => ?_
  split
  · exact blind_pure rfl
  refine blind_then ?_ fun _ => blind_connReadFreed _ _
  unfold intProduct
  split
  · exact blind_pure rfl
  · exact blind_emit _

/-- So are the lines of an encoded one. -/
theorem blind_framebufferRleParse : Blind Eq framebufferRleParse framebufferRleParse := by
  refine blind_then blind_session fun session => blind_repeatM ?_ _ rfl
  rintro _ _ rfl
  exact blind_readInto fun _ _ => blind_connReadFreed _ _

/-- The locals of `fb_update_parse` are the same, but for an array of 12 bytes. -/
structure AlikeLocals (l m : UpdateLocals) : Prop where
  fbUpdate : l.fbUpdate = m.fbUpdate
  inc : l.inc = m.inc
  buf : l.buf.length = 12
  buf' : m.buf.length = 12

/-- A rectangle is read into its header before that is looked at. -/
theorem blind_fbUpdateRectangle (l m : UpdateLocals) (hl : AlikeLocals l m) :
    Blind AlikeLocals (fbUpdateRectangle l) (fbUpdateRectangle m) := by
  refine blind_bind (blind_connRead (hl.buf.trans hl.buf'.symm) hl.buf.le) ?_
  rintro buf _ ⟨rfl, hbuf⟩
  dsimp only
  cases rectangleEncoding buf with
  | raw =>
    exact blind_then (blind_framebufferRaw _ _ _ _) fun _ => blind_pure ⟨rfl, hl.inc, hbuf, hbuf⟩
  | contextInformation =>
    exact blind_then (blind_connReadFreed _ _) fun _ => blind_pure ⟨rfl, hl.inc, hbuf, hbuf⟩
  | desktopSize =>
    exact blind_then (blind_modifySession _) fun _ => blind_pure ⟨rfl, rfl, hbuf, hbuf⟩
  | runLength =>
    exact blind_then blind_framebufferRleParse fun _ => blind_pure ⟨rfl, hl.inc, hbuf, hbuf⟩
  | transform => exact blind_pure ⟨hl.fbUpdate, hl.inc, hbuf, hbuf⟩
  | unknown => exact blind_pure ⟨hl.fbUpdate, hl.inc, hbuf, hbuf⟩

/-- So is every rectangle of an update. -/
theorem blind_fbUpdateParse (num : UInt16) : Blind Eq (fbUpdateParse num) (fbUpdateParse num) := by
  refine blind_bind (blind_uninitialised 12) ?_
  rintro buf buf' ⟨hbuf, hbuf'⟩
  refine blind_bind (blind_repeatM blind_fbUpdateRectangle _ ⟨rfl, rfl, hbuf, hbuf'⟩) ?_
  intro l m hl
  rw [hl.fbUpdate, hl.inc]
  split
  · exact blind_then blind_session fun session => blind_connWrite _
  · exact blind_pure rfl

/-- An extension is read into its payload before that is looked at. -/
theorem blind_exMessageParse (etype : UInt8) (len : UInt16) :
    Blind Eq (exMessageParse etype len) (exMessageParse etype len) := by
  refine blind_then (blind_connRead_self _ _) fun buf => ?_
  cases ExtensionType.ofByte etype with
  | byeBye => exact blind_then (blind_connWrite _) fun _ => blind_pure rfl
  | serverDisplayConfiguration =>
    refine blind_then (blind_then blind_session fun session => ?_) fun _ => blind_pure rfl
    split
    · exact blind_pure rfl
    · exact blind_then (blind_modifySession _) fun _ =>
        blind_then (blind_memcpyMember _ _ _) fun _ => blind_connWrite _
  | serverEventConfiguration =>
    refine blind_then (blind_then blind_session fun session => ?_) fun _ => blind_pure rfl
    split
    · exact blind_pure rfl
    · refine blind_then (blind_memcpyMember _ _ _) fun _ => ?_
      refine blind_then (blind_connWrite _) fun _ => blind_then (blind_modifySession _) fun _ => ?_
      exact blind_then (blind_connWrite _) fun _ =>
        blind_then blind_session fun _ => blind_connWrite _
  | _ => exact blind_pure rfl

/-- **One message.** -/
theorem blind_vncSessionDoworks : Blind Eq vncSessionDoworks vncSessionDoworks := by
  refine blind_then (blind_connRead_self _ _) fun msgType => ?_
  cases MessageType.ofByte (msgType.getD 0 0) with
  | framebufferUpdate =>
    exact blind_then (blind_connRead_self _ _) fun _ =>
      blind_then (blind_fbUpdateParse _) fun _ => blind_pure rfl
  | setColourMapEntries =>
    exact blind_then (blind_connRead_self _ _) fun _ =>
      blind_then (blind_connReadFreed _ _) fun _ => blind_pure rfl
  | bell => exact blind_pure rfl
  | serverCutText =>
    exact blind_then (blind_connRead_self _ _) fun _ =>
      blind_then (blind_connReadFreed _ _) fun _ => blind_pure rfl
  | extension => exact blind_then (blind_connRead_self _ _) fun _ => blind_exMessageParse _ _
  | unknown => exact blind_pure rfl

/-- The reason of a refusal is only printed. -/
theorem blind_readReason : Blind Eq readReason readReason :=
  blind_readInto fun _ _ => blind_connReadFreed _ _

/-- The version is read into its array first. -/
theorem blind_protocolVersionHandshake :
    Blind Eq protocolVersionHandshake protocolVersionHandshake := by
  refine blind_readInto fun buf _ => ?_
  split
  · exact blind_pure rfl
  · exact blind_then (blind_connWrite _) fun _ => blind_pure rfl

/-- So are the types. -/
theorem blind_securityHandshake : Blind Eq securityHandshake securityHandshake := by
  refine blind_then (blind_connRead_self _ _) fun num => ?_
  dsimp only
  split
  · exact blind_then blind_readReason fun _ => blind_pure rfl
  refine blind_readInto fun buf _ => ?_
  split
  · exact blind_then (blind_connWrite _) fun _ => blind_pure rfl
  · exact blind_pure rfl

/-- So is the result. -/
theorem blind_securityResultHandshake (version : UInt8) :
    Blind Eq (securityResultHandshake version) (securityResultHandshake version) := by
  unfold securityResultHandshake
  split
  · refine blind_readInto fun r _ => ?_
    dsimp only
    split
    · exact blind_then blind_readReason fun _ => blind_pure rfl
    · split
      · exact blind_pure rfl
      · exact blind_pure rfl
  · exact blind_pure rfl

/-- So is `ServerInit`. -/
theorem blind_initializationMessages : Blind Eq initializationMessages initializationMessages := by
  refine blind_then (blind_connWrite _) fun _ => blind_then (blind_connRead_self _ _) fun read => ?_
  exact blind_then (blind_connRead_self _ _) fun _ => blind_modifySession _

/-- **The handshake is blind** to what was in its arrays. -/
theorem blind_vncHandshake : Blind Eq vncHandshake vncHandshake := by
  refine blind_then (blind_modifySession _) fun _ => ?_
  refine blind_then blind_protocolVersionHandshake fun version => ?_
  cases version with
  | none => exact blind_pure rfl
  | some version =>
    refine blind_then blind_securityHandshake fun security => ?_
    cases security with
    | false => exact blind_pure rfl
    | true =>
      refine blind_then (blind_securityResultHandshake version) fun result => ?_
      cases result with
      | false => exact blind_pure rfl
      | true =>
        exact blind_then blind_initializationMessages fun _ =>
          blind_then (blind_connWrite _) fun _ => blind_pure rfl

/-- **And so is the whole task.** -/
theorem blind_sessionTask (n : ℕ) : Blind Eq (sessionTask n) (sessionTask n) := by
  refine blind_then blind_vncHandshake fun more => ?_
  cases more with
  | false => exact blind_pure rfl
  | true => exact blind_whileM blind_vncSessionDoworks n

/-! ## Schedules -/

/-- A task whose reads were complete, as a session that was sent a whole stream. -/
theorem session_of_task {fd : ℤ} {n : ℕ} {w w' : VncWorld} {more : Bool} (hlog : w.log = [])
    (hreach : (vncService fd).Reaches (VncTask.vncSessionTask n) w (.done more) w')
    (hwhole : ∀ e ∈ w'.log, e.Whole) {stream : List UInt8}
    (hstream : w'.log.flatMap Traffic.taken <+: stream) :
    ∃ residue, let o := (sessionTask n).run ⟨w.session, stream, .endOfFile, residue⟩
      Complete o.effects ∧ o.val = more ∧ o.state.session = w'.session ∧
        writes o.effects = messages w'.log ∧
        w'.log.flatMap Traffic.taken ++ o.state.unread = stream := by
  obtain ⟨rest, rfl⟩ := hstream
  obtain ⟨hpossible, residue, hsession⟩ := session_of_reaches hlog hreach
  obtain ⟨hfeeds, hdrop⟩ := feeds_of_settled (settled_of_whole hwhole) hpossible (.inr hwhole)
  obtain ⟨hval, hmembers, hunread, hwrites, hcomplete⟩ := hsession _ .endOfFile hfeeds
  rw [hdrop] at hunread
  refine ⟨residue, hcomplete.mpr hwhole, hval, hmembers, hwrites, ?_⟩
  exact congrArg (w'.log.flatMap Traffic.taken ++ ·) hunread

/-- **The schedule makes no difference.**  Two tasks that are sent the same stream, and whose reads
have all been complete, have taken the same bytes of it, written the same messages and come to the
same place: on whatever sockets, wherever `malloc` has put their blocks and whatever it found there,
and however the system has cut the bytes. -/
theorem task_schedule (fd fd' : ℤ) (n : ℕ) (w w' v v' : VncWorld) (more more' : Bool)
    (hw : w.log = []) (hv : v.log = []) (hsession : w.session = v.session)
    (hreach : (vncService fd).Reaches (VncTask.vncSessionTask n) w (.done more) w')
    (hreach' : (vncService fd').Reaches (VncTask.vncSessionTask n) v (.done more') v')
    (hwhole : ∀ e ∈ w'.log, e.Whole) (hwhole' : ∀ e ∈ v'.log, e.Whole) (stream : List UInt8)
    (hstream : w'.log.flatMap Traffic.taken <+: stream)
    (hstream' : v'.log.flatMap Traffic.taken <+: stream) :
    more = more' ∧ w'.session = v'.session ∧ messages w'.log = messages v'.log ∧
      w'.log.flatMap Traffic.taken = v'.log.flatMap Traffic.taken := by
  obtain ⟨residue, hcomplete, hval, hmembers, hwrites, htaken⟩ :=
    session_of_task hw hreach hwhole hstream
  obtain ⟨residue', hcomplete', hval', hmembers', hwrites', htaken'⟩ :=
    session_of_task hv hreach' hwhole' hstream'
  obtain ⟨huntil, -, hsame⟩ := blind_sessionTask n ⟨w.session, stream, .endOfFile, residue⟩
    ⟨v.session, stream, .endOfFile, residue'⟩ ⟨hsession, rfl⟩
  obtain ⟨⟨hsessions, hunread⟩, hvals⟩ := hsame hcomplete
  rw [untilShort_of_complete hcomplete, untilShort_of_complete hcomplete'] at huntil
  rw [← hval, ← hval', ← hmembers, ← hmembers', ← hwrites, ← hwrites']
  refine ⟨hvals, hsessions, congrArg writes huntil, ?_⟩
  rw [← hunread] at htaken'
  exact List.append_cancel_right (htaken.trans htaken'.symm)

/-- Two tasks that are sent the session of the sample: one byte after the other on one socket, and
at once on another, with their blocks at other addresses. -/
theorem task_schedule_of_sessions :
    ∃ w' v', (vncService 5).Reaches (VncTask.vncSessionTask 3) (sampleWorld sampleBlocks)
        (.done false) w' ∧
      (vncService 9).Reaches (VncTask.vncSessionTask 3) (sampleWorld fun _ => none)
        (.done false) v' ∧
      w'.session = v'.session ∧ messages w'.log = messages v'.log ∧
        w'.log.flatMap Traffic.taken = v'.log.flatMap Traffic.taken := by
  have hreach := reaches_sampleLeft 5 .byteByByte (fun _ => 7) (h := sampleBlocks) (a := 1)
    (b := 2) rfl rfl (by decide)
  have hreach' := reaches_sampleLeft 9 .atOnce (fun n => UInt8.ofNat n) (h := fun _ => none)
    (a := 8) (b := 0) rfl rfl (by decide)
  obtain ⟨-, hsession, hmessages, htaken⟩ := task_schedule 5 9 3 (sampleWorld sampleBlocks) _
    (sampleWorld fun _ => none) _ false false rfl rfl rfl hreach hreach' whole_sampleLog
    whole_sampleLog _ (List.prefix_refl _) (List.prefix_refl _)
  exact ⟨_, _, hreach, hreach', hsession, hmessages, htaken⟩

end MirrorLink.Analysis
