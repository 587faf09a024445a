import MirrorLink.Interface.Reading
import MirrorLink.Library.Rounds

/-!
# What one call of the message loop can do

`Quiet x` says that `x` neither writes nor touches the session; every read is quiet.
`val_fbUpdateRectangle` and its companions say what one rectangle does, and
`fbUpdate_repeatM` that the update flag ends up set exactly when some rectangle header
names a handled encoding.  The rest of the file is the inversion of `vncSessionDoworks`:
for each `Reading` of the state before the call, what it writes, what becomes of the
session and whether the loop goes on.
-/

set_option autoImplicit false

namespace MirrorLink.Analysis

open MirrorLink.Library MirrorLink.Program Effectful

/-! ## Computations that only read -/

/-- `x` writes nothing and leaves the session as it is. -/
def Quiet {α : Type} (x : Session α) : Prop :=
  ∀ c, (x.run c).state.session = c.session ∧ writes (x.run c).effects = []

/-- Returning is quiet. -/
theorem quiet_pure {α : Type} (a : α) : Quiet (pure a : Session α) := fun _ => ⟨rfl, rfl⟩

/-- So is looking at the client. -/
theorem quiet_gets {α : Type} (f : Client → α) : Quiet (gets f : Session α) :=
  fun _ => ⟨rfl, rfl⟩

/-- So is a read. -/
theorem quiet_connRead (buf : List UInt8) (len : ℕ) : Quiet (connRead buf len) :=
  fun _ => ⟨rfl, rfl⟩

/-- So is a read into a block that is freed again. -/
theorem quiet_connReadFreed (capacity len : ℕ) : Quiet (connReadFreed capacity len) :=
  fun _ => ⟨rfl, rfl⟩

/-- So is the declaration of an array. -/
theorem quiet_uninitialised (n : ℕ) : Quiet (uninitialised n) := fun _ => ⟨rfl, rfl⟩

/-- So is a sequence of quiet parts. -/
theorem quiet_bind {α β : Type} {x : Session α} {f : α → Session β} (hx : Quiet x)
    (hf : ∀ a, Quiet (f a)) : Quiet (x >>= f) := by
  intro c
  obtain ⟨hs, hw⟩ := hx c
  obtain ⟨hs', hw'⟩ := hf (x.run c).val (x.run c).state
  refine ⟨?_, ?_⟩
  · rw [state_bind, hs', hs]
  · rw [effects_bind, writes_append, hw, hw', List.append_nil]

/-- So is a loop of quiet turns. -/
theorem quiet_repeatM {β : Type} {body : β → Session β} (hbody : ∀ b, Quiet (body b)) (n : ℕ)
    (b : β) : Quiet (repeatM body n b) := by
  induction n generalizing b with
  | zero => exact quiet_pure b
  | succ n ih =>
    rw [repeatM_succ]
    exact quiet_bind (hbody b) ih

/-- So is the product that may overflow. -/
theorem quiet_intProduct (n : ℕ) : Quiet (intProduct n) := by
  unfold intProduct
  split
  · exact quiet_pure ()
  · exact fun _ => ⟨rfl, rfl⟩

/-- The lines of an encoded rectangle are read quietly. -/
theorem quiet_framebufferRleParse : Quiet framebufferRleParse :=
  quiet_bind (quiet_gets _) fun _ => quiet_repeatM
    (fun _ => quiet_bind (quiet_uninitialised 2) fun _ =>
      quiet_bind (quiet_connRead _ _) fun _ => quiet_connReadFreed _ _) _ _

/-- So is a raw rectangle. -/
theorem quiet_framebufferRaw (px py w h : UInt16) : Quiet (framebufferRaw px py w h) := by
  unfold framebufferRaw
  split
  · exact quiet_pure ()
  · refine quiet_bind (quiet_gets _) fun session => ?_
    split
    · exact quiet_pure ()
    · exact quiet_bind (quiet_intProduct _) fun _ => quiet_connReadFreed _ _

/-! ## One rectangle -/

/-- **One rectangle.**  It writes nothing; its header decides the locals and the size. -/
theorem fbUpdateRectangle_spec (l : UpdateLocals) (c : Client) :
    ((fbUpdateRectangle l).run c).val = l.after (overlay (c.unread.take 12) l.buf) ∧
      ((fbUpdateRectangle l).run c).state.session =
        c.session.resizedBy (overlay (c.unread.take 12) l.buf) ∧
      writes ((fbUpdateRectangle l).run c).effects = [] := by
  unfold fbUpdateRectangle UpdateLocals.after VncSession.resizedBy
  simp only [val_bind, state_bind, effects_bind, run_connRead]
  generalize overlay (c.unread.take 12) l.buf = buf
  cases he : rectangleEncoding buf with
  | raw =>
    obtain ⟨hs, hw⟩ := quiet_framebufferRaw (rectangleField buf 0) (rectangleField buf 2)
      (rectangleField buf 4) (rectangleField buf 6) (c.skip 12)
    simp [Encoding.handled, hs, hw]
  | contextInformation => simp [Encoding.handled]
  | desktopSize => simp [Encoding.handled]
  | runLength =>
    obtain ⟨hs, hw⟩ := quiet_framebufferRleParse (c.skip 12)
    simp [Encoding.handled, hs, hw]
  | transform => simp [Encoding.handled]
  | unknown => simp [Encoding.handled]

/-- Of a rectangle in another encoding only the header is read. -/
theorem state_fbUpdateRectangle_of_not_handled (l : UpdateLocals) (c : Client)
    (h : (rectangleEncoding (overlay (c.unread.take 12) l.buf)).handled = false) :
    ((fbUpdateRectangle l).run c).state = c.skip 12 := by
  unfold fbUpdateRectangle
  simp only [state_bind, run_connRead]
  generalize overlay (c.unread.take 12) l.buf = buf at h ⊢
  cases he : rectangleEncoding buf <;> simp [he, Encoding.handled] at h ⊢

/-! ## The rectangles of an update -/

/-- Once a rectangle has been handled the flag stays set. -/
theorem fbUpdate_repeatM_of_set (n : ℕ) (l : UpdateLocals) (c : Client)
    (h : l.fbUpdate = true) :
    ((repeatM fbUpdateRectangle n l).run c).val.fbUpdate = true := by
  have hinv := repeatM_invariant fbUpdateRectangle (fun l _ _ => l.fbUpdate = true)
    (by
      intro l c _ hl
      rw [(fbUpdateRectangle_spec l c).1]
      simp [UpdateLocals.after, hl])
    n l c [] h
  exact hinv

/-- The update flag after the loop: it was set before, or some rectangle header names a
handled encoding. -/
theorem fbUpdate_repeatM (n : ℕ) (l : UpdateLocals) (c : Client) :
    ((repeatM fbUpdateRectangle n l).run c).val.fbUpdate =
      (l.fbUpdate || (headersFrom l.buf c.unread n).any fun buf =>
        (rectangleEncoding buf).handled) := by
  induction n generalizing l c with
  | zero => simp [headersFrom]
  | succ n ih =>
    obtain ⟨hval, -, -⟩ := fbUpdateRectangle_spec l c
    rw [repeatM_succ, val_bind, headersFrom, List.any_cons]
    cases hh : (rectangleEncoding (overlay (c.unread.take 12) l.buf)).handled with
    | true =>
      rw [fbUpdate_repeatM_of_set]
      · simp
      · rw [hval]
        simp [UpdateLocals.after, hh]
    | false =>
      rw [ih, state_fbUpdateRectangle_of_not_handled l c hh, hval]
      simp [UpdateLocals.after, hh]

/-- The loop over the rectangles writes nothing and changes only the size, and not even
that when the update flag stays clear. -/
theorem repeatM_fbUpdateRectangle_frame (n : ℕ) (l : UpdateLocals) (c : Client) :
    writes ((repeatM fbUpdateRectangle n l).run c).effects = [] ∧
      (∃ w h, ((repeatM fbUpdateRectangle n l).run c).state.session =
        { c.session with rfbWidth := w, rfbHeight := h }) ∧
      (((repeatM fbUpdateRectangle n l).run c).val.fbUpdate = false →
        ((repeatM fbUpdateRectangle n l).run c).state.session = c.session) := by
  have hinv := repeatM_invariant fbUpdateRectangle
    (fun l s es => writes es = [] ∧
      (∃ w h, s.session = { c.session with rfbWidth := w, rfbHeight := h }) ∧
      (l.fbUpdate = false → s.session = c.session))
    (by
      rintro l s es ⟨hw, ⟨w, h, hs⟩, hclear⟩
      obtain ⟨hval, hsession, hwrites⟩ := fbUpdateRectangle_spec l s
      generalize overlay (s.unread.take 12) l.buf = buf at hval hsession
      rw [hval, hsession, writes_append, hw, hwrites]
      refine ⟨rfl, ?_, ?_⟩
      · unfold VncSession.resizedBy
        split
        · exact ⟨_, _, by rw [hs]⟩
        · exact ⟨w, h, hs⟩
      · intro hflag
        simp only [UpdateLocals.after, Bool.or_eq_false_iff] at hflag
        have hne : rectangleEncoding buf ≠ .desktopSize := by
          intro he
          simp [he, Encoding.handled] at hflag
        rw [VncSession.resizedBy, if_neg hne]
        exact hclear hflag.1)
    n l c [] ⟨rfl, ⟨_, _, rfl⟩, fun _ => rfl⟩
  simpa using hinv

/-- The locals of `fb_update_parse` before the first rectangle. -/
def initialLocals (c : Client) : UpdateLocals :=
  { fbUpdate := false, inc := 1, buf := c.indeterminate 12 }

/-- `fb_update_parse` is the loop over the rectangles and, when the update flag is set
after it, one FramebufferUpdateRequest. -/
theorem run_fbUpdateParse (num : UInt16) (c : Client) :
    (fbUpdateParse num).run c =
      let p := (repeatM fbUpdateRectangle num.toNat (initialLocals c)).run (c.draw 12)
      ⟨(), p.state, p.effects ++ if p.val.fbUpdate then
        [.write (framebufferUpdateRequest p.val.inc p.state.session.rfbWidth
          p.state.session.rfbHeight)] else []⟩ := by
  have hrun : (fbUpdateParse num).run c = (repeatM fbUpdateRectangle num.toNat (initialLocals c) >>=
      fun l => if l.fbUpdate then
          gets Client.session >>= fun s =>
            connWrite (framebufferUpdateRequest l.inc s.rfbWidth s.rfbHeight)
        else pure ()).run (c.draw 12) := rfl
  rw [hrun]
  show Outcome.mk _ _ _ = Outcome.mk _ _ _
  simp only [run_ite]
  split <;> rfl

/-- **A framebuffer update.**  If some rectangle names a handled encoding it is answered by
one FramebufferUpdateRequest for the size after it, otherwise by nothing; of the session
only the size can change. -/
theorem fbUpdateParse_spec (num : UInt16) (c : Client) :
    let o := (fbUpdateParse num).run c
    let named := (headersFrom (c.indeterminate 12) c.unread num.toNat).any
      fun buf => (rectangleEncoding buf).handled
    (named = true → ∃ inc w h, writes o.effects = [framebufferUpdateRequest inc w h] ∧
      o.state.session = { c.session with rfbWidth := w, rfbHeight := h }) ∧
    (named = false → writes o.effects = [] ∧ o.state.session = c.session) := by
  intro o named
  have hflag := fbUpdate_repeatM num.toNat (initialLocals c) (c.draw 12)
  obtain ⟨hw, ⟨w, h, hs⟩, hclear⟩ :=
    repeatM_fbUpdateRectangle_frame num.toNat (initialLocals c) (c.draw 12)
  have ho : o = _ := run_fbUpdateParse num c
  rw [ho]
  generalize (repeatM fbUpdateRectangle num.toNat (initialLocals c)).run (c.draw 12) = p
    at hflag hw hs hclear ⊢
  have hnamed : p.val.fbUpdate = named := by
    simpa [initialLocals] using hflag
  rw [← hnamed]
  constructor
  · intro h1
    refine ⟨p.val.inc, w, h, ?_, hs⟩
    simp [h1, hw, hs]
  · intro h0
    refine ⟨?_, hclear h0⟩
    simp [h0, hw]

/-! ## One message, by its type -/

/-- The type that is read is the first unread byte, or what was there before. -/
theorem getD_overlay_typeByte (c : Client) :
    (overlay (c.unread.take 1) [0xff]).getD 0 0 = c.typeByte := by
  unfold Client.typeByte
  cases c.unread <;> simp [overlay]

/-- A byte of the header is one behind the type. -/
theorem getD_overlay_byte (c : Client) (n i : ℕ) (h : i < n) :
    (overlay ((c.unread.drop 1).take n) (List.replicate n 0)).getD i 0 = c.byte (i + 1) := by
  rw [getD_overlay_take_replicate _ _ _ _ h, Client.byte]
  simp [List.getD_eq_getElem?_getD]

/-- The reads of a type byte and of a header of `n` bytes. -/
def headerEffects (c : Client) (n : ℕ) : List Effect :=
  [.read 1 1 (c.readCode 1), .read n n ((c.skip 1).readCode n)]

/-- Reading the header writes nothing. -/
@[simp] theorem writes_headerEffects (c : Client) (n : ℕ) : writes (headerEffects c n) = [] := rfl

/-- A framebuffer update is read by its rectangles. -/
theorem run_doworks_framebufferUpdate (c : Client)
    (h : MessageType.ofByte c.typeByte = .framebufferUpdate) :
    vncSessionDoworks.run c =
      let o := (fbUpdateParse (be16 (c.byte 2) (c.byte 3))).run (c.skip 4)
      ⟨true, o.state, headerEffects c 3 ++ o.effects⟩ := by
  simp only [vncSessionDoworks, run_bind, run_connRead, getD_overlay_typeByte, h,
    Client.unread_skip, getD_overlay_byte c 3 1 (by omega), getD_overlay_byte c 3 2 (by omega),
    Client.skip_skip, List.length_replicate, run_pure, List.append_nil]
  rfl

/-- A colour map is read into a block of its announced colours. -/
theorem run_doworks_setColourMapEntries (c : Client)
    (h : MessageType.ofByte c.typeByte = .setColourMapEntries) :
    vncSessionDoworks.run c =
      let num := (be16 (c.byte 5) (c.byte 6)).toNat
      ⟨true, c.skip (7 + num * 6),
        headerEffects c 6 ++ [.read num (num * 6) ((c.skip 7).readCode (num * 6))]⟩ := by
  simp only [vncSessionDoworks, run_bind, run_connRead, run_connReadFreed, getD_overlay_typeByte,
    h, Client.unread_skip, getD_overlay_byte c 6 4 (by omega), getD_overlay_byte c 6 5 (by omega),
    Client.skip_skip, List.length_replicate, run_pure, List.append_nil]
  rfl

/-- A cut text is read into a block of its length. -/
theorem run_doworks_serverCutText (c : Client)
    (h : MessageType.ofByte c.typeByte = .serverCutText) :
    vncSessionDoworks.run c =
      let len := (be32 (c.byte 4) (c.byte 5) (c.byte 6) (c.byte 7)).toNat
      ⟨true, c.skip (8 + len),
        headerEffects c 7 ++ [.read len len ((c.skip 8).readCode len)]⟩ := by
  simp only [vncSessionDoworks, serverCutTextParse, run_bind, run_connRead, run_connReadFreed,
    getD_overlay_typeByte, h, Client.unread_skip, getD_overlay_byte c 7 3 (by omega),
    getD_overlay_byte c 7 4 (by omega), getD_overlay_byte c 7 5 (by omega),
    getD_overlay_byte c 7 6 (by omega), Client.skip_skip, List.length_replicate, run_pure,
    List.append_nil]
  rfl

/-- An extension is handled by its type. -/
theorem run_doworks_extension (c : Client)
    (h : MessageType.ofByte c.typeByte = .extension) :
    vncSessionDoworks.run c =
      let o := (exMessageParse (c.byte 1) c.payloadLength).run (c.skip 4)
      ⟨o.val, o.state, headerEffects c 3 ++ o.effects⟩ := by
  simp only [vncSessionDoworks, run_bind, run_connRead, getD_overlay_typeByte, h,
    Client.unread_skip, getD_overlay_byte c 3 0 (by omega), getD_overlay_byte c 3 1 (by omega),
    getD_overlay_byte c 3 2 (by omega), Client.skip_skip, List.length_replicate]
  rfl

/-- Of every other message only the type is read. -/
theorem run_doworks_typeOnly (c : Client)
    (h : MessageType.ofByte c.typeByte = .bell ∨ MessageType.ofByte c.typeByte = .unknown) :
    vncSessionDoworks.run c = ⟨true, c.skip 1, [.read 1 1 (c.readCode 1)]⟩ := by
  rcases h with h | h
  all_goals
    simp only [vncSessionDoworks, run_bind, run_connRead, getD_overlay_typeByte, h, run_pure,
      List.append_nil]
    rfl

/-! ## Extension messages -/

/-- The effect of an extension message's payload being read. -/
def payloadEffect (c : Client) : Effect :=
  .read c.payloadLength.toNat c.payloadLength.toNat ((c.skip 4).readCode c.payloadLength.toNat)

/-- `ByeBye` is answered with its like, and the loop ends. -/
theorem run_exMessageParse_byeBye (c : Client)
    (h : ExtensionType.ofByte (c.byte 1) = .byeBye) :
    (exMessageParse (c.byte 1) c.payloadLength).run (c.skip 4) =
      ⟨false, c.skip (4 + c.payloadLength.toNat), [payloadEffect c, .write byeByeMessage]⟩ := by
  simp only [exMessageParse, run_bind, run_connRead, h, run_connWrite, Client.skip_skip,
    List.length_replicate, run_pure, List.append_nil]
  rfl

/-- The display configuration is copied and answered in status 0. -/
theorem run_exMessageParse_display (c : Client)
    (h : ExtensionType.ofByte (c.byte 1) = .serverDisplayConfiguration)
    (hs : c.session.status = 0) :
    (exMessageParse (c.byte 1) c.payloadLength).run (c.skip 4) =
      ⟨true, { c.skip (4 + c.payloadLength.toNat) with
          session := ({ c.session with status := 1 } : VncSession).copySdinfo c.payload },
        [payloadEffect c, .copy 12 c.payload.length, .write clientDisplayConfiguration]⟩ := by
  simp only [exMessageParse, serverDisplayConfiguration, run_bind, run_connRead, h, run_gets,
    Client.session_skip, hs, ne_eq, not_true_eq_false, if_false, run_modifySession,
    run_memcpyMember, run_connWrite, Client.skip_skip, List.length_replicate, run_pure,
    List.append_nil, Client.unread_skip]
  rfl

/-- The event configuration is copied and answered in status 1. -/
theorem run_exMessageParse_event (c : Client)
    (h : ExtensionType.ofByte (c.byte 1) = .serverEventConfiguration)
    (hs : c.session.status = 1) :
    (exMessageParse (c.byte 1) c.payloadLength).run (c.skip 4) =
      ⟨true, { c.skip (4 + c.payloadLength.toNat) with
          session := { c.session.copySeinfo c.payload with status := 2 } },
        [payloadEffect c, .copy 28 c.payload.length, .write clientEventConfiguration,
          .write setPixelFormat,
          .write (framebufferUpdateRequest 0 c.session.rfbWidth c.session.rfbHeight)]⟩ := by
  simp only [exMessageParse, serverEventConfiguration, run_bind, run_connRead, h, run_gets,
    Client.session_skip, hs, ne_eq, not_true_eq_false, if_false, run_modifySession,
    run_memcpyMember, run_connWrite, Client.skip_skip, List.length_replicate, run_pure,
    List.append_nil, Client.unread_skip]
  rfl

/-- Every other extension is only read. -/
theorem run_exMessageParse_inert (c : Client)
    (hb : ExtensionType.ofByte (c.byte 1) ≠ .byeBye)
    (hd : ExtensionType.ofByte (c.byte 1) = .serverDisplayConfiguration → c.session.status ≠ 0)
    (he : ExtensionType.ofByte (c.byte 1) = .serverEventConfiguration → c.session.status ≠ 1) :
    (exMessageParse (c.byte 1) c.payloadLength).run (c.skip 4) =
      ⟨true, c.skip (4 + c.payloadLength.toNat), [payloadEffect c]⟩ := by
  cases h : ExtensionType.ofByte (c.byte 1) with
  | byeBye => exact absurd h hb
  | serverDisplayConfiguration =>
    simp only [exMessageParse, serverDisplayConfiguration, run_bind, run_connRead, h, run_gets,
      Client.session_skip, hd h, ne_eq, not_false_eq_true, if_true, run_pure, Client.skip_skip,
      List.append_nil, List.length_replicate]
    rfl
  | serverEventConfiguration =>
    simp only [exMessageParse, serverEventConfiguration, run_bind, run_connRead, h, run_gets,
      Client.session_skip, he h, ne_eq, not_false_eq_true, if_true, run_pure, Client.skip_skip,
      List.append_nil, List.length_replicate]
    rfl
  | _ =>
    simp only [exMessageParse, run_bind, run_connRead, h, run_pure, Client.skip_skip,
      List.append_nil, List.length_replicate]
    rfl

/-! ## One message, by its reading -/

/-- The message type and extension type behind each reading. -/
inductive ReadingCase (c : Client) : Reading → Prop
  | update (ht : MessageType.ofByte c.typeByte = .framebufferUpdate) : ReadingCase c .update
  | byeBye (ht : MessageType.ofByte c.typeByte = .extension)
      (he : ExtensionType.ofByte (c.byte 1) = .byeBye) : ReadingCase c .byeBye
  | display (ht : MessageType.ofByte c.typeByte = .extension)
      (he : ExtensionType.ofByte (c.byte 1) = .serverDisplayConfiguration)
      (hs : c.session.status = 0) : ReadingCase c .display
  | event (ht : MessageType.ofByte c.typeByte = .extension)
      (he : ExtensionType.ofByte (c.byte 1) = .serverEventConfiguration)
      (hs : c.session.status = 1) : ReadingCase c .event
  | colourMap (ht : MessageType.ofByte c.typeByte = .setColourMapEntries) : ReadingCase c .inert
  | typeOnly (ht : MessageType.ofByte c.typeByte = .bell ∨
      MessageType.ofByte c.typeByte = .unknown) : ReadingCase c .inert
  | cutText (ht : MessageType.ofByte c.typeByte = .serverCutText) : ReadingCase c .inert
  | dropped (ht : MessageType.ofByte c.typeByte = .extension)
      (hb : ExtensionType.ofByte (c.byte 1) ≠ .byeBye)
      (hd : ExtensionType.ofByte (c.byte 1) = .serverDisplayConfiguration →
        c.session.status ≠ 0)
      (he : ExtensionType.ofByte (c.byte 1) = .serverEventConfiguration →
        c.session.status ≠ 1) : ReadingCase c .inert

/-- Every call is one of these cases. -/
theorem readingCase (c : Client) : ReadingCase c c.reading := by
  unfold Client.reading
  cases ht : MessageType.ofByte c.typeByte with
  | framebufferUpdate => exact .update ht
  | setColourMapEntries => exact .colourMap ht
  | bell => exact .typeOnly (.inl ht)
  | serverCutText => exact .cutText ht
  | unknown => exact .typeOnly (.inr ht)
  | extension =>
    cases he : ExtensionType.ofByte (c.byte 1) with
    | byeBye => exact .byeBye ht he
    | serverDisplayConfiguration =>
      by_cases hs : c.session.status = 0
      · simpa [hs] using ReadingCase.display ht he hs
      · simpa [hs] using ReadingCase.dropped ht (by simp [he]) (fun _ => hs) (by simp [he])
    | serverEventConfiguration =>
      by_cases hs : c.session.status = 1
      · simpa [hs] using ReadingCase.event ht he hs
      · simpa [hs] using ReadingCase.dropped ht (by simp [he]) (by simp [he]) (fun _ => hs)
    | _ => exact .dropped ht (by simp [he]) (by simp [he]) (by simp [he])

/-- **A framebuffer update** is answered when it names a handled encoding, and only then. -/
theorem doworks_update (c : Client) (h : c.reading = .update) :
    (vncSessionDoworks.run c).val = true ∧
      (c.namesHandled = true → ∃ inc w h,
        writes (vncSessionDoworks.run c).effects = [framebufferUpdateRequest inc w h] ∧
        (vncSessionDoworks.run c).state.session =
          { c.session with rfbWidth := w, rfbHeight := h }) ∧
      (c.namesHandled = false → writes (vncSessionDoworks.run c).effects = [] ∧
        (vncSessionDoworks.run c).state.session = c.session) := by
  have hc := readingCase c
  rw [h] at hc
  cases hc with
  | update ht =>
    obtain ⟨hyes, hno⟩ := fbUpdateParse_spec (be16 (c.byte 2) (c.byte 3)) (c.skip 4)
    rw [run_doworks_framebufferUpdate c ht]
    refine ⟨rfl, fun hn => ?_, fun hn => ?_⟩
    · obtain ⟨inc, w, h, hw, hs⟩ := hyes hn
      exact ⟨inc, w, h, by simpa using hw, hs⟩
    · obtain ⟨hw, hs⟩ := hno hn
      exact ⟨by simpa using hw, hs⟩

/-- **A ByeBye** is answered with a ByeBye and ends the loop. -/
theorem doworks_byeBye (c : Client) (h : c.reading = .byeBye) :
    (vncSessionDoworks.run c).val = false ∧
      writes (vncSessionDoworks.run c).effects = [byeByeMessage] ∧
      (vncSessionDoworks.run c).state.session = c.session := by
  have hc := readingCase c
  rw [h] at hc
  cases hc with
  | byeBye ht he =>
    rw [run_doworks_extension c ht, run_exMessageParse_byeBye c he]
    exact ⟨rfl, rfl, rfl⟩

/-- **A Server Display Configuration** in status 0 is answered with the client's. -/
theorem doworks_display (c : Client) (h : c.reading = .display) :
    c.session.status = 0 ∧ (vncSessionDoworks.run c).val = true ∧
      writes (vncSessionDoworks.run c).effects = [clientDisplayConfiguration] ∧
      (vncSessionDoworks.run c).state.session =
        ({ c.session with status := 1 } : VncSession).copySdinfo c.payload := by
  have hc := readingCase c
  rw [h] at hc
  cases hc with
  | display ht he hs =>
    rw [run_doworks_extension c ht, run_exMessageParse_display c he hs]
    exact ⟨hs, rfl, rfl, rfl⟩

/-- **A Server Event Configuration** in status 1 is answered with the client's, the pixel
format and the first request. -/
theorem doworks_event (c : Client) (h : c.reading = .event) :
    c.session.status = 1 ∧ (vncSessionDoworks.run c).val = true ∧
      writes (vncSessionDoworks.run c).effects =
        [clientEventConfiguration, setPixelFormat,
          framebufferUpdateRequest 0 c.session.rfbWidth c.session.rfbHeight] ∧
      (vncSessionDoworks.run c).state.session =
        { c.session.copySeinfo c.payload with status := 2 } := by
  have hc := readingCase c
  rw [h] at hc
  cases hc with
  | event ht he hs =>
    rw [run_doworks_extension c ht, run_exMessageParse_event c he hs]
    exact ⟨hs, rfl, rfl, rfl⟩

/-- **Any other message** is read and dropped. -/
theorem doworks_inert (c : Client) (h : c.reading = .inert) :
    (vncSessionDoworks.run c).val = true ∧ writes (vncSessionDoworks.run c).effects = [] ∧
      (vncSessionDoworks.run c).state.session = c.session := by
  have hc := readingCase c
  rw [h] at hc
  cases hc with
  | colourMap ht =>
    rw [run_doworks_setColourMapEntries c ht]
    exact ⟨rfl, rfl, rfl⟩
  | typeOnly ht =>
    rw [run_doworks_typeOnly c ht]
    exact ⟨rfl, rfl, rfl⟩
  | cutText ht =>
    rw [run_doworks_serverCutText c ht]
    exact ⟨rfl, rfl, rfl⟩
  | dropped ht hb hd he =>
    rw [run_doworks_extension c ht, run_exMessageParse_inert c hb hd he]
    exact ⟨rfl, rfl, rfl⟩

/-- The loop ends with `ByeBye` and with nothing else. -/
theorem val_doworks (c : Client) :
    (vncSessionDoworks.run c).val = false ↔ c.reading = .byeBye := by
  cases h : c.reading with
  | update => simp [(doworks_update c h).1]
  | byeBye => simp [(doworks_byeBye c h).1]
  | display => simp [(doworks_display c h).2.1]
  | event => simp [(doworks_event c h).2.1]
  | inert => simp [(doworks_inert c h).1]

end MirrorLink.Analysis
