import MirrorLink.Analysis.Bounds
import MirrorLink.Analysis.UpdateFraming
import MirrorLink.Interface.UpdateRequest

/-!
# The answer to a framebuffer update

The loop of `fb_update_parse` threads the size of the framebuffer, the incremental flag and
the update flag through the rectangles.  When its reads complete, the headers it meets are
`rectangleHeaders` of the stream, and all three are functions of these headers: one lemma
for what a rectangle reads (`unread_fbUpdateRectangle`), one induction for the loop
(`repeatM_fbUpdateRectangle`).  From the three follows the request that answers the update
(`update_reply`).
-/

set_option autoImplicit false

namespace MirrorLink.Analysis

open MirrorLink.Library MirrorLink.Program Effectful

/-! ## What a rectangle reads -/

/-- A line takes its count and its runs. -/
theorem unread_framebufferRleLine (c : Client)
    (hc : Complete ((framebufferRleLine ()).run c).effects) :
    ((framebufferRleLine ()).run c).state.unread =
      c.unread.drop (2 + 3 * (be16 (c.unread.getD 0 0) (c.unread.getD 1 0)).toNat) := by
  have hread : (c.draw 2).readCode 2 = 0 := by
    simp only [framebufferRleLine, effects_bind, complete_append, run_uninitialised,
      run_connRead, complete_read] at hc
    exact hc.2.1.1
  rw [Client.readCode_eq_zero_iff, Client.unread_draw] at hread
  have hbuf : overlay (c.unread.take 2) (c.indeterminate 2) = c.unread.take 2 := by
    apply overlay_of_length_le
    rw [List.length_take, Client.length_indeterminate]
    omega
  unfold framebufferRleLine
  simp only [state_bind, run_uninitialised, run_connRead, run_connReadFreed, Client.unread_skip,
    Client.unread_draw, hbuf, List.drop_drop]
  congr 3
  simp [List.getD_eq_getElem?_getD]

/-- Several lines take what is counted for them. -/
theorem unread_repeatM_framebufferRleLine (n : ℕ) (c : Client)
    (hc : Complete ((repeatM framebufferRleLine n ()).run c).effects) :
    ((repeatM framebufferRleLine n ()).run c).state.unread =
      c.unread.drop (runLinesRead n c.unread) := by
  induction n generalizing c with
  | zero => simp [runLinesRead]
  | succ n ih =>
    rw [repeatM_succ, effects_bind, complete_append] at hc
    have hline := unread_framebufferRleLine c hc.1
    rw [repeatM_succ, state_bind, ih _ hc.2, hline, List.drop_drop, runLinesRead]

/-- A raw rectangle takes its length, or nothing if it does not fit. -/
theorem unread_framebufferRaw (px py w h : UInt16) (c : Client) :
    ((framebufferRaw px py w h).run c).state.unread =
      c.unread.drop (if (w = 0 ∨ h = 0) ∨ px.toNat + w.toNat > c.session.rfbWidth.toNat ∨
        py.toNat + h.toNat > c.session.rfbHeight.toNat then 0 else rawLength w h) := by
  rw [run_framebufferRaw]
  split <;> rfl

/-- A rectangle whose reads complete takes its header and its payload from the stream. -/
theorem unread_fbUpdateRectangle (l : UpdateLocals) (c : Client) (hbuf : l.buf.length = 12)
    (hc : Complete ((fbUpdateRectangle l).run c).effects) :
    overlay (c.unread.take 12) l.buf = c.unread.take 12 ∧
      ((fbUpdateRectangle l).run c).state.unread =
        c.unread.drop (12 + payloadRead c.session (c.unread.take 12) (c.unread.drop 12)) := by
  unfold fbUpdateRectangle at hc ⊢
  simp only [effects_bind, complete_append, run_connRead, complete_read] at hc
  obtain ⟨⟨hcode, -⟩, hc⟩ := hc
  rw [Client.readCode_eq_zero_iff] at hcode
  have hheader : overlay (c.unread.take 12) l.buf = c.unread.take 12 := by
    apply overlay_of_length_le
    rw [List.length_take]
    omega
  refine ⟨hheader, ?_⟩
  rw [hheader] at hc
  simp only [state_bind, run_connRead, hheader, payloadRead]
  generalize c.unread.take 12 = buf at hc ⊢
  cases he : rectangleEncoding buf with
  | raw =>
    simp only [state_bind, run_pure, unread_framebufferRaw, Client.session_skip,
      Client.unread_skip, List.drop_drop]
    rfl
  | contextInformation => simp
  | desktopSize => simp
  | runLength =>
    simp only [he, effects_bind, complete_append] at hc
    have hlines := unread_repeatM_framebufferRleLine c.session.rfbHeight.toNat (c.skip 12) hc.1
    simp only [state_bind, run_pure, state_framebufferRleParse, Client.session_skip, hlines,
      Client.unread_skip, List.drop_drop]
  | transform => simp
  | unknown => simp

/-! ## The rectangles of an update -/

/-- **The loop over the rectangles.**  Its locals and the session after it are folds over
the headers it read. -/
theorem repeatM_fbUpdateRectangle (n : ℕ) (l : UpdateLocals) (c : Client)
    (hbuf : l.buf.length = 12)
    (hc : Complete ((repeatM fbUpdateRectangle n l).run c).effects) :
    let p := (repeatM fbUpdateRectangle n l).run c
    let headers := rectangleHeaders n c.session c.unread
    p.val = headers.foldl UpdateLocals.after l ∧
      p.state.session = headers.foldl VncSession.resizedBy c.session := by
  induction n generalizing l c with
  | zero => exact ⟨rfl, rfl⟩
  | succ n ih =>
    rw [repeatM_succ, effects_bind, complete_append] at hc
    obtain ⟨hval, hsession, -⟩ := fbUpdateRectangle_spec l c
    obtain ⟨hheader, hunread⟩ := unread_fbUpdateRectangle l c hbuf hc.1
    have hrest := ih _ _ (length_buf_fbUpdateRectangle l c hbuf) hc.2
    rw [hheader] at hval hsession
    rw [hsession, hunread, hval] at hrest
    simp only [repeatM_succ, val_bind, state_bind, hval, rectangleHeaders, List.foldl_cons]
    exact hrest

/-- The flag is set once a rectangle has been handled. -/
theorem fbUpdate_foldl_after (headers : List (List UInt8)) (l : UpdateLocals) :
    (headers.foldl UpdateLocals.after l).fbUpdate =
      (l.fbUpdate || headers.any fun buf => (rectangleEncoding buf).handled) := by
  induction headers generalizing l with
  | nil => simp
  | cons buf headers ih => rw [List.foldl_cons, ih, List.any_cons, ← Bool.or_assoc]; rfl

/-- A new size asks for the whole picture. -/
theorem inc_foldl_after (headers : List (List UInt8)) (l : UpdateLocals) :
    (headers.foldl UpdateLocals.after l).inc =
      if headers.any isDesktopSize then 0 else l.inc := by
  induction headers generalizing l with
  | nil => simp
  | cons buf headers ih =>
    rw [List.foldl_cons, ih, List.any_cons, UpdateLocals.after, isDesktopSize]
    by_cases hd : rectangleEncoding buf = .desktopSize <;> simp [hd]

/-- Of the sizes written one after the other the last one stays. -/
theorem foldl_resizedBy (headers : List (List UInt8)) (s : VncSession) :
    headers.foldl VncSession.resizedBy s =
      { s with rfbWidth := (sizeAfter s headers).1, rfbHeight := (sizeAfter s headers).2 } := by
  induction headers generalizing s with
  | nil => rfl
  | cons buf headers ih =>
    have hsize : sizeAfter (s.resizedBy buf) headers = sizeAfter s (buf :: headers) := by
      unfold sizeAfter VncSession.resizedBy
      by_cases hd : rectangleEncoding buf = .desktopSize
      · rw [if_pos hd, List.filter_cons_of_pos (by simp [isDesktopSize, hd]),
          List.getLast?_cons]
        cases (headers.filter isDesktopSize).getLast? <;> rfl
      · rw [if_neg hd, List.filter_cons_of_neg (by simp [isDesktopSize, hd])]
    rw [List.foldl_cons, ih, hsize]
    unfold VncSession.resizedBy
    split <;> rfl

/-! ## The answer -/

/-- The request says what it is for. -/
theorem decode_framebufferUpdateRequest (inc : UInt8) (w h : UInt16) :
    UpdateRequest.decode (framebufferUpdateRequest inc w h) =
      some { incremental := inc, x := 0, y := 0, width := w, height := h } := by
  have hw := be16_bytes w
  have hh := be16_bytes h
  simp only [UpdateRequest.decode, framebufferUpdateRequest, List.length_cons, List.length_nil,
    List.getD_cons_zero, List.getD_cons_succ, hw, hh]
  rfl

/-- What `fb_update_parse` does with `num` rectangles whose reads complete. -/
structure UpdateAnswered (num : UInt16) (c : Client) : Prop where
  /-- An update with a rectangle in a handled encoding is answered by one request, for the
  size of the last Desktop Size rectangle, and for the whole framebuffer if there was one. -/
  answered :
    let headers := rectangleHeaders num.toNat c.session c.unread
    (∃ buf ∈ headers, (rectangleEncoding buf).handled = true) →
      ∃ m, writes ((fbUpdateParse num).run c).effects = [m] ∧ UpdateRequest.decode m = some {
        incremental := if ∃ buf ∈ headers, rectangleEncoding buf = .desktopSize then 0 else 1
        x := 0
        y := 0
        width := (sizeAfter c.session headers).1
        height := (sizeAfter c.session headers).2 }
  /-- Any other update is not answered. -/
  unanswered :
    (∀ buf ∈ rectangleHeaders num.toNat c.session c.unread,
      (rectangleEncoding buf).handled = false) →
      writes ((fbUpdateParse num).run c).effects = []
  /-- Of the session only the size changes. -/
  resized :
    let size := sizeAfter c.session (rectangleHeaders num.toNat c.session c.unread)
    ((fbUpdateParse num).run c).state.session =
      { c.session with rfbWidth := size.1, rfbHeight := size.2 }

/-- **The answer to a framebuffer update.**  Whatever the rectangles are, provided that the
reads complete. -/
theorem update_reply (num : UInt16) (c : Client)
    (hread : Complete ((fbUpdateParse num).run c).effects) : UpdateAnswered num c := by
  have hloop : Complete
      ((repeatM fbUpdateRectangle num.toNat (initialLocals c)).run (c.draw 12)).effects := by
    rw [run_fbUpdateParse, complete_append] at hread
    exact hread.1
  obtain ⟨hlocals, hsession⟩ := repeatM_fbUpdateRectangle num.toNat (initialLocals c)
    (c.draw 12) (c.length_indeterminate 12) hloop
  obtain ⟨hwrites, -, -⟩ :=
    repeatM_fbUpdateRectangle_frame num.toNat (initialLocals c) (c.draw 12)
  rw [foldl_resizedBy] at hsession
  have hrun := run_fbUpdateParse num c
  generalize (repeatM fbUpdateRectangle num.toNat (initialLocals c)).run (c.draw 12) = p
    at hlocals hsession hwrites hrun
  refine ⟨?_, ?_, ?_⟩
  · intro headers hhandled
    have hset : p.val.fbUpdate = true := by
      rw [hlocals, fbUpdate_foldl_after, Bool.or_eq_true]
      exact .inr (List.any_eq_true.mpr hhandled)
    refine ⟨framebufferUpdateRequest p.val.inc (sizeAfter c.session headers).1
      (sizeAfter c.session headers).2, ?_, ?_⟩
    · rw [hrun, writes_append, hwrites, if_pos hset, hsession]
      rfl
    · rw [decode_framebufferUpdateRequest, hlocals, inc_foldl_after]
      congr 2
      simp [initialLocals, isDesktopSize, headers]
  · intro hnone
    have hclear : p.val.fbUpdate = false := by
      rw [hlocals, fbUpdate_foldl_after, Bool.or_eq_false_iff]
      exact ⟨rfl, List.any_eq_false.mpr fun buf hb => by simp [hnone buf hb]⟩
    simp [hrun, hclear, hwrites]
  · rw [hrun]
    exact hsession

/-- Two Desktop Size rectangles with a Raw one between them, and an unknown one. -/
theorem update_reply_on_two_sizes :
    UpdateAnswered 4
      { session := { rfbWidth := 800, rfbHeight := 480, sdinfo := Block.zero 12,
                     seinfo := Block.zero 28, status := 2 }
        unread := [0, 0, 0, 0, 0, 4, 0, 2, 255, 255, 255, 33,
          0, 0, 0, 0, 0, 1, 0, 2, 0, 0, 0, 0, 10, 11, 12, 13,
          0, 0, 0, 0, 3, 32, 1, 224, 255, 255, 255, 33,
          0, 0, 0, 0, 0, 0, 0, 0, 255, 255, 255, 0]
        failure := .endOfFile
        residue := fun _ => 0 } :=
  update_reply 4 _ (by decide +kernel)

end MirrorLink.Analysis
