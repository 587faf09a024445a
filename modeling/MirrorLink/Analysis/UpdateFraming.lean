import MirrorLink.Analysis.Doworks
import MirrorLink.Interface.ServerMessages

/-!
# Where a framebuffer update ends

A rectangle is read to its last byte when the client and the server agree on its length.
`Framed` is the condition for that, on the rectangle and on the framebuffer size
in force when it comes; `FramedFrom` carries it through the rectangles of a message, each
of which may change the size for the next.  A framed rectangle is consumed exactly
(`fbUpdateRectangle_framed`), one that is not is never consumed exactly
(`fbUpdateRectangle_not_framed`), and so the loop over the rectangles stays aligned with
the message for as long as all rectangles are framed, and no longer (`update_framing`).
-/

set_option autoImplicit false

namespace MirrorLink.Analysis

open MirrorLink.Library MirrorLink.Program Effectful

/-- An effect other than a product that leaves the range of `int`. -/
def Defined (e : Effect) : Prop := e ≠ .signedOverflow

/-- A Raw rectangle is empty, or it fits the framebuffer and its size is an `int`. -/
def RawFramed (s : VncSession) (px py w h : UInt16) : Prop :=
  w = 0 ∨ h = 0 ∨
    (px.toNat + w.toNat ≤ s.rfbWidth.toNat ∧ py.toNat + h.toNat ≤ s.rfbHeight.toNat ∧
      w.toNat * h.toNat * 2 < 2 ^ 31)

/-- The client and the server agree on the length of the rectangle. -/
def Framed (s : VncSession) (r : Rectangle) : Prop :=
  match r.body with
  | .raw _ => RawFramed s r.x r.y r.w r.h
  | .contextInformation _ => True
  | .desktopSize => True
  | .runLength _ _ => r.h = s.rfbHeight

/-- The session after the rectangle. -/
def resize (s : VncSession) (r : Rectangle) : VncSession :=
  match r.body with
  | .desktopSize => { s with rfbWidth := r.w, rfbHeight := r.h }
  | _ => s

/-- Every rectangle is framed for the size its predecessors leave behind. -/
def FramedFrom : VncSession → List Rectangle → Prop
  | _, [] => True
  | s, r :: rs => Framed s r ∧ FramedFrom (resize s r) rs

/-- The last rectangle is framed at the size that the others leave. -/
theorem framedFrom_concat (s : VncSession) (rs : List Rectangle) (r : Rectangle) :
    FramedFrom s (rs ++ [r]) ↔
      FramedFrom s rs ∧ Framed (rs.foldl resize s) r := by
  induction rs generalizing s with
  | nil => simp [FramedFrom]
  | cons r' rs ih => simp only [List.cons_append, FramedFrom, ih, and_assoc, List.foldl_cons]

/-- The first rectangles of a framed update are framed. -/
theorem FramedFrom.take {s : VncSession} {rs : List Rectangle} (h : FramedFrom s rs) (k : ℕ) :
    FramedFrom s (rs.take k) := by
  induction k generalizing s rs with
  | zero => exact trivial
  | succ k ih =>
    cases rs with
    | nil => exact trivial
    | cons r rs => exact ⟨h.1, ih h.2⟩

/-! ## The header of a rectangle -/

/-- The header of a rectangle is twelve bytes. -/
@[simp] theorem length_header (r : Rectangle) : r.header.length = 12 := rfl

/-- Its fields are the numbers of the rectangle. -/
theorem rectangleField_header (r : Rectangle) :
    rectangleField r.header 0 = r.x ∧ rectangleField r.header 2 = r.y ∧
      rectangleField r.header 4 = r.w ∧ rectangleField r.header 6 = r.h :=
  ⟨be16_bytes r.x, be16_bytes r.y, be16_bytes r.w, be16_bytes r.h⟩

/-- Its encoding is that of the body. -/
theorem rectangleEncoding_header (r : Rectangle) :
    rectangleEncoding r.header =
      match r.body with
      | .raw _ => .raw
      | .contextInformation _ => .contextInformation
      | .desktopSize => .desktopSize
      | .runLength _ _ => .runLength := by
  have htype : rectangleEncoding r.header = Encoding.ofType r.body.encodingType.toInt32 := by
    show Encoding.ofType (be32 _ _ _ _).toInt32 = _
    congr 2
    exact be32_bytes _
  rw [htype]
  cases r.body <;> rfl

/-! ## Run Length lines -/

/-- A line is read whole. -/
theorem framebufferRleLine_framed (line : RunLine) (more : List UInt8) (c : Client)
    (hu : c.unread = line.bytes ++ more) :
    ((framebufferRleLine ()).run c).state.unread = more := by
  have hu' : (c.draw 2).unread = be16Bytes line.count ++ (line.runs.val ++ more) := by
    rw [Client.unread_draw, hu, RunLine.bytes, List.append_assoc]
  have hread := run_connRead_append (n := 2) (c.draw 2) (c.indeterminate 2) hu' rfl (by simp)
  have hcount : be16 ((be16Bytes line.count).getD 0 0) ((be16Bytes line.count).getD 1 0) =
      line.count := be16_bytes line.count
  unfold framebufferRleLine
  simp only [state_bind, run_uninitialised, hread, hcount, run_connReadFreed, Client.unread_skip]
  exact List.drop_left' line.runs.length_val

/-- A line takes two bytes, if there are any. -/
theorem framebufferRleLine_length (c : Client) :
    ((framebufferRleLine ()).run c).state.unread.length ≤ c.unread.length - 2 := by
  unfold framebufferRleLine
  simp only [state_bind, run_uninitialised, run_connRead, run_connReadFreed, Client.unread_skip,
    Client.unread_draw, List.length_drop]
  omega

/-- As many passes as there are lines, or fewer, read as many lines. -/
theorem repeatM_framebufferRleLine (lines : List RunLine) (n : ℕ) (more : List UInt8) (c : Client)
    (hn : n ≤ lines.length) (hu : c.unread = lines.flatMap RunLine.bytes ++ more) :
    ((repeatM framebufferRleLine n ()).run c).state.unread =
      (lines.drop n).flatMap RunLine.bytes ++ more := by
  induction n generalizing lines c with
  | zero => simpa using hu
  | succ n ih =>
    cases lines with
    | nil => simp at hn
    | cons line lines =>
      rw [List.flatMap_cons, List.append_assoc] at hu
      have hline := framebufferRleLine_framed line _ c hu
      rw [repeatM_succ, state_bind, List.drop_succ_cons]
      exact ih lines _ (by simpa using hn) hline

/-- So do several lines. -/
theorem repeatM_framebufferRleLine_length (n : ℕ) (c : Client) :
    ((repeatM framebufferRleLine n ()).run c).state.unread.length ≤ c.unread.length - 2 * n := by
  induction n generalizing c with
  | zero => simp
  | succ n ih =>
    have hline := framebufferRleLine_length c
    have hrest := ih ((framebufferRleLine ()).run c).state
    rw [repeatM_succ, state_bind]
    refine hrest.trans ?_
    omega

/-- Reading lines overflows nothing. -/
theorem emits_framebufferRleParse : Emits Defined framebufferRleParse := by
  unfold framebufferRleParse
  refine emits_bind (emits_gets _) fun s => ?_
  refine emits_repeatM (fun _ => True) (fun _ _ => ?_) (fun _ _ _ => trivial) _ _ trivial
  intro c e he
  simp only [framebufferRleLine, effects_bind, run_uninitialised, run_connRead,
    run_connReadFreed, List.nil_append, List.mem_append, List.mem_singleton] at he
  rcases he with rfl | rfl <;> simp [Defined]

/-- There are as many lines as the session is high. -/
theorem state_framebufferRleParse (c : Client) :
    (framebufferRleParse.run c).state =
      ((repeatM framebufferRleLine c.session.rfbHeight.toNat ()).run c).state := rfl

/-- A Run Length rectangle of the framebuffer's height is read to its end. -/
theorem framebufferRleParse_framed (lines : List RunLine) (more : List UInt8) (c : Client)
    (hu : c.unread = lines.flatMap RunLine.bytes ++ more)
    (hlen : lines.length = c.session.rfbHeight.toNat) :
    (framebufferRleParse.run c).state.unread = more := by
  rw [state_framebufferRleParse]
  have h := repeatM_framebufferRleLine lines c.session.rfbHeight.toNat more c (by omega) hu
  rwa [List.drop_of_length_le (by omega), List.flatMap_nil, List.nil_append] at h

/-- Another number of lines is not read whole. -/
theorem framebufferRleParse_not_framed (lines : List RunLine) (b : UInt8) (c : Client)
    (hu : c.unread = lines.flatMap RunLine.bytes ++ [b])
    (hlen : lines.length ≠ c.session.rfbHeight.toNat) :
    (framebufferRleParse.run c).state.unread ≠ [b] := by
  rw [state_framebufferRleParse]
  intro h
  have hlength := congrArg List.length h
  rcases Nat.lt_or_gt_of_ne hlen with hlt | hgt
  · -- too few lines: the passes left over run into what comes after the message
    obtain ⟨d, hd⟩ := Nat.exists_eq_add_of_lt hlt
    rw [hd, Nat.add_assoc, run_repeatM_add, state_bind] at hlength
    have hlines := repeatM_framebufferRleLine lines lines.length [b] c le_rfl hu
    rw [List.drop_length, List.flatMap_nil, List.nil_append] at hlines
    have hrest := repeatM_framebufferRleLine_length (d + 1)
      ((repeatM framebufferRleLine lines.length ()).run c).state
    rw [hlines] at hrest
    have hlong : ([b] : List UInt8).length ≤ 1 - 2 * (d + 1) := hlength ▸ hrest
    rw [List.length_singleton] at hlong
    omega
  · -- too many: the lines past the last pass stay behind
    rw [repeatM_framebufferRleLine lines _ [b] c (by omega) hu] at hlength
    cases hrest : lines.drop c.session.rfbHeight.toNat with
    | nil =>
      rw [List.drop_eq_nil_iff] at hrest
      omega
    | cons line rest =>
      simp [hrest, RunLine.bytes] at hlength
      omega

/-! ## Raw rectangles -/

section Raw

variable (px py w h : UInt16) (c : Client)

/-- The Raw branch skips a rectangle that is empty or does not fit. -/
theorem run_framebufferRaw :
    (framebufferRaw px py w h).run c =
      if (w = 0 ∨ h = 0) ∨ px.toNat + w.toNat > c.session.rfbWidth.toNat ∨
          py.toNat + h.toNat > c.session.rfbHeight.toNat then ⟨(), c, []⟩
      else ⟨(), c.skip (rawLength w h),
        (if w.toNat * h.toNat * 2 < 2 ^ 31 then [] else [.signedOverflow]) ++
          [.read (rawLength w h) (rawLength w h) (c.readCode (rawLength w h))]⟩ := by
  unfold framebufferRaw
  by_cases hempty : w = 0 ∨ h = 0
  · rw [if_pos hempty, if_pos (.inl hempty), run_pure]
  · rw [if_neg hempty, run_gets_bind]
    by_cases hout : px.toNat + w.toNat > c.session.rfbWidth.toNat ∨
        py.toNat + h.toNat > c.session.rfbHeight.toNat
    · rw [if_pos hout, if_pos (Or.inr hout), run_pure]
    · rw [if_neg hout, if_neg (by tauto)]
      unfold intProduct
      split <;> rfl

variable (pixels : Block (w.toNat * h.toNat * 2))

/-- A raw rectangle within the session is read whole. -/
theorem framebufferRaw_framed (more : List UInt8) (hu : c.unread = pixels.val ++ more)
    (hframed : RawFramed c.session px py w h) :
    ((framebufferRaw px py w h).run c).state.unread = more ∧
      ∀ e ∈ ((framebufferRaw px py w h).run c).effects, Defined e := by
  have hlen := pixels.length_val
  rw [run_framebufferRaw]
  by_cases hempty : w = 0 ∨ h = 0
  · have hnil : pixels.val = [] := by
      apply List.eq_nil_of_length_eq_zero
      rcases hempty with rfl | rfl <;> simp
    rw [if_pos (.inl hempty)]
    exact ⟨by rw [hu, hnil, List.nil_append], by simp⟩
  · have hfits : px.toNat + w.toNat ≤ c.session.rfbWidth.toNat ∧
        py.toNat + h.toNat ≤ c.session.rfbHeight.toNat ∧ w.toNat * h.toNat * 2 < 2 ^ 31 := by
      unfold RawFramed at hframed
      tauto
    obtain ⟨hwide, hhigh, hint⟩ := hfits
    have hraw : rawLength w h = w.toNat * h.toNat * 2 := by
      unfold rawLength
      omega
    have hin : ¬ ((w = 0 ∨ h = 0) ∨ px.toNat + w.toNat > c.session.rfbWidth.toNat ∨
        py.toNat + h.toNat > c.session.rfbHeight.toNat) := by
      rintro (h0 | h0)
      · exact hempty h0
      · omega
    rw [if_neg hin, if_pos hint]
    refine ⟨?_, by simp [Defined]⟩
    rw [Client.unread_skip, hu, hraw]
    exact List.drop_left' hlen

/-- And no other is. -/
theorem framebufferRaw_not_framed (b : UInt8) (hu : c.unread = pixels.val ++ [b])
    (hframed : ¬ RawFramed c.session px py w h)
    (hdefined : ∀ e ∈ ((framebufferRaw px py w h).run c).effects, Defined e) :
    ((framebufferRaw px py w h).run c).state.unread ≠ [b] := by
  have hlen := pixels.length_val
  have hw : w ≠ 0 := fun h0 => hframed (.inl h0)
  have hh : h ≠ 0 := fun h0 => hframed (.inr (.inl h0))
  have hpos : 0 < w.toNat * h.toNat := by
    apply Nat.mul_pos
    · exact Nat.pos_of_ne_zero fun h0 => hw (UInt16.toNat_inj.mp h0)
    · exact Nat.pos_of_ne_zero fun h0 => hh (UInt16.toNat_inj.mp h0)
  rw [run_framebufferRaw] at hdefined ⊢
  by_cases hout : px.toNat + w.toNat > c.session.rfbWidth.toNat ∨
      py.toNat + h.toNat > c.session.rfbHeight.toNat
  · -- the rectangle is skipped and its pixels stay behind
    rw [if_pos (.inr hout), hu]
    intro hsame
    have hlength := congrArg List.length hsame
    rw [List.length_append, hlen, List.length_singleton] at hlength
    omega
  · -- the rectangle fits, so it is its size that overflows
    have hbig : ¬ w.toNat * h.toNat * 2 < 2 ^ 31 := by
      intro hint
      exact hframed (.inr (.inr ⟨by omega, by omega, hint⟩))
    rw [if_neg (by tauto), if_neg hbig] at hdefined
    exact absurd rfl (hdefined .signedOverflow (by simp))

end Raw

/-! ## One rectangle -/

section OneRectangle

variable (r : Rectangle) (l : UpdateLocals) (c : Client)

/-- The header is read whole. -/
theorem run_connRead_header (more : List UInt8) (hbuf : l.buf.length = 12)
    (hu : c.unread = r.bytes ++ more) :
    (connRead l.buf 12).run c =
      ⟨r.header, { c with unread := r.body.bytes ++ more }, [.read 12 12 0]⟩ := by
  rw [Rectangle.bytes, List.append_assoc] at hu
  rw [run_connRead_append c l.buf hu (length_header r) (by omega), hbuf]

/-- What the client does once it has read the header of `r`. -/
def readBody (r : Rectangle) : Session Unit :=
  match r.body with
  | .raw _ => framebufferRaw r.x r.y r.w r.h
  | .contextInformation _ => connReadFreed 20 20
  | .desktopSize => modifySession fun s => { s with rfbWidth := r.w, rfbHeight := r.h }
  | .runLength _ _ => framebufferRleParse

/-- One pass of the loop reads the header and then the body. -/
theorem run_fbUpdateRectangle (more : List UInt8) (hbuf : l.buf.length = 12)
    (hu : c.unread = r.bytes ++ more) :
    let o := (fbUpdateRectangle l).run c
    let p := (readBody r).run { c with unread := r.body.bytes ++ more }
    o.state = p.state ∧ o.effects = .read 12 12 0 :: p.effects ∧ o.val.buf = r.header := by
  have hread := run_connRead_header r l c more hbuf hu
  obtain ⟨hx, hy, hw, hh⟩ := rectangleField_header r
  have henc := rectangleEncoding_header r
  intro o p
  have ho : o = (fbUpdateRectangle l).run c := rfl
  have hp : p = (readBody r).run { c with unread := r.body.bytes ++ more } := rfl
  unfold fbUpdateRectangle at ho
  unfold readBody at hp
  rw [run_bind, hread] at ho
  simp only [hx, hy, hw, hh, henc] at ho
  cases hb : r.body with
  | raw pixels =>
    simp only [hb, run_bind, run_pure, List.append_nil] at ho hp
    rw [ho, hp]
    exact ⟨rfl, rfl, rfl⟩
  | contextInformation info =>
    simp only [hb, run_bind, run_pure, List.append_nil] at ho hp
    rw [ho, hp]
    exact ⟨rfl, rfl, rfl⟩
  | desktopSize =>
    simp only [hb, run_bind, run_pure, List.append_nil] at ho hp
    rw [ho, hp]
    exact ⟨rfl, rfl, rfl⟩
  | runLength lines length_lines =>
    simp only [hb, run_bind, run_pure, List.append_nil] at ho hp
    rw [ho, hp]
    exact ⟨rfl, rfl, rfl⟩

/-- **A framed rectangle** is consumed exactly. -/
theorem fbUpdateRectangle_framed (more : List UInt8) (hbuf : l.buf.length = 12)
    (hu : c.unread = r.bytes ++ more) (hframed : Framed c.session r) :
    let o := (fbUpdateRectangle l).run c
    o.state.unread = more ∧ o.state.session = resize c.session r ∧
      o.val.buf.length = 12 ∧ ∀ e ∈ o.effects, Defined e := by
  intro o
  obtain ⟨hstate, heffects, hval⟩ := run_fbUpdateRectangle r l c more hbuf hu
  have hheader : Defined (.read 12 12 0) := by simp [Defined]
  suffices hbody : ∀ d : Client, d.session = c.session → d.unread = r.body.bytes ++ more →
      ((readBody r).run d).state.unread = more ∧
        ((readBody r).run d).state.session = resize c.session r ∧
        ∀ e ∈ ((readBody r).run d).effects, Defined e by
    obtain ⟨hunread, hsession, hdefined⟩ := hbody { c with unread := r.body.bytes ++ more } rfl rfl
    refine ⟨by rw [hstate]; exact hunread, by rw [hstate]; exact hsession, by rw [hval]; rfl, ?_⟩
    rw [heffects]
    exact List.forall_mem_cons.mpr ⟨hheader, hdefined⟩
  intro d hd hdu
  unfold readBody resize
  unfold Framed at hframed
  rw [← hd] at hframed ⊢
  cases hb : r.body with
  | raw pixels =>
    rw [hb] at hdu hframed
    obtain ⟨hunread, hdefined⟩ :=
      framebufferRaw_framed r.x r.y r.w r.h d pixels more hdu hframed
    exact ⟨hunread, (quiet_framebufferRaw _ _ _ _ d).1, hdefined⟩
  | contextInformation info =>
    rw [hb] at hdu
    refine ⟨?_, rfl, by simp [Defined]⟩
    simp only [run_connReadFreed, Client.unread_skip, hdu]
    exact List.drop_left' info.length_val
  | desktopSize =>
    rw [hb] at hdu
    exact ⟨hdu, rfl, by simp⟩
  | runLength lines length_lines =>
    rw [hb] at hdu hframed
    have hlen : lines.length = d.session.rfbHeight.toNat := by
      rw [length_lines, hframed]
    exact ⟨framebufferRleParse_framed lines more d hdu hlen, (quiet_framebufferRleParse d).1,
      emits_framebufferRleParse d⟩

/-- **A rectangle that is not framed** is not, whatever comes after it. -/
theorem fbUpdateRectangle_not_framed (b : UInt8) (hbuf : l.buf.length = 12)
    (hu : c.unread = r.bytes ++ [b]) (hframed : ¬ Framed c.session r)
    (hdefined : ∀ e ∈ ((fbUpdateRectangle l).run c).effects, Defined e) :
    ((fbUpdateRectangle l).run c).state.unread ≠ [b] := by
  obtain ⟨hstate, heffects, -⟩ := run_fbUpdateRectangle r l c [b] hbuf hu
  rw [heffects] at hdefined
  rw [hstate]
  have hdefined' := (List.forall_mem_cons.mp hdefined).2
  unfold readBody at hdefined' ⊢
  unfold Framed at hframed
  cases hb : r.body with
  | raw pixels =>
    simp only [hb] at hdefined' hframed ⊢
    exact framebufferRaw_not_framed r.x r.y r.w r.h _ pixels b rfl hframed hdefined'
  | contextInformation info => simp [hb] at hframed
  | desktopSize => simp [hb] at hframed
  | runLength lines length_lines =>
    simp only [hb] at hframed ⊢
    apply framebufferRleParse_not_framed lines b _ rfl
    intro hlen
    rw [length_lines] at hlen
    exact hframed (UInt16.toNat_inj.mp hlen)

end OneRectangle

/-! ## The rectangles of an update -/

/-- Framed rectangles are consumed exactly, one after the other. -/
theorem repeatM_fbUpdateRectangle_framed (rs : List Rectangle) (l : UpdateLocals) (c : Client)
    (more : List UInt8) (hbuf : l.buf.length = 12)
    (hu : c.unread = rs.flatMap Rectangle.bytes ++ more) (hframed : FramedFrom c.session rs) :
    let o := (repeatM fbUpdateRectangle rs.length l).run c
    o.state.unread = more ∧ o.state.session = rs.foldl resize c.session ∧
      o.val.buf.length = 12 ∧ ∀ e ∈ o.effects, Defined e := by
  induction rs generalizing l c with
  | nil => exact ⟨by simpa using hu, rfl, hbuf, by simp⟩
  | cons r rs ih =>
    rw [List.flatMap_cons, List.append_assoc] at hu
    obtain ⟨hr, hrs⟩ := hframed
    obtain ⟨hunread, hsession, hbuf', hdefined⟩ := fbUpdateRectangle_framed r l c _ hbuf hu hr
    rw [← hsession] at hrs
    obtain ⟨hunread', hsession', hbuf'', hdefined'⟩ := ih _ _ hbuf' hunread hrs
    rw [List.length_cons, repeatM_succ]
    refine ⟨hunread', ?_, hbuf'', ?_⟩
    · rw [state_bind, hsession', hsession, List.foldl_cons]
    · intro e he
      rw [effects_bind, List.mem_append] at he
      rcases he with he | he
      · exact hdefined e he
      · exact hdefined' e he

/-- The loop over the rectangles of the next message, from where it starts. -/
def rectangleLoop (c : Client) (n : ℕ) : Outcome Client Effect UpdateLocals :=
  (repeatM fbUpdateRectangle n (initialLocals (c.skip 4))).run ((c.skip 4).draw 12)

/-- A call that reads an update ends where its loop over the rectangles ends, and overflows
where that overflows. -/
theorem doworks_rectangleLoop (m : FramebufferUpdate) (c : Client) (rest : List UInt8)
    (hu : c.unread = m.bytes ++ rest) :
    let p := rectangleLoop c m.rectangles.length
    (vncSessionDoworks.run c).state = p.state ∧
      ((∀ e ∈ (vncSessionDoworks.run c).effects, Defined e) ↔ ∀ e ∈ p.effects, Defined e) := by
  intro p
  have hcount : be16 (c.byte 2) (c.byte 3) = UInt16.ofNat m.rectangles.length := by
    have h2 : c.byte 2 = (UInt16.ofNat m.rectangles.length >>> 8).toUInt8 := by
      rw [Client.byte, hu]
      rfl
    have h3 : c.byte 3 = (UInt16.ofNat m.rectangles.length &&& 0xff).toUInt8 := by
      rw [Client.byte, hu]
      rfl
    rw [h2, h3, be16_bytes]
  have hnum : (UInt16.ofNat m.rectangles.length).toNat = m.rectangles.length :=
    UInt16.toNat_ofNat_of_lt' m.count_lt
  have htype : MessageType.ofByte c.typeByte = .framebufferUpdate := by
    rw [Client.typeByte, hu]
    rfl
  rw [run_doworks_framebufferUpdate c htype, hcount]
  simp only [run_fbUpdateParse, hnum]
  refine ⟨rfl, ?_⟩
  constructor
  · intro h e he
    exact h e (List.mem_append_right _ (List.mem_append_left _ he))
  · intro h e he
    rw [List.mem_append, List.mem_append] at he
    rcases he with he | he | he
    · simp only [headerEffects, List.mem_cons, List.not_mem_nil, or_false] at he
      rcases he with rfl | rfl <;> simp [Defined]
    · exact h e he
    · split at he
      · rw [List.mem_singleton] at he
        rw [he]
        simp [Defined]
      · simp at he

/-- Behind the header of an update stand its rectangles. -/
theorem unread_rectangleLoop (m : FramebufferUpdate) (c : Client) (rest : List UInt8)
    (hu : c.unread = m.bytes ++ rest) :
    ((c.skip 4).draw 12).unread = m.rectangles.flatMap Rectangle.bytes ++ rest := by
  rw [Client.unread_draw, Client.unread_skip, hu]
  rfl

/-- The client consumes the update `m` exactly, and so every update that `m` begins with,
whatever the server sends next. -/
def UpdateFramed (s : VncSession) (m : FramebufferUpdate) : Prop :=
  ∀ k ≤ m.rectangles.length, ∀ (c : Client) (rest : List UInt8), c.session = s →
    c.unread = (m.take k).bytes ++ rest →
    (vncSessionDoworks.run c).state.unread = rest ∧
      ∀ e ∈ (vncSessionDoworks.run c).effects, Defined e

/-- **Framing of framebuffer updates.**  The client consumes an update exactly, rectangle by
rectangle, when every rectangle is framed for the size in force when it comes, and in no
other case. -/
theorem update_framing (s : VncSession) (m : FramebufferUpdate) :
    UpdateFramed s m ↔ FramedFrom s m.rectangles := by
  constructor
  · intro h
    suffices hprefix : ∀ k ≤ m.rectangles.length, FramedFrom s (m.rectangles.take k) by
      have := hprefix m.rectangles.length le_rfl
      rwa [List.take_length] at this
    intro k
    induction k with
    | zero => exact fun _ => trivial
    | succ k ih =>
      intro hk
      have hframed := ih (by omega)
      have htake : m.rectangles.take (k + 1) = m.rectangles.take k ++ [m.rectangles[k]] :=
        List.take_concat_get' m.rectangles k hk ▸ rfl
      rw [htake, framedFrom_concat]
      refine ⟨hframed, ?_⟩
      by_contra hbad
      -- the update cut after rectangle `k`, with one more byte behind it
      let c : Client :=
        { session := s, unread := (m.take (k + 1)).bytes ++ [0], failure := .endOfFile,
          residue := fun _ => 0 }
      obtain ⟨hunread, hdefined⟩ := h (k + 1) hk c [0] rfl rfl
      obtain ⟨hstate, hdefined'⟩ := doworks_rectangleLoop (m.take (k + 1)) c [0] rfl
      have hlength : (m.take (k + 1)).rectangles.length = k + 1 := List.length_take_of_le hk
      have hlengthk : (m.rectangles.take k).length = k := List.length_take_of_le (by omega)
      rw [hdefined', hlength] at hdefined
      rw [hstate, hlength] at hunread
      have hstream : ((c.skip 4).draw 12).unread =
          (m.rectangles.take k).flatMap Rectangle.bytes ++ (m.rectangles[k].bytes ++ [0]) := by
        rw [unread_rectangleLoop (m.take (k + 1)) c [0] rfl]
        show (m.rectangles.take (k + 1)).flatMap Rectangle.bytes ++ [0] = _
        rw [htake, List.flatMap_append, List.flatMap_singleton, List.append_assoc]
      obtain ⟨hstart, hsession, hbuf, -⟩ := repeatM_fbUpdateRectangle_framed
        (m.rectangles.take k) (initialLocals (c.skip 4)) ((c.skip 4).draw 12) _
        (by simp [initialLocals]) hstream hframed
      rw [hlengthk] at hstart hsession hbuf
      unfold rectangleLoop at hunread hdefined
      rw [run_repeatM_last, state_bind] at hunread
      rw [run_repeatM_last, effects_bind] at hdefined
      refine fbUpdateRectangle_not_framed m.rectangles[k] _ _ 0 hbuf hstart ?_ ?_ hunread
      · rw [hsession]
        exact hbad
      · exact fun e he => hdefined e (List.mem_append_right _ he)
  · intro h k hk c rest hs hu
    have hframed : FramedFrom c.session (m.take k).rectangles := by
      rw [hs]
      exact h.take k
    obtain ⟨hstate, hdefined⟩ := doworks_rectangleLoop (m.take k) c rest hu
    have hloop := repeatM_fbUpdateRectangle_framed (m.take k).rectangles
      (initialLocals (c.skip 4)) ((c.skip 4).draw 12) rest (by simp [initialLocals])
      (unread_rectangleLoop (m.take k) c rest hu) hframed
    rw [hstate, hdefined]
    exact ⟨hloop.1, hloop.2.2.2⟩

/-- The server sends one pixel to the right of an 800x480 framebuffer, and then a Bell. -/
theorem update_framing_fails :
    ∃ (m : FramebufferUpdate) (c : Client), c.session.rfbWidth = 800 ∧ c.session.rfbHeight = 480 ∧
      c.unread = m.bytes ++ [2] ∧ (vncSessionDoworks.run c).state.unread = [7, 7, 2] := by
  let r : Rectangle := ⟨800, 0, 1, 1, .raw ⟨[7, 7], rfl⟩⟩
  let m : FramebufferUpdate := ⟨0, [r], by decide⟩
  let s : VncSession := ⟨800, 480, Block.zero 12, Block.zero 28, 2⟩
  exact ⟨m, ⟨s, m.bytes ++ [2], .endOfFile, fun _ => 0⟩, rfl, rfl, rfl, by decide +kernel⟩

end MirrorLink.Analysis
