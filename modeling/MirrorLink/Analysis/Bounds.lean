import MirrorLink.Analysis.ConfigurationProtocol

/-!
# The bounds of the destinations

Every read of the message loop has a destination of the size it asks for, except one: the
colour map is read into a block of as many bytes as there are colours, six times too few.
The two copies into the session have a destination of fixed size and a length the server
chooses.  `DestinationsHold` says, on the state before a call, that none of the three
happens with too many bytes; it is what decides whether a call stays inside its
destinations (`doworks_inBounds`), and so whether a run does (`destination_bounds`).
-/

set_option autoImplicit false

namespace MirrorLink.Analysis

open MirrorLink.Library MirrorLink.Program Effectful

/-- What an operation stores does not exceed the size of its destination. -/
def InBounds : Effect → Prop
  | .read capacity len _ => len ≤ capacity
  | .copy capacity len => len ≤ capacity
  | .write _ => True
  | .signedOverflow => True

/-- A colour map announces no colours, and a configuration that is about to be copied fits
its member. -/
structure DestinationsHold (c : Client) : Prop where
  colours : c.typeByte = 1 → be16 (c.byte 5) (c.byte 6) = 0
  display : c.typeByte = 128 → c.byte 1 = 1 → c.session.status = 0 →
    c.payloadLength.toNat ≤ 12
  event : c.typeByte = 128 → c.byte 1 = 3 → c.session.status = 1 →
    c.payloadLength.toNat ≤ 28

/-! ## Computations that stay inside their destinations -/

/-- A read of no more than the array has is in bounds. -/
theorem inBounds_connRead (buf : List UInt8) (len : ℕ) (h : len ≤ buf.length) :
    Emits InBounds (connRead buf len) := by
  intro c e he
  rw [run_connRead, List.mem_singleton] at he
  rw [he]
  exact h

/-- So is a read into a block of just that size. -/
theorem inBounds_connReadFreed (len : ℕ) : Emits InBounds (connReadFreed len len) := by
  intro c e he
  rw [run_connReadFreed, List.mem_singleton] at he
  rw [he]
  exact le_rfl

/-- An array that is declared is not written to. -/
theorem inBounds_uninitialised (n : ℕ) : Emits InBounds (uninitialised n) := by
  intro c e he
  rw [run_uninitialised] at he
  simp at he

/-- A line is read into arrays of its own. -/
theorem inBounds_framebufferRleLine : Emits InBounds (framebufferRleLine ()) := by
  unfold framebufferRleLine
  refine emits_bind (inBounds_uninitialised 2) fun s => ?_
  refine emits_bind (inBounds_connRead _ _ ?_) fun t => inBounds_connReadFreed _
  rw [run_uninitialised, Client.length_indeterminate]

/-- So are all lines. -/
theorem inBounds_framebufferRleParse : Emits InBounds framebufferRleParse := by
  unfold framebufferRleParse
  refine emits_bind (emits_gets _) fun s => ?_
  exact emits_repeatM (fun _ => True) (fun _ _ => inBounds_framebufferRleLine)
    (fun _ _ _ => trivial) _ _ trivial

/-- A raw rectangle is read into a block of its size. -/
theorem inBounds_framebufferRaw (px py w h : UInt16) :
    Emits InBounds (framebufferRaw px py w h) := by
  unfold framebufferRaw intProduct
  split
  · exact emits_pure ()
  · refine emits_bind (emits_gets _) fun s => ?_
    split
    · exact emits_pure ()
    · refine emits_bind ?_ fun t => inBounds_connReadFreed _
      split
      · exact emits_pure ()
      · exact emits_emit trivial

/-- A rectangle is read into its header, and then by its encoding. -/
theorem inBounds_fbUpdateRectangle (l : UpdateLocals) (hbuf : l.buf.length = 12) :
    Emits InBounds (fbUpdateRectangle l) := by
  unfold fbUpdateRectangle
  refine emits_bind (inBounds_connRead _ _ (by omega)) fun s => ?_
  generalize ((connRead l.buf 12).run s).val = buf
  cases rectangleEncoding buf with
  | raw => exact emits_bind (inBounds_framebufferRaw _ _ _ _) fun _ => emits_pure _
  | contextInformation => exact emits_bind (inBounds_connReadFreed 20) fun _ => emits_pure _
  | desktopSize => exact emits_bind (fun _ _ he => by simp at he) fun _ => emits_pure _
  | runLength => exact emits_bind inBounds_framebufferRleParse fun _ => emits_pure _
  | transform => exact emits_pure _
  | unknown => exact emits_pure _

/-- The header of a rectangle stays twelve bytes. -/
theorem length_buf_fbUpdateRectangle (l : UpdateLocals) (c : Client) (hbuf : l.buf.length = 12) :
    ((fbUpdateRectangle l).run c).val.buf.length = 12 := by
  rw [(fbUpdateRectangle_spec l c).1, UpdateLocals.after, length_overlay, hbuf]
  rw [List.length_take, hbuf]
  exact Nat.min_le_left _ _

/-- **A whole update stays in bounds.** -/
theorem inBounds_fbUpdateParse (num : UInt16) : Emits InBounds (fbUpdateParse num) := by
  unfold fbUpdateParse
  refine emits_bind (inBounds_uninitialised 12) fun s => ?_
  have hloop := emits_repeatM (fun l : UpdateLocals => l.buf.length = 12)
    inBounds_fbUpdateRectangle length_buf_fbUpdateRectangle num.toNat
    { fbUpdate := false, inc := 1, buf := s.indeterminate 12 } (by simp)
  refine emits_bind hloop fun t => ?_
  split
  · exact emits_bind (emits_gets _) fun _ => emits_emit trivial
  · exact emits_pure ()

/-! ## One call -/

/-- The type of a colour map is one. -/
theorem ofByte_eq_setColourMapEntries_iff (b : UInt8) :
    MessageType.ofByte b = .setColourMapEntries ↔ b = 1 := by
  unfold MessageType.ofByte
  split_ifs <;> simp_all

/-- The header of an extension is in bounds. -/
theorem inBounds_headerEffects (c : Client) (n : ℕ) : ∀ e ∈ headerEffects c n, InBounds e := by
  intro e he
  simp only [headerEffects, List.mem_cons, List.not_mem_nil, or_false] at he
  rcases he with rfl | rfl <;> exact le_rfl

/-- Its payload is read into a block of the announced length. -/
theorem inBounds_payloadEffect (c : Client) : InBounds (payloadEffect c) := le_rfl

/-- A colour map is in bounds only if it has no colours. -/
theorem inBounds_colourMap (c : Client) (h : MessageType.ofByte c.typeByte = .setColourMapEntries) :
    (∀ e ∈ (vncSessionDoworks.run c).effects, InBounds e) ↔ be16 (c.byte 5) (c.byte 6) = 0 := by
  rw [run_doworks_setColourMapEntries c h, ← UInt16.toNat_inj]
  simp only [List.forall_mem_append, List.forall_mem_singleton, InBounds]
  constructor
  · rintro ⟨-, hfits⟩
    show _ = 0
    omega
  · intro h0
    exact ⟨inBounds_headerEffects c 6, by rw [h0]; exact le_rfl⟩

/-- A message without colours and without a configuration to copy stores nothing in a
destination of another size. -/
theorem destinationsHold_of_not_copied (c : Client) (h1 : c.typeByte ≠ 1)
    (hd : c.typeByte = 128 → c.byte 1 = 1 → c.session.status ≠ 0)
    (he : c.typeByte = 128 → c.byte 1 = 3 → c.session.status ≠ 1) : DestinationsHold c where
  colours ht := absurd ht h1
  display ht hb hs := absurd hs (hd ht hb)
  event ht hb hs := absurd hs (he ht hb)

/-- The other messages are within their destinations. -/
theorem destinationsHold_of_type (c : Client)
    (h1 : MessageType.ofByte c.typeByte ≠ .setColourMapEntries)
    (h128 : MessageType.ofByte c.typeByte ≠ .extension) : DestinationsHold c := by
  have hext : c.typeByte ≠ 128 := mt (ofByte_eq_extension_iff _).mpr h128
  apply destinationsHold_of_not_copied
  · exact mt (ofByte_eq_setColourMapEntries_iff _).mpr h1
  · exact fun h => absurd h hext
  · exact fun h => absurd h hext

/-- **One call stays inside its destinations** exactly when they hold what it stores. -/
theorem doworks_inBounds (c : Client) :
    (∀ e ∈ (vncSessionDoworks.run c).effects, InBounds e) ↔ DestinationsHold c := by
  have hc := readingCase c
  generalize c.reading = r at hc
  have hheader := inBounds_headerEffects c
  have hpayload := inBounds_payloadEffect c
  cases hc with
  | update ht =>
    have hholds := destinationsHold_of_type c (by simp [ht]) (by simp [ht])
    rw [run_doworks_framebufferUpdate c ht]
    refine iff_of_true ?_ hholds
    rw [List.forall_mem_append]
    exact ⟨hheader 3, inBounds_fbUpdateParse _ _⟩
  | colourMap ht =>
    rw [inBounds_colourMap c ht]
    have hb : c.typeByte = 1 := (ofByte_eq_setColourMapEntries_iff _).mp ht
    constructor
    · intro h0
      refine ⟨fun _ => h0, fun h => ?_, fun h => ?_⟩ <;> rw [hb] at h <;> contradiction
    · intro h
      exact h.colours hb
  | typeOnly ht =>
    have hholds := destinationsHold_of_type c
      (by rcases ht with ht | ht <;> simp [ht]) (by rcases ht with ht | ht <;> simp [ht])
    rw [run_doworks_typeOnly c ht]
    refine iff_of_true ?_ hholds
    rw [List.forall_mem_singleton]
    exact le_rfl
  | cutText ht =>
    have hholds := destinationsHold_of_type c (by simp [ht]) (by simp [ht])
    rw [run_doworks_serverCutText c ht]
    refine iff_of_true ?_ hholds
    rw [List.forall_mem_append, List.forall_mem_singleton]
    exact ⟨hheader 7, le_rfl⟩
  | byeBye ht he =>
    have hb := (ofByte_eq_extension_iff _).mp ht
    have hb0 := (ofByte_eq_byeBye_iff _).mp he
    rw [run_doworks_extension c ht, run_exMessageParse_byeBye c he]
    refine iff_of_true ?_ (destinationsHold_of_not_copied c (by rw [hb]; decide)
      (fun _ h => by rw [hb0] at h; contradiction) (fun _ h => by rw [hb0] at h; contradiction))
    simp only [List.forall_mem_append, List.forall_mem_cons]
    exact ⟨hheader 3, hpayload, trivial, by simp⟩
  | display ht he hs =>
    have hb := (ofByte_eq_extension_iff _).mp ht
    have hb1 := (ofByte_eq_display_iff _).mp he
    rw [run_doworks_extension c ht, run_exMessageParse_display c he hs]
    simp only [List.forall_mem_append, List.forall_mem_cons, InBounds, Client.length_payload]
    constructor
    · rintro ⟨-, -, hfits, -⟩
      refine ⟨fun h => ?_, fun _ _ _ => hfits, fun _ h => ?_⟩
      · rw [hb] at h
        contradiction
      · rw [hb1] at h
        contradiction
    · intro h
      exact ⟨hheader 3, hpayload, h.display hb hb1 hs, trivial, by simp⟩
  | event ht he hs =>
    have hb := (ofByte_eq_extension_iff _).mp ht
    have hb3 := (ofByte_eq_event_iff _).mp he
    rw [run_doworks_extension c ht, run_exMessageParse_event c he hs]
    simp only [List.forall_mem_append, List.forall_mem_cons, InBounds, Client.length_payload]
    constructor
    · rintro ⟨-, -, hfits, -⟩
      refine ⟨fun h => ?_, fun _ h => ?_, fun _ _ _ => hfits⟩
      · rw [hb] at h
        contradiction
      · rw [hb3] at h
        contradiction
    · intro h
      exact ⟨hheader 3, hpayload, h.event hb hb3 hs, trivial, trivial, trivial, by simp⟩
  | dropped ht _ hd he =>
    have hb := (ofByte_eq_extension_iff _).mp ht
    have hnd := fun h => hd ((ofByte_eq_display_iff _).mpr h)
    have hne := fun h => he ((ofByte_eq_event_iff _).mpr h)
    rw [run_doworks_extension c ht, run_exMessageParse_inert c (by assumption) hd he]
    refine iff_of_true ?_ (destinationsHold_of_not_copied c (by rw [hb]; decide)
      (fun _ => hnd) (fun _ => hne))
    simp only [List.forall_mem_append, List.forall_mem_cons]
    exact ⟨hheader 3, hpayload, by simp⟩

/-! ## Every run -/

/-- **The bounds of the destinations.**  The first `n` calls of the loop stay inside the
destinations exactly when each of them finds a message the destinations hold. -/
theorem destination_bounds (c : Client) (n : ℕ) :
    (∀ e ∈ (loopAfter c n).effects, InBounds e) ↔
      ∀ i < n, (loopAfter c i).running = true → DestinationsHold (loopAfter c i).state := by
  constructor
  · intro h i hi hr
    apply (doworks_inBounds _).mp
    intro e he
    exact h e (mem_effects_of_call _ _ hi hr he)
  · intro h
    apply rounds_invariant vncSessionDoworks (fun _ es => ∀ e ∈ es, InBounds e)
    · simp
    · intro i hi hr hes
      rw [List.forall_mem_append]
      exact ⟨hes, (doworks_inBounds _).mpr (h i hi hr)⟩

/-- A colour map of 256 colours is read into 256 bytes, a display configuration of 13 bytes
copied into 12. -/
theorem destination_bounds_fail :
    (∃ c : Client, Effect.read 256 1536 0 ∈ (loopAfter c 1).effects) ∧
      ∃ c : Client, Effect.copy 12 13 ∈ (loopAfter c 1).effects := by
  let s : VncSession := ⟨800, 480, Block.zero 12, Block.zero 28, 0⟩
  refine ⟨⟨⟨s, [1, 0, 0, 0, 0, 1, 0] ++ List.replicate 1536 7, .endOfFile, fun _ => 0⟩, ?_⟩,
    ⟨⟨s, [128, 1, 0, 13] ++ List.replicate 13 7, .endOfFile, fun _ => 0⟩, ?_⟩⟩
  · decide +kernel
  · decide +kernel

end MirrorLink.Analysis
