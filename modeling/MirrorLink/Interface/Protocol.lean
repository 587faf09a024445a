import MirrorLink.Program.VncSession

/-!
# The configuration protocol, as a machine over whole messages

`ProtocolStep s ws s'` is what the client may do with one message of the server: go from
the session `s` to `s'` writing the messages `ws`.  It knows no bytes of the server: the
analysis shows that every call of `vncSessionDoworks` is such a step.  `ProtocolRun`
composes steps.

The result is the shape of everything a client that starts in status 0 writes
(`protocolRun_shape`): until status 1 only requests and ByeByes, then the Client Display
Configuration, and in status 2 also, after it, the Client Event Configuration followed by
the pixel format and a full request; each of these once.
-/

set_option autoImplicit false

namespace MirrorLink.Program

/-! ## Messages, recognised by their first bytes -/

/-- An extension message of type 2. -/
def isDisplayConfiguration (m : List UInt8) : Bool := m.take 2 == [128, 2]

/-- An extension message of type 4. -/
def isEventConfiguration (m : List UInt8) : Bool := m.take 2 == [128, 4]

/-- A message of type 0. -/
def isSetPixelFormat (m : List UInt8) : Bool := m.take 1 == [0]

/-- A message of type 3. -/
def isUpdateRequest (m : List UInt8) : Bool := m.take 1 == [3]

/-- A message that takes no part in the configuration. -/
def Plain (m : List UInt8) : Prop :=
  m = byeByeMessage ∨ ∃ inc w h, m = framebufferUpdateRequest inc w h

/-! ## Steps and runs -/

/-- What the client may do with one message of the server. -/
inductive ProtocolStep : VncSession → List (List UInt8) → VncSession → Prop
  | drop (s : VncSession) : ProtocolStep s [] s
  | answer (s : VncSession) (inc : UInt8) (w h : UInt16) :
    ProtocolStep s [framebufferUpdateRequest inc w h] { s with rfbWidth := w, rfbHeight := h }
  | byeBye (s : VncSession) : ProtocolStep s [byeByeMessage] s
  | display (s s' : VncSession) (hs : s.status = 0) (hs' : s'.status = 1) :
    ProtocolStep s [clientDisplayConfiguration] s'
  | event (s s' : VncSession) (hs : s.status = 1) (hs' : s'.status = 2)
    (hw : s'.rfbWidth = s.rfbWidth) (hh : s'.rfbHeight = s.rfbHeight) :
    ProtocolStep s [clientEventConfiguration, setPixelFormat,
      framebufferUpdateRequest 0 s.rfbWidth s.rfbHeight] s'

/-- Any number of steps, with all they write. -/
inductive ProtocolRun (s : VncSession) : List (List UInt8) → VncSession → Prop
  | start : ProtocolRun s [] s
  | step {ws out : List (List UInt8)} {t u : VncSession} (hrun : ProtocolRun s ws t)
    (hstep : ProtocolStep t out u) : ProtocolRun s (ws ++ out) u

/-- The status moves 0 → 1 → 2 or not at all. -/
theorem ProtocolStep.status_move {s s' : VncSession} {ws : List (List UInt8)}
    (h : ProtocolStep s ws s') :
    s'.status = s.status ∨ (s.status = 0 ∧ s'.status = 1) ∨
      (s.status = 1 ∧ s'.status = 2) := by
  cases h with
  | drop => exact .inl rfl
  | answer => exact .inl rfl
  | byeBye => exact .inl rfl
  | display _ hs hs' => exact .inr (.inl ⟨hs, hs'⟩)
  | event _ hs hs' _ _ => exact .inr (.inr ⟨hs, hs'⟩)

/-- A Client Event Configuration is written together with the pixel format and a full,
non-incremental request, for the size in force before and after. -/
theorem ProtocolStep.event_followed {s s' : VncSession} {ws : List (List UInt8)}
    (h : ProtocolStep s ws s') (he : ∃ m ∈ ws, isEventConfiguration m) :
    ws = [clientEventConfiguration, setPixelFormat,
        framebufferUpdateRequest 0 s.rfbWidth s.rfbHeight] ∧
      s'.rfbWidth = s.rfbWidth ∧ s'.rfbHeight = s.rfbHeight := by
  cases h with
  | drop => simp at he
  | answer => simp [isEventConfiguration, framebufferUpdateRequest] at he
  | byeBye => simp [isEventConfiguration, byeByeMessage] at he
  | display => simp [isEventConfiguration, clientDisplayConfiguration] at he
  | event _ _ _ hw hh => exact ⟨rfl, hw, hh⟩

/-- The pixel format is written only together with a Client Event Configuration. -/
theorem ProtocolStep.format_only_with_event {s s' : VncSession} {ws : List (List UInt8)}
    (h : ProtocolStep s ws s') (hf : ∃ m ∈ ws, isSetPixelFormat m) :
    ∃ m ∈ ws, isEventConfiguration m := by
  cases h with
  | drop => simp at hf
  | answer => simp [isSetPixelFormat, framebufferUpdateRequest] at hf
  | byeBye => simp [isSetPixelFormat, byeByeMessage] at hf
  | display => simp [isSetPixelFormat, clientDisplayConfiguration] at hf
  | event => exact ⟨clientEventConfiguration, by simp, rfl⟩

/-! ## The shape of a run from status 0 -/

/-- What has been written when the session has reached a status. -/
inductive ConfigurationShape : UInt8 → List (List UInt8) → Prop
  | initial (a : List (List UInt8)) (ha : ∀ m ∈ a, Plain m) : ConfigurationShape 0 a
  | displayed (a b : List (List UInt8)) (ha : ∀ m ∈ a, Plain m) (hb : ∀ m ∈ b, Plain m) :
    ConfigurationShape 1 (a ++ clientDisplayConfiguration :: b)
  | configured (a b d : List (List UInt8)) (w h : UInt16) (ha : ∀ m ∈ a, Plain m)
    (hb : ∀ m ∈ b, Plain m) (hd : ∀ m ∈ d, Plain m) :
    ConfigurationShape 2 (a ++ clientDisplayConfiguration :: (b ++ clientEventConfiguration ::
      setPixelFormat :: framebufferUpdateRequest 0 w h :: d))

/-- A message that is no configuration keeps the shape. -/
theorem ConfigurationShape.append_plain {status : UInt8} {ws : List (List UInt8)}
    (h : ConfigurationShape status ws) (m : List UInt8) (hm : Plain m) :
    ConfigurationShape status (ws ++ [m]) := by
  have hsnoc : ∀ l : List (List UInt8), (∀ x ∈ l, Plain x) → ∀ x ∈ l ++ [m], Plain x := by
    intro l hl x hx
    rcases List.mem_append.mp hx with hx | hx
    · exact hl x hx
    · rw [List.mem_singleton.mp hx]
      exact hm
  cases h with
  | initial _ ha => exact .initial _ (hsnoc _ ha)
  | displayed a b ha hb =>
    rw [List.append_assoc, List.cons_append]
    exact .displayed a _ ha (hsnoc _ hb)
  | configured a b d w h ha hb hd =>
    simp only [List.append_assoc, List.cons_append]
    exact .configured a b _ w h ha hb (hsnoc _ hd)

/-- Each step of the protocol keeps the shape. -/
theorem ConfigurationShape.step {s s' : VncSession} {ws out : List (List UInt8)}
    (h : ConfigurationShape s.status ws) (hstep : ProtocolStep s out s') :
    ConfigurationShape s'.status (ws ++ out) := by
  cases hstep with
  | drop => simpa using h
  | answer inc w h' => exact h.append_plain _ (.inr ⟨inc, w, h', rfl⟩)
  | byeBye => exact h.append_plain _ (.inl rfl)
  | display _ hs hs' =>
    rw [hs] at h
    rw [hs']
    cases h with
    | initial _ ha => exact .displayed ws [] ha (by simp)
  | event _ hs hs' _ _ =>
    rw [hs] at h
    rw [hs']
    cases h with
    | displayed a b ha hb =>
      simp only [List.append_assoc, List.cons_append]
      exact .configured a b [] _ _ ha hb (by simp)

/-- **So does every run** from status 0. -/
theorem protocolRun_shape {s s' : VncSession} {ws : List (List UInt8)} (hs : s.status = 0)
    (h : ProtocolRun s ws s') : ConfigurationShape s'.status ws := by
  induction h with
  | start =>
    rw [hs]
    exact .initial [] (by simp)
  | step _ hstep ih => exact ih.step hstep

/-- A plain message is no display configuration. -/
theorem not_isDisplayConfiguration_of_plain {m : List UInt8} (h : Plain m) :
    isDisplayConfiguration m = false := by
  rcases h with rfl | ⟨inc, w, h, rfl⟩
  · rfl
  · simp [isDisplayConfiguration, framebufferUpdateRequest]

/-- Nor is it an event configuration. -/
theorem not_isEventConfiguration_of_plain {m : List UInt8} (h : Plain m) :
    isEventConfiguration m = false := by
  rcases h with rfl | ⟨inc, w, h, rfl⟩
  · rfl
  · simp [isEventConfiguration, framebufferUpdateRequest]

/-- So there are none among plain messages. -/
theorem countP_of_plain {l : List (List UInt8)} (h : ∀ m ∈ l, Plain m) :
    l.countP isDisplayConfiguration = 0 ∧ l.countP isEventConfiguration = 0 := by
  rw [List.countP_eq_zero, List.countP_eq_zero]
  exact ⟨fun m hm => by simp [not_isDisplayConfiguration_of_plain (h m hm)],
    fun m hm => by simp [not_isEventConfiguration_of_plain (h m hm)]⟩

/-- In the shape there is at most one of each. -/
theorem ConfigurationShape.countP_le {status : UInt8} {ws : List (List UInt8)}
    (h : ConfigurationShape status ws) :
    ws.countP isDisplayConfiguration ≤ 1 ∧ ws.countP isEventConfiguration ≤ 1 := by
  cases h with
  | initial _ ha => simp [countP_of_plain ha]
  | displayed a b ha hb =>
    simp [List.countP_append, countP_of_plain ha, countP_of_plain hb,
      isDisplayConfiguration, isEventConfiguration, clientDisplayConfiguration]
  | configured a b d w h ha hb hd =>
    simp [List.countP_append, countP_of_plain ha, countP_of_plain hb,
      countP_of_plain hd, isDisplayConfiguration, isEventConfiguration,
      clientDisplayConfiguration, clientEventConfiguration, setPixelFormat,
      framebufferUpdateRequest]

/-- Where a Client Event Configuration can stand: behind the Client Display
Configuration. -/
theorem ConfigurationShape.event_after_display {status : UInt8} {ws : List (List UInt8)}
    (h : ConfigurationShape status ws) {pre post : List (List UInt8)} {e : List UInt8}
    (hws : ws = pre ++ e :: post) (he : isEventConfiguration e = true) :
    ∃ d ∈ pre, isDisplayConfiguration d = true := by
  cases h with
  | initial _ ha =>
    have hmem : e ∈ ws := by simp [hws]
    simp [not_isEventConfiguration_of_plain (ha e hmem)] at he
  | displayed a b ha hb =>
    have hmem : e ∈ a ++ clientDisplayConfiguration :: b := by simp [hws]
    simp only [List.mem_append, List.mem_cons] at hmem
    rcases hmem with hm | rfl | hm
    · simp [not_isEventConfiguration_of_plain (ha e hm)] at he
    · simp [isEventConfiguration, clientDisplayConfiguration] at he
    · simp [not_isEventConfiguration_of_plain (hb e hm)] at he
  | configured a b d w h ha hb hd =>
    -- `e` is not in `a ++ [display]`, so what stands before it begins with that list
    rcases List.append_eq_append_iff.mp hws with ⟨r, hpre, hrest⟩ | ⟨r, ha', hrest⟩
    · cases r with
      | nil =>
        simp only [List.nil_append, List.cons.injEq] at hrest
        rw [← hrest.1] at he
        simp [isEventConfiguration, clientDisplayConfiguration] at he
      | cons x r =>
        simp only [List.cons_append, List.cons.injEq] at hrest
        exact ⟨x, by simp [hpre], by rw [← hrest.1]; rfl⟩
    · cases r with
      | nil =>
        simp only [List.nil_append, List.cons.injEq] at hrest
        rw [hrest.1] at he
        simp [isEventConfiguration, clientDisplayConfiguration] at he
      | cons x r =>
        simp only [List.cons_append, List.cons.injEq] at hrest
        have hmem : e ∈ a := by simp [ha', hrest.1]
        simp [not_isEventConfiguration_of_plain (ha e hmem)] at he

end MirrorLink.Program
