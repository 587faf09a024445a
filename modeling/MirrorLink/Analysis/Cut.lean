import MirrorLink.Analysis.ConfigurationProtocol

/-!
# A message cut short

`Drains x` says that a read of `x` that comes up short leaves nothing to read, and that `x`
does not bring bytes back; every computation of the client drains.  So the stream runs out
inside at most one call, and the calls after it find nothing (`loopAfter_cut`).  The call
the stream runs out in goes on with the bytes it has: it has no effect exactly when what it
takes these bytes for is a message without effect (`no_effect_iff`).
-/

set_option autoImplicit false

namespace MirrorLink.Analysis

open MirrorLink.Library MirrorLink.Program Effectful

/-! ## Running out of bytes -/

/-- Nothing is left to read once a read has come up short, or once nothing was left. -/
def Drains {α : Type} (x : Session α) : Prop :=
  ∀ c, (c.unread = [] → (x.run c).state.unread = []) ∧
    (¬ Complete (x.run c).effects → (x.run c).state.unread = [])

/-- Returning reads nothing. -/
theorem drains_pure {α : Type} (a : α) : Drains (pure a : Session α) := by
  intro c
  refine ⟨fun h => h, fun h => ?_⟩
  rw [run_pure] at h
  exact absurd complete_nil h

/-- Nor does looking at the client. -/
theorem drains_gets {α : Type} (f : Client → α) : Drains (gets f : Session α) := by
  intro c
  refine ⟨fun h => h, fun h => ?_⟩
  rw [run_gets] at h
  exact absurd complete_nil h

/-- A read takes from the front of what is unread. -/
theorem drains_connReadFreed (capacity len : ℕ) : Drains (connReadFreed capacity len) := by
  intro c
  rw [run_connReadFreed]
  refine ⟨fun h => ?_, fun h => ?_⟩
  · rw [Client.unread_skip, h, List.drop_nil]
  · rw [complete_read, Client.readCode_eq_zero_iff] at h
    rw [Client.unread_skip]
    apply List.drop_of_length_le
    have hshort : ¬ len ≤ c.unread.length := fun hlen => h ⟨hlen, complete_nil⟩
    omega

/-- So does a read into an array. -/
theorem drains_connRead (buf : List UInt8) (len : ℕ) : Drains (connRead buf len) :=
  fun c => drains_connReadFreed buf.length len c

/-- A write takes nothing. -/
theorem drains_connWrite (data : List UInt8) : Drains (connWrite data) := by
  intro c
  rw [run_connWrite]
  refine ⟨fun h => h, fun h => ?_⟩
  rw [complete_write] at h
  exact absurd complete_nil h

/-- Nor does a copy into a member. -/
theorem drains_memcpyMember (capacity : ℕ) (buf : List UInt8)
    (copy : VncSession → List UInt8 → VncSession) : Drains (memcpyMember capacity buf copy) := by
  intro c
  rw [run_memcpyMember]
  refine ⟨fun h => h, fun h => ?_⟩
  rw [complete_copy] at h
  exact absurd complete_nil h

/-- Nor does the declaration of an array. -/
theorem drains_uninitialised (n : ℕ) : Drains (uninitialised n) := by
  intro c
  rw [run_uninitialised]
  exact ⟨fun h => h, fun h => absurd complete_nil h⟩

/-- Nor does a change of the session. -/
theorem drains_modifySession (f : VncSession → VncSession) : Drains (modifySession f) := by
  intro c
  rw [run_modifySession]
  exact ⟨fun h => h, fun h => absurd complete_nil h⟩

/-- A sequence takes what its parts take. -/
theorem drains_bind {α β : Type} {x : Session α} {f : α → Session β} (hx : Drains x)
    (hf : ∀ a, Drains (f a)) : Drains (x >>= f) := by
  intro c
  obtain ⟨hkeep, hshort⟩ := hx c
  obtain ⟨hkeep', hshort'⟩ := hf (x.run c).val (x.run c).state
  rw [state_bind, effects_bind, complete_append, not_and_or]
  refine ⟨fun h => hkeep' (hkeep h), ?_⟩
  rintro (h | h)
  · exact hkeep' (hshort h)
  · exact hshort' h

/-- A condition takes what its branch takes. -/
theorem drains_ite {α : Type} (p : Prop) [Decidable p] {x y : Session α} (hx : Drains x)
    (hy : Drains y) : Drains (if p then x else y) := by
  split
  · exact hx
  · exact hy

/-- A loop takes what its turns take. -/
theorem drains_repeatM {β : Type} {body : β → Session β} (hbody : ∀ b, Drains (body b)) (n : ℕ)
    (b : β) : Drains (repeatM body n b) := by
  induction n generalizing b with
  | zero => exact drains_pure b
  | succ n ih =>
    rw [repeatM_succ]
    exact drains_bind (hbody b) ih

/-- A raw rectangle takes from the front. -/
theorem drains_framebufferRaw (px py w h : UInt16) : Drains (framebufferRaw px py w h) := by
  unfold framebufferRaw intProduct
  refine drains_ite _ (drains_pure ()) (drains_bind (drains_gets _) fun session => ?_)
  refine drains_ite _ (drains_pure ()) (drains_bind ?_ fun _ => drains_connReadFreed _ _)
  refine drains_ite _ (drains_pure ()) fun c => ⟨fun h => h, fun h => ?_⟩
  rw [run_emit, complete_signedOverflow] at h
  exact absurd complete_nil h

/-- So do the lines of an encoded one. -/
theorem drains_framebufferRleParse : Drains framebufferRleParse := by
  unfold framebufferRleParse framebufferRleLine
  refine drains_bind (drains_gets _) fun session => drains_repeatM (fun _ => ?_) _ _
  refine drains_bind (drains_uninitialised 2) fun _ => drains_bind (drains_connRead _ _) fun _ => ?_
  exact drains_connReadFreed _ _

/-- So does any rectangle. -/
theorem drains_fbUpdateRectangle (l : UpdateLocals) : Drains (fbUpdateRectangle l) := by
  unfold fbUpdateRectangle
  refine drains_bind (drains_connRead _ _) fun buf => ?_
  cases rectangleEncoding buf with
  | raw => exact drains_bind (drains_framebufferRaw _ _ _ _) fun _ => drains_pure _
  | contextInformation => exact drains_bind (drains_connReadFreed _ _) fun _ => drains_pure _
  | desktopSize => exact drains_bind (drains_modifySession _) fun _ => drains_pure _
  | runLength => exact drains_bind drains_framebufferRleParse fun _ => drains_pure _
  | transform => exact drains_pure _
  | unknown => exact drains_pure _

/-- So does an update. -/
theorem drains_fbUpdateParse (num : UInt16) : Drains (fbUpdateParse num) := by
  unfold fbUpdateParse
  refine drains_bind (drains_uninitialised 12) fun buf => ?_
  refine drains_bind (drains_repeatM drains_fbUpdateRectangle _ _) fun l => ?_
  exact drains_ite _ (drains_bind (drains_gets _) fun _ => drains_connWrite _) (drains_pure ())

/-- So does an extension. -/
theorem drains_exMessageParse (etype : UInt8) (len : UInt16) :
    Drains (exMessageParse etype len) := by
  unfold exMessageParse
  refine drains_bind (drains_connRead _ _) fun buf => ?_
  cases ExtensionType.ofByte etype with
  | byeBye => exact drains_bind (drains_connWrite _) fun _ => drains_pure _
  | serverDisplayConfiguration =>
    refine drains_bind ?_ fun _ => drains_pure _
    refine drains_bind (drains_gets _) fun session => drains_ite _ (drains_pure ()) ?_
    refine drains_bind (drains_modifySession _) fun _ => ?_
    exact drains_bind (drains_memcpyMember _ _ _) fun _ => drains_connWrite _
  | serverEventConfiguration =>
    refine drains_bind ?_ fun _ => drains_pure _
    refine drains_bind (drains_gets _) fun session => drains_ite _ (drains_pure ()) ?_
    refine drains_bind (drains_memcpyMember _ _ _) fun _ => ?_
    refine drains_bind (drains_connWrite _) fun _ =>
      drains_bind (drains_modifySession _) fun _ => ?_
    refine drains_bind (drains_connWrite _) fun _ => drains_bind (drains_gets _) fun _ => ?_
    exact drains_connWrite _
  | _ => exact drains_pure _

/-- **So does every call.** -/
theorem drains_vncSessionDoworks : Drains vncSessionDoworks := by
  unfold vncSessionDoworks
  refine drains_bind (drains_connRead _ _) fun msgType => ?_
  cases MessageType.ofByte (msgType.getD 0 0) with
  | framebufferUpdate =>
    refine drains_bind (drains_connRead _ _) fun header => ?_
    exact drains_bind (drains_fbUpdateParse _) fun _ => drains_pure _
  | setColourMapEntries =>
    refine drains_bind (drains_connRead _ _) fun header => ?_
    exact drains_bind (drains_connReadFreed _ _) fun _ => drains_pure _
  | bell => exact drains_pure _
  | serverCutText =>
    refine drains_bind (drains_connRead _ _) fun header => ?_
    exact drains_bind (drains_connReadFreed _ _) fun _ => drains_pure _
  | extension =>
    refine drains_bind (drains_connRead _ _) fun header => ?_
    exact drains_exMessageParse _ _
  | unknown => exact drains_pure _

/-! ## The calls after the stream has run out -/

/-- Without anything to read a call does nothing and goes on. -/
theorem doworks_of_unread_nil (c : Client) (h : c.unread = []) :
    (vncSessionDoworks.run c).val = true ∧ writes (vncSessionDoworks.run c).effects = [] ∧
      (vncSessionDoworks.run c).state.session = c.session ∧
      (vncSessionDoworks.run c).state.unread = [] := by
  obtain ⟨hval, hw, hs⟩ := doworks_inert c (c.reading_of_unread_nil h)
  exact ⟨hval, hw, hs, (drains_vncSessionDoworks c).1 h⟩

/-- A running loop with nothing left to read goes on for ever and does nothing. -/
theorem loopAfter_of_unread_nil (c : Client) (n : ℕ) (hr : (loopAfter c n).running = true)
    (hu : (loopAfter c n).state.unread = []) (k : ℕ) :
    (loopAfter c (n + k)).running = true ∧ (loopAfter c (n + k)).state.unread = [] ∧
      writes (loopAfter c (n + k)).effects = writes (loopAfter c n).effects ∧
      (loopAfter c (n + k)).state.session = (loopAfter c n).state.session := by
  induction k with
  | zero => exact ⟨hr, hu, rfl, rfl⟩
  | succ k ih =>
    obtain ⟨hrunning, hunread, hwrites, hsession⟩ := ih
    obtain ⟨hval, hw, hs, hnil⟩ := doworks_of_unread_nil _ hunread
    rw [← Nat.add_assoc, loopAfter_succ _ _ hrunning]
    refine ⟨hval, hnil, ?_, ?_⟩
    · rw [writes_append, hw, List.append_nil, hwrites]
    · rw [hs, hsession]

/-! ## The call the stream runs out in -/

/-- The first `m` calls read whole messages, and the next one does not. -/
structure CutAt (c : Client) (m : ℕ) : Prop where
  running : (loopAfter c m).running = true
  complete : Complete (loopAfter c m).effects
  short : ¬ Complete (vncSessionDoworks.run (loopAfter c m).state).effects

/-- From the `m`-th call on nothing is written and no member of the session changes. -/
def NoEffectFrom (c : Client) (m : ℕ) : Prop :=
  ∀ k, writes (loopAfter c (m + k)).effects = writes (loopAfter c m).effects ∧
    (loopAfter c (m + k)).state.session = (loopAfter c m).state.session

/-- What is left of the stream, taken for a message with zeroes for what is missing, is one
that has no effect. -/
def HarmlessCut (c : Client) : Prop :=
  c.reading = .inert ∨ (c.reading = .update ∧ c.namesHandled = false)

instance (c : Client) : Decidable (HarmlessCut c) := by
  unfold HarmlessCut
  infer_instance

/-- A call has no effect exactly if what is unread is a harmless cut. -/
theorem doworks_no_effect_iff (c : Client) :
    (writes (vncSessionDoworks.run c).effects = [] ∧
      (vncSessionDoworks.run c).state.session = c.session) ↔ HarmlessCut c := by
  unfold HarmlessCut
  cases hr : c.reading with
  | update =>
    obtain ⟨-, hyes, hno⟩ := doworks_update c hr
    cases hn : c.namesHandled with
    | true =>
      obtain ⟨inc, w, h, hw, -⟩ := hyes hn
      simp [hw]
    | false => simp [hno hn]
  | byeBye =>
    obtain ⟨-, hw, -⟩ := doworks_byeBye c hr
    simp [hw]
  | display =>
    obtain ⟨-, -, hw, -⟩ := doworks_display c hr
    simp [hw]
  | event =>
    obtain ⟨-, -, hw, -⟩ := doworks_event c hr
    simp [hw]
  | inert =>
    obtain ⟨-, hw, hs⟩ := doworks_inert c hr
    simp [hw, hs]

/-- After a harmless cut the loop goes on. -/
theorem val_of_harmlessCut (c : Client) (h : HarmlessCut c) :
    (vncSessionDoworks.run c).val = true := by
  rcases h with h | ⟨h, -⟩
  · exact (doworks_inert c h).1
  · exact (doworks_update c h).1

/-- **No effect from a message cut short.**  When the stream runs out inside the call after
`m` others, what the session has written and its members stay as those calls left them if
what has come of the message is taken for one without effect, and only then. -/
theorem no_effect_iff (c : Client) (m : ℕ) (hcut : CutAt c m) :
    NoEffectFrom c m ↔ HarmlessCut (loopAfter c m).state := by
  have hnext := loopAfter_succ c m hcut.running
  constructor
  · intro h
    obtain ⟨hwrites, hsession⟩ := h 1
    rw [hnext, writes_append] at hwrites
    rw [hnext] at hsession
    exact (doworks_no_effect_iff _).mp ⟨List.append_right_eq_self.mp hwrites, hsession⟩
  · intro h k
    obtain ⟨hw, hs⟩ := (doworks_no_effect_iff _).mpr h
    have hrunning : (loopAfter c (m + 1)).running = true := by
      rw [hnext]
      exact val_of_harmlessCut _ h
    have hunread : (loopAfter c (m + 1)).state.unread = [] := by
      rw [hnext]
      exact (drains_vncSessionDoworks _).2 hcut.short
    cases k with
    | zero => exact ⟨rfl, rfl⟩
    | succ k =>
      obtain ⟨-, -, hwrites, hsession⟩ := loopAfter_of_unread_nil c (m + 1) hrunning hunread k
      rw [Nat.add_comm k 1, ← Nat.add_assoc, hwrites, hsession, hnext]
      refine ⟨?_, hs⟩
      rw [writes_append, hw, List.append_nil]

/-- A cut text without its length is dropped. -/
theorem no_effect_of_cut_text :
    NoEffectFrom
      { session := ⟨800, 480, Block.zero 12, Block.zero 28, 0⟩, unread := [2, 3, 0],
        failure := .endOfFile, residue := fun _ => 0 } 1 :=
  (no_effect_iff _ 1 ⟨by decide +kernel, by decide +kernel, by decide +kernel⟩).mpr
    (by decide +kernel)

/-- An extension message cut after its first byte is taken for a ByeBye. -/
theorem no_effect_fails :
    let c : Client :=
      { session := ⟨800, 480, Block.zero 12, Block.zero 28, 0⟩, unread := [128],
        failure := .endOfFile, residue := fun _ => 0 }
    ¬ Complete (vncSessionDoworks.run c).effects ∧
      writes (loopAfter c 1).effects = [byeByeMessage] ∧ (loopAfter c 1).running = false := by
  decide +kernel

end MirrorLink.Analysis
