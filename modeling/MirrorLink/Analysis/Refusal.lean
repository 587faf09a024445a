import MirrorLink.Analysis.Handshake
import MirrorLink.Interface.ServerRefusal

/-!
# How a refusal is read

The reason of a refusal is read with the length that its first four bytes make in the order
of the host, so a reason is consumed exactly when its length is the same in both orders
(`readReason_exact_iff`).  A security result of 1 is compared in that order too and never
recognised: the client returns and leaves the reason on the stream.
-/

set_option autoImplicit false

namespace MirrorLink.Analysis

open MirrorLink.Library MirrorLink.Program Effectful

/-! ## Lengths in the order of the host -/

/-- The bytes of the word are the same read backwards. -/
def Palindromic (v : UInt32) : Prop := (be32Bytes v).reverse = be32Bytes v

instance (v : UInt32) : Decidable (Palindromic v) := by
  unfold Palindromic
  infer_instance

/-- What a little-endian host makes of the bytes of a big-endian word. -/
def hostOrder (v : UInt32) : UInt32 :=
  le32 (v >>> 24).toUInt8 (v >>> 16).toUInt8 (v >>> 8).toUInt8 v.toUInt8

/-- A number is the same in both orders exactly if its bytes are. -/
theorem hostOrder_eq_iff (v : UInt32) : hostOrder v = v ↔ Palindromic v := by
  have hbytes : be32Bytes (hostOrder v) = (be32Bytes v).reverse := be32Bytes_be32 _ _ _ _
  unfold Palindromic
  constructor
  · intro h
    rw [← hbytes, h]
  · intro h
    have hback := be32_bytes (hostOrder v)
    rw [h] at hbytes
    simp only [be32Bytes, List.cons.injEq, and_true] at hbytes
    obtain ⟨h3, h2, h1, h0⟩ := hbytes
    rw [← hback, h3, h2, h1, h0]
    exact be32_bytes v

/-! ## The reason -/

/-- A reason is read with its length in the order of the machine. -/
theorem run_readReason (r : Reason) (c : Client) (rest : List UInt8)
    (hu : c.unread = r.bytes ++ rest) :
    let n := (hostOrder r.length).toNat
    let o := readReason.run c
    o.state.unread = (r.text.val ++ rest).drop n ∧ writes o.effects = [] ∧
      (Complete o.effects ↔ n ≤ r.length.toNat + rest.length) := by
  have hstream : (c.draw 4).unread = be32Bytes r.length ++ (r.text.val ++ rest) := by
    rw [Client.unread_draw, hu, Reason.bytes, List.append_assoc]
  intro n o
  have ho : o = readReason.run c := rfl
  unfold readReason at ho
  rw [run_uninitialised_bind, run_bind_of (run_connRead_append (n := 4) _ _ hstream rfl
    (Client.length_indeterminate _ _).le)] at ho
  rw [ho]
  refine ⟨rfl, rfl, ?_⟩
  simp only [Outcome.effects_after, run_connReadFreed, complete_append, complete_read,
    complete_nil, Client.readCode_eq_zero_iff, List.length_append, Block.length_val,
    and_true, true_and]
  rfl

/-- A reason is taken from the stream exactly when its length is the same in both orders. -/
theorem readReason_exact_iff (r : Reason) (c : Client) (rest : List UInt8)
    (hu : c.unread = r.bytes ++ rest) :
    (readReason.run c).state.unread = rest ∧ Complete (readReason.run c).effects ↔
      Palindromic r.length := by
  obtain ⟨hunread, -, hcomplete⟩ := run_readReason r c rest hu
  have hlength := r.text.length_val
  rw [hunread, hcomplete, ← hostOrder_eq_iff]
  constructor
  · rintro ⟨hrest, hle⟩
    have hcount := congrArg List.length hrest
    rw [List.length_drop, List.length_append, hlength] at hcount
    apply UInt32.toNat_inj.mp
    omega
  · intro h
    rw [h]
    exact ⟨List.drop_left' hlength, by omega⟩

/-! ## The phases that are refused -/

/-- A list of no types is followed by a reason. -/
theorem run_security_refused (c : Client) (more : List UInt8) (hu : c.unread = 0 :: more) :
    let o := readReason.run { c with unread := more }
    securityHandshake.run c = ⟨false, o.state, .read 1 1 0 :: o.effects⟩ := by
  have hread := run_connRead_append (n := 1) c [0] (show c.unread = [0] ++ more from hu) rfl
    le_rfl
  unfold securityHandshake
  rw [run_bind_of hread]
  simp only [List.getD_cons_zero, if_true, run_bind, run_pure, List.append_nil]
  rfl

/-- A security result of 1 is not a 1 for the host. -/
theorem run_result_refused (c : Client) (more : List UInt8) (hu : c.unread = [0, 0, 0, 1] ++ more) :
    (securityResultHandshake 8).run c =
      ⟨false, { c.draw 4 with unread := more }, [.read 4 4 0]⟩ := by
  have hread := run_connRead_append (n := 4) (c.draw 4) (c.indeterminate 4) hu rfl
    (Client.length_indeterminate _ _).le
  unfold securityResultHandshake
  rw [if_pos rfl, run_uninitialised_bind, run_bind_of hread, if_neg (by decide),
    if_pos (by decide)]
  rfl

/-! ## The refusal -/

/-- The client that is sent a refusal with its reason, and then `rest`. -/
def sent (m : Refusal) (r : Reason) (rest : List UInt8) (c : Client) : Client :=
  { c with unread := m.bytes ++ (r.bytes ++ rest) }

/-- The client reads the refusal as the server sent it: it returns from the handshake having
consumed the reason to its last byte, waiting for nothing more, and having written nothing
after it. -/
structure RefusalRead (m : Refusal) (r : Reason) (rest : List UInt8) (c : Client) : Prop where
  returns : (vncHandshake.run (sent m r rest c)).val = false
  consumed : (vncHandshake.run (sent m r rest c)).state.unread = rest
  complete : Complete (vncHandshake.run (sent m r rest c)).effects
  written : writes (vncHandshake.run (sent m r rest c)).effects = m.answered

/-- No security types: the reason follows at once. -/
theorem refusalRead_noTypes_iff (v : RfbVersion) (r : Reason) (rest : List UInt8) (c : Client) :
    RefusalRead (.noTypes v) r rest c ↔ Palindromic r.length := by
  have hstream : (cleared (sent (.noTypes v) r rest c)).unread =
      v.bytes ++ (0 :: (r.bytes ++ rest)) := by
    show (v.bytes ++ [0]) ++ (r.bytes ++ rest) = _
    rw [List.append_assoc, List.singleton_append]
  have hrun := run_vncHandshake (sent (.noTypes v) r rest c)
  rw [run_bind_of (run_version _ _ _ hstream)] at hrun
  generalize (cleared (sent (.noTypes v) r rest c)).draw 12 = c₁ at hrun
  have hsecurity := run_security_refused { c₁ with unread := 0 :: (r.bytes ++ rest) } _ rfl
  simp only [run_bind_of hsecurity, Bool.false_eq_true, if_false, run_pure] at hrun
  obtain ⟨-, hsilent, -⟩ := run_readReason r { c₁ with unread := r.bytes ++ rest } rest rfl
  rw [← readReason_exact_iff r { c₁ with unread := r.bytes ++ rest } rest rfl]
  generalize readReason.run { c₁ with unread := r.bytes ++ rest } = o at hrun hsilent ⊢
  constructor
  · intro h
    have hconsumed := h.consumed
    have hreads := h.complete
    rw [hrun] at hconsumed hreads
    exact ⟨hconsumed, by simpa using hreads⟩
  · rintro ⟨hconsumed, hreads⟩
    constructor <;> rw [hrun]
    · rfl
    · exact hconsumed
    · simpa using hreads
    · simp [hsilent, Refusal.answered]

/-- A security result of 1: the reason stays on the stream. -/
theorem not_refusalRead_failed (types : List UInt8) (hlt : types.length < 256)
    (hnone : 1 ∈ types) (r : Reason) (rest : List UInt8) (c : Client) :
    ¬ RefusalRead (.failed types hlt hnone) r rest c := by
  intro h
  have hstream : (cleared (sent (.failed types hlt hnone) r rest c)).unread =
      RfbVersion.v38.bytes ++ (UInt8.ofNat types.length :: types ++
        ([0, 0, 0, 1] ++ (r.bytes ++ rest))) := by
    show (version38 ++ (UInt8.ofNat types.length :: types ++ [0, 0, 0, 1])) ++ (r.bytes ++ rest) = _
    simp only [List.append_assoc, List.cons_append]
    rfl
  have hconsumed := h.consumed
  rw [run_vncHandshake, run_bind_of (run_version _ _ _ hstream)] at hconsumed
  generalize (cleared (sent (.failed types hlt hnone) r rest c)).draw 12 = c₁ at hconsumed
  have hsecurity := run_security types hlt hnone
    { c₁ with
      unread := UInt8.ofNat types.length :: types ++ ([0, 0, 0, 1] ++ (r.bytes ++ rest)) } _ rfl
  simp only [run_bind_of hsecurity, if_true] at hconsumed
  generalize Client.draw _ types.length = c₂ at hconsumed
  have hresult := run_result_refused { c₂ with unread := [0, 0, 0, 1] ++ (r.bytes ++ rest) } _ rfl
  simp only [show RfbVersion.v38.digit = 8 from rfl, run_bind_of hresult] at hconsumed
  have hcount : (r.bytes ++ rest).length = rest.length := congrArg List.length hconsumed
  rw [List.length_append, Reason.length_bytes] at hcount
  omega

/-- **The refusal.**  It is read as the server sent it exactly when the server offers no
security types and the length of its reason is the same in both byte orders. -/
theorem refusal_read_iff (m : Refusal) (r : Reason) (rest : List UInt8) (c : Client) :
    RefusalRead m r rest c ↔ m.offersNothing = true ∧ Palindromic r.length := by
  cases m with
  | noTypes v => simp [refusalRead_noTypes_iff, Refusal.offersNothing]
  | failed types hlt hnone => simp [not_refusalRead_failed, Refusal.offersNothing]

/-- A reason of one byte. -/
theorem refusal_read_fails :
    ¬ ∀ (m : Refusal) (r : Reason) (rest : List UInt8) (c : Client), RefusalRead m r rest c := by
  intro h
  have hread := h (.noTypes .v38) ⟨1, ⟨[120], rfl⟩⟩ []
    ⟨⟨800, 480, Block.zero 12, Block.zero 28, 0⟩, [], .timeout, fun _ => 0⟩
  exact absurd hread.complete (by decide +kernel)

end MirrorLink.Analysis
