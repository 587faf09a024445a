import MirrorLink.Analysis.TaskRuns
import MirrorLink.Library.Rounds

/-!
# The task refines the session

`vnc_session_task`, with every call it makes, against the session that the analysis of the
protocol is about.  Each function of the task follows the function of the session that has its
name, whatever blocks there are before, and leaves the blocks as they were; so the whole task
does (`follows_vncSessionTask`).

Two things follow.  The task is at peace with its memory, however it is answered
(`task_memory`).  And what it does over `select`, `read` and `write` is what the session does
with the bytes that have come (`task_refines`): the session takes a read that comes up short
for the end of the stream, so this needs that nothing comes after one (`Settled`), as is so
once the peer has closed the connection.
-/

set_option autoImplicit false

namespace MirrorLink.Analysis

open MirrorLink.Library MirrorLink.Program Effectful

variable {α : Type} {fd : ℤ} {h : Blocks (List UInt8)}

/-! ## Framebuffer updates -/

/-- A block that is allocated, read into and freed without being looked at. -/
theorem follows_readFreed (size : ℕ) {len : UInt32} {n : ℕ} (hn : len.toNat = n) (capacity : ℕ) :
    Follows fd h
      (VncTask.malloc size >>= fun a => VncTask.connReadAt a 0 len >>= fun _ => VncTask.free a)
      (connReadFreed capacity n) (Same h) := by
  refine follows_malloc fun a old ha _ => ?_
  refine follows_bind_pure (follows_connReadAt_freed Blocks.alloc_self 0 hn capacity) ?_
  rintro _ _ _ ⟨new, rfl⟩
  refine (follows_free_last (by simp)).mono ?_
  rintro _ _ _ rfl
  exact ⟨rfl, by rw [Blocks.alloc_alloc, Blocks.free_alloc ha]⟩

/-- The lines of an encoded rectangle follow the model. -/
theorem follows_framebufferRleParse :
    Follows fd h VncTask.framebufferRleParse framebufferRleParse (Same h) := by
  refine follows_bind follows_session ?_
  rintro s _ _ ⟨rfl, rfl⟩
  refine follows_repeatM (fun _ => ?_) _ _
  refine follows_bind (follows_indeterminate 2) ?_
  rintro buf _ _ ⟨rfl, rfl⟩
  refine follows_bind (follows_connRead buf 2) ?_
  rintro buf _ h ⟨rfl, rfl⟩
  have hm := (be16 (buf.getD 0 0) (buf.getD 1 0)).toNat_lt
  exact follows_readFreed _ (UInt32.toNat_ofNat_of_lt' (show _ < 2 ^ 32 by omega)) _

/-- So does a raw rectangle. -/
theorem follows_framebufferRaw (px py w k : UInt16) :
    Follows fd h (VncTask.framebufferRaw px py w k) (framebufferRaw px py w k) (Same h) := by
  refine follows_ite _ (fun _ => follows_pure ⟨rfl, rfl⟩) fun _ => ?_
  refine follows_bind follows_session ?_
  rintro s _ _ ⟨rfl, rfl⟩
  refine follows_ite _ (fun _ => follows_pure ⟨rfl, rfl⟩) fun _ => ?_
  refine follows_bind (follows_product _) ?_
  rintro _ _ h ⟨-, rfl⟩
  exact follows_readFreed _ rfl _

/-- So does every rectangle. -/
theorem follows_fbUpdateRectangle (l : UpdateLocals) :
    Follows fd h (VncTask.fbUpdateRectangle l) (fbUpdateRectangle l) (Same h) := by
  refine follows_bind (follows_connRead l.buf 12) ?_
  rintro buf _ _ ⟨rfl, rfl⟩
  dsimp only
  cases rectangleEncoding buf with
  | raw =>
    refine follows_bind (follows_framebufferRaw _ _ _ _) ?_
    rintro _ _ _ ⟨-, rfl⟩
    exact follows_pure ⟨rfl, rfl⟩
  | contextInformation =>
    refine follows_silent (fun _ _ => trivial) ?_
    rintro w info _ rfl ⟨-, rfl⟩
    refine ⟨rfl, rfl, ?_⟩
    refine follows_bind (follows_connRead_freed info 20 20) ?_
    rintro _ _ _ rfl
    exact follows_pure ⟨rfl, rfl⟩
  | desktopSize =>
    refine follows_bind (follows_assign _) ?_
    rintro _ _ _ ⟨-, rfl⟩
    exact follows_pure ⟨rfl, rfl⟩
  | runLength =>
    refine follows_bind follows_framebufferRleParse ?_
    rintro _ _ _ ⟨-, rfl⟩
    exact follows_pure ⟨rfl, rfl⟩
  | transform => exact follows_pure ⟨rfl, rfl⟩
  | unknown => exact follows_pure ⟨rfl, rfl⟩

/-- So does an update. -/
theorem follows_fbUpdateParse (num : UInt16) :
    Follows fd h (VncTask.fbUpdateParse num) (fbUpdateParse num) (Same h) := by
  refine follows_bind (follows_indeterminate 12) ?_
  rintro buf _ _ ⟨rfl, rfl⟩
  refine follows_bind (follows_repeatM follows_fbUpdateRectangle _ _) ?_
  rintro l _ _ ⟨rfl, rfl⟩
  cases l.fbUpdate with
  | false => exact follows_pure ⟨rfl, rfl⟩
  | true =>
    refine follows_bind follows_session ?_
    rintro s _ _ ⟨rfl, rfl⟩
    exact follows_connWrite _

/-! ## The other messages -/

/-- So does the display configuration. -/
theorem follows_serverDisplayConfiguration {a : ℕ} {bytes : List UInt8} (ha : h a = some bytes) :
    Follows fd h (VncTask.serverDisplayConfiguration a) (serverDisplayConfiguration bytes)
      (Same h) := by
  refine follows_bind follows_session ?_
  rintro s _ _ ⟨rfl, rfl⟩
  refine follows_ite _ (fun _ => follows_pure ⟨rfl, rfl⟩) fun _ => ?_
  refine follows_bind (follows_assign _) ?_
  rintro _ _ _ ⟨-, rfl⟩
  refine follows_load ha ?_
  refine follows_bind (follows_memcpyMember 12 bytes VncSession.copySdinfo) ?_
  rintro _ _ _ ⟨-, rfl⟩
  exact follows_connWrite _

/-- So does the event configuration. -/
theorem follows_serverEventConfiguration {a : ℕ} {bytes : List UInt8} (ha : h a = some bytes) :
    Follows fd h (VncTask.serverEventConfiguration a) (serverEventConfiguration bytes)
      (Same h) := by
  refine follows_bind follows_session ?_
  rintro s _ _ ⟨rfl, rfl⟩
  refine follows_ite _ (fun _ => follows_pure ⟨rfl, rfl⟩) fun _ => ?_
  refine follows_load ha ?_
  refine follows_bind (follows_memcpyMember 28 bytes VncSession.copySeinfo) ?_
  rintro _ _ _ ⟨-, rfl⟩
  refine follows_bind (follows_connWrite _) ?_
  rintro _ _ _ ⟨-, rfl⟩
  refine follows_bind (follows_assign _) ?_
  rintro _ _ _ ⟨-, rfl⟩
  refine follows_bind (follows_connWrite _) ?_
  rintro _ _ _ ⟨-, rfl⟩
  refine follows_bind follows_session ?_
  rintro s _ _ ⟨rfl, rfl⟩
  exact follows_connWrite _

/-- A block is freed, and the blocks are as they were before it was allocated. -/
theorem follows_freed {a : ℕ} {bytes : List UInt8} (ha : h a = none) (b : α) :
    Follows fd (h.alloc a bytes) (VncTask.free a >>= fun _ => pure b) (pure b : Session α)
      (Same h) := by
  refine follows_free (by simp) ?_
  rw [Blocks.free_alloc ha]
  exact follows_pure ⟨rfl, rfl⟩

/-- So does every extension. -/
theorem follows_exMessageParse (etype : UInt8) (len : UInt16) :
    Follows fd h (VncTask.exMessageParse etype len) (exMessageParse etype len) (Same h) := by
  have hlen : len.toUInt32.toNat = len.toNat := UInt16.toNat_toUInt32 len
  refine follows_calloc fun a ha => ?_
  refine follows_bind (follows_connReadAt Blocks.alloc_self 0 hlen) ?_
  rintro _ buf _ ⟨-, rfl⟩
  rw [Blocks.alloc_alloc, List.take_zero, List.nil_append]
  cases ExtensionType.ofByte etype with
  | byeBye =>
    refine follows_bind (follows_connWrite _) ?_
    rintro _ _ _ ⟨-, rfl⟩
    exact follows_freed ha false
  | serverDisplayConfiguration =>
    refine follows_bind (follows_serverDisplayConfiguration Blocks.alloc_self) ?_
    rintro _ _ _ ⟨-, rfl⟩
    exact follows_freed ha true
  | serverEventConfiguration =>
    refine follows_bind (follows_serverEventConfiguration Blocks.alloc_self) ?_
    rintro _ _ _ ⟨-, rfl⟩
    exact follows_freed ha true
  | _ => exact follows_freed ha true

/-- **So does a call of the loop.** -/
theorem follows_vncSessionDoworks :
    Follows fd h VncTask.vncSessionDoworks vncSessionDoworks (Same h) := by
  refine follows_bind (follows_connRead [0xff] 1) ?_
  rintro msgType _ _ ⟨rfl, rfl⟩
  cases MessageType.ofByte (msgType.getD 0 0) with
  | framebufferUpdate =>
    refine follows_bind (follows_connRead (List.replicate 3 0) 3) ?_
    rintro header _ _ ⟨rfl, rfl⟩
    refine follows_bind (follows_fbUpdateParse _) ?_
    rintro _ _ _ ⟨-, rfl⟩
    exact follows_pure ⟨rfl, rfl⟩
  | setColourMapEntries =>
    refine follows_bind (follows_connRead (List.replicate 6 0) 6) ?_
    rintro header _ h ⟨rfl, rfl⟩
    have hnum := (be16 (header.getD 4 0) (header.getD 5 0)).toNat_lt
    refine follows_calloc fun a ha => ?_
    have hlen := UInt32.toNat_ofNat_of_lt'
      (show (be16 (header.getD 4 0) (header.getD 5 0)).toNat * 6 < 2 ^ 32 by omega)
    refine follows_bind (follows_connReadAt_freed Blocks.alloc_self 0 hlen _) ?_
    rintro _ _ _ ⟨new, rfl⟩
    rw [Blocks.alloc_alloc]
    exact follows_freed ha true
  | bell => exact follows_pure ⟨rfl, rfl⟩
  | serverCutText =>
    refine follows_bind (follows_connRead (List.replicate 7 0) 7) ?_
    rintro header _ _ ⟨rfl, rfl⟩
    refine follows_bind (follows_readFreed _ rfl _) ?_
    rintro _ _ _ ⟨-, rfl⟩
    exact follows_pure ⟨rfl, rfl⟩
  | extension =>
    refine follows_bind (follows_connRead (List.replicate 3 0) 3) ?_
    rintro header _ _ ⟨rfl, rfl⟩
    exact follows_exMessageParse _ _
  | unknown => exact follows_pure ⟨rfl, rfl⟩

/-! ## The handshake -/

/-- The version follows the model. -/
theorem follows_protocolVersionHandshake :
    Follows fd h VncTask.protocolVersionHandshake protocolVersionHandshake (Same h) := by
  refine follows_bind (follows_indeterminate 12) ?_
  rintro buf _ _ ⟨rfl, rfl⟩
  refine follows_bind (follows_connRead buf 12) ?_
  rintro buf _ _ ⟨rfl, rfl⟩
  refine follows_ite _ (fun _ => follows_pure ⟨rfl, rfl⟩) fun _ => ?_
  refine follows_bind (follows_connWrite buf) ?_
  rintro _ _ _ ⟨-, rfl⟩
  exact follows_pure ⟨rfl, rfl⟩

/-- So does the reason of a refusal. -/
theorem follows_readReason : Follows fd h VncTask.readReason readReason (Same h) := by
  refine follows_bind (follows_indeterminate 4) ?_
  rintro n _ _ ⟨rfl, rfl⟩
  refine follows_bind (follows_connRead n 4) ?_
  rintro n _ _ ⟨rfl, rfl⟩
  exact follows_readFreed _ rfl _

/-- So does the choice of security. -/
theorem follows_securityHandshake :
    Follows fd h VncTask.securityHandshake securityHandshake (Same h) := by
  refine follows_bind (follows_connRead [0] 1) ?_
  rintro num _ h ⟨rfl, rfl⟩
  have hnum : (num.getD 0 0).toUInt32.toNat = (num.getD 0 0).toNat := UInt8.toNat_toUInt32 _
  refine follows_ite _ (fun _ => ?_) fun _ => ?_
  · refine follows_bind follows_readReason ?_
    rintro _ _ _ ⟨-, rfl⟩
    exact follows_pure ⟨rfl, rfl⟩
  · refine follows_malloc_drawn fun a old ha _ => ?_
    refine follows_bind (follows_connReadAt Blocks.alloc_self 0 hnum) ?_
    rintro _ buf _ ⟨-, rfl⟩
    rw [Blocks.alloc_alloc, List.take_zero, List.nil_append]
    refine follows_load Blocks.alloc_self (follows_free (by simp) ?_)
    rw [Blocks.free_alloc ha]
    refine follows_ite _ (fun _ => ?_) fun _ => follows_pure ⟨rfl, rfl⟩
    refine follows_bind (follows_connWrite _) ?_
    rintro _ _ _ ⟨-, rfl⟩
    exact follows_pure ⟨rfl, rfl⟩

/-- So does its result. -/
theorem follows_securityResultHandshake (version : UInt8) :
    Follows fd h (VncTask.securityResultHandshake version) (securityResultHandshake version)
      (Same h) := by
  refine follows_ite _ (fun _ => ?_) fun _ => follows_pure ⟨rfl, rfl⟩
  refine follows_bind (follows_indeterminate 4) ?_
  rintro r _ _ ⟨rfl, rfl⟩
  refine follows_bind (follows_connRead r 4) ?_
  rintro r _ _ ⟨rfl, rfl⟩
  refine follows_ite _ (fun _ => ?_) fun _ => ?_
  · refine follows_bind follows_readReason ?_
    rintro _ _ _ ⟨-, rfl⟩
    exact follows_pure ⟨rfl, rfl⟩
  · exact follows_ite _ (fun _ => follows_pure ⟨rfl, rfl⟩) fun _ => follows_pure ⟨rfl, rfl⟩

/-- A buffer that is the only block beside those in `h`. -/
structure HoldsBuffer (h : Blocks (List UInt8)) (b : VncTask.BlockBuffer) (B : Buffer)
    (h' : Blocks (List UInt8)) : Prop where
  fresh : h b.buf = none
  blocks : h' = h.alloc b.buf B.buf
  size : b.size.toNat = B.size
  len : b.len.toNat = B.len

/-- What `buffer_append` copies is what was in use, and the rest is zero. -/
theorem overlay_take_replicate (bytes : List UInt8) (n m : ℕ) (hn : n ≤ bytes.length) :
    overlay (bytes.take n) (List.replicate m 0) = bytes.take n ++ List.replicate (m - n) 0 := by
  rw [overlay, List.length_take, Nat.min_eq_left hn, List.drop_replicate]

/-- The buffer of the name grows as in the model. -/
theorem follows_bufferAppend {b : VncTask.BlockBuffer} {B : Buffer} {h₀ : Blocks (List UInt8)}
    (hb : HoldsBuffer h₀ b B h) (size : UInt32) :
    Follows fd h (VncTask.bufferAppend b size) (pure (B.append size.toNat) : Session Buffer)
      (fun b' B' h' => B' = B.append size.toNat ∧ HoldsBuffer h₀ b' B' h') := by
  obtain ⟨hfresh, rfl, hsize, hlen⟩ := hb
  have hsum : (size + b.len).toNat = (size.toNat + B.len) % 2 ^ 32 := by
    rw [UInt32.toNat_add, hlen]
  have hgrows : size + b.len > b.size ↔ (size.toNat + B.len) % 2 ^ 32 > B.size := by
    rw [← hsum, ← hsize]
    exact UInt32.lt_iff_toNat_lt
  unfold VncTask.bufferAppend
  by_cases hgrow : size + b.len > b.size
  · have hgrow' := hgrows.mp hgrow
    rw [if_pos hgrow]
    refine follows_calloc fun a ha => ?_
    have hne : a ≠ b.buf := by
      rintro rfl
      rw [Blocks.alloc_self] at ha
      cases ha
    rw [Blocks.alloc_of_ne hne] at ha
    refine follows_load (Blocks.alloc_of_ne (Ne.symm hne) |>.trans Blocks.alloc_self) ?_
    refine follows_memcpy Blocks.alloc_self (follows_free ?_ ?_)
    · rw [Blocks.alloc_alloc, Blocks.alloc_of_ne (Ne.symm hne), Blocks.alloc_self]
      exact Option.some_ne_none _
    · rw [Blocks.alloc_alloc, Blocks.free_alloc_of_ne hne, Blocks.free_alloc hfresh, hlen, hsum,
        overlay_take_replicate _ _ _ B.len_le]
      have hle := B.len_le
      refine follows_pure ⟨rfl, ha, ?_, ?_, ?_⟩
      · rw [Buffer.append, dif_pos hgrow']
      · rw [Buffer.append, dif_pos hgrow', hsum, Buffer.size, List.length_append,
          List.length_take, List.length_replicate]
        unfold Buffer.size at hgrow'
        omega
      · rw [Buffer.len_append, hlen]
  · rw [if_neg hgrow, Buffer.append, dif_neg (fun hgrow' => hgrow (hgrows.mpr hgrow'))]
    exact follows_pure ⟨rfl, hfresh, rfl, hsize, hlen⟩

/-- The first bytes of a buffer are still there when the rest has been read over. -/
theorem getD_take_append {bytes rest : List UInt8} {n i : ℕ} (hn : n ≤ bytes.length)
    (hi : i < n) : (bytes.take n ++ rest).getD i 0 = bytes.getD i 0 := by
  have hlen : i < (bytes.take n).length := by
    rw [List.length_take]
    omega
  rw [List.getD_eq_getElem?_getD, List.getElem?_append_left hlen, List.getElem?_take, if_pos hi,
    ← List.getD_eq_getElem?_getD]

/-- What the session does once there is room for the name. -/
def readName (len : UInt32) (B : Buffer) : Session Unit :=
  connRead (B.buf.drop 24) len.toNat >>= fun _ =>
    modifySession fun s => { s with
      rfbWidth := be16 (B.buf.getD 0 0) (B.buf.getD 1 0)
      rfbHeight := be16 (B.buf.getD 2 0) (B.buf.getD 3 0) }

/-- Initialisation up to the name, and the name. -/
theorem initializationMessages_eq :
    initializationMessages = (connWrite [0] >>= fun _ =>
      connRead (List.replicate 24 0) 24 >>= fun read =>
        readName (nameLength read) ((Buffer.full read).append (nameLength read).toNat)) := rfl

/-- The name follows the model. -/
theorem follows_readName {h₀ : Blocks (List UInt8)} {b : VncTask.BlockBuffer} {B : Buffer}
    (hb : HoldsBuffer h₀ b B h) (hlen : 24 ≤ B.buf.length) (len : UInt32) :
    Follows fd h (taskReadName len b) (readName len B) (Same h₀) := by
  obtain ⟨hfresh, rfl, -, -⟩ := hb
  refine follows_bind (follows_connReadAt Blocks.alloc_self 24 rfl) ?_
  rintro _ name _ ⟨-, rfl⟩
  refine follows_load Blocks.alloc_self ?_
  rw [Blocks.alloc_alloc, getD_take_append hlen (by omega), getD_take_append hlen (by omega),
    getD_take_append hlen (by omega), getD_take_append hlen (by omega)]
  refine follows_bind_pure (follows_assign _) ?_
  rintro _ _ _ ⟨-, rfl⟩
  refine (follows_free_last (by simp)).mono ?_
  rintro _ _ _ rfl
  exact ⟨rfl, Blocks.free_alloc hfresh⟩

/-- So does initialisation. -/
theorem follows_initializationMessages :
    Follows fd h VncTask.initializationMessages initializationMessages (Same h) := by
  rw [initializationMessages_eq, task_initializationMessages_eq]
  refine follows_bind (follows_connWrite [0]) ?_
  rintro _ _ h ⟨-, rfl⟩
  refine follows_calloc fun a ha => ?_
  refine follows_bind (follows_connReadAt Blocks.alloc_self 0 rfl) ?_
  rintro _ read _ ⟨hread, rfl⟩
  rw [Blocks.alloc_alloc, List.take_zero, List.nil_append]
  refine follows_load Blocks.alloc_self ?_
  have hlength : read.length = 24 := by
    rw [hread, List.drop_zero, List.length_replicate]
  have hb : HoldsBuffer h ⟨a, 24, 24⟩ (Buffer.full read) (h.alloc a read) :=
    ⟨ha, rfl, hlength.symm, hlength.symm⟩
  refine follows_bind_left (follows_bufferAppend hb (nameLength read)) ?_
  rintro b B _ ⟨hB, hholds⟩
  apply follows_readName hholds
  have hle := B.len_le
  rwa [hB, Buffer.len_append, Buffer.len_full, hlength, ← hB] at hle

/-- **So does the handshake.** -/
theorem follows_vncHandshake :
    Follows fd h VncTask.vncHandshake vncHandshake (Same h) := by
  refine follows_bind (follows_assign _) ?_
  rintro _ _ _ ⟨-, rfl⟩
  refine follows_bind follows_protocolVersionHandshake ?_
  rintro version _ _ ⟨rfl, rfl⟩
  cases version with
  | none => exact follows_pure ⟨rfl, rfl⟩
  | some version =>
    refine follows_bind follows_securityHandshake ?_
    rintro security _ _ ⟨rfl, rfl⟩
    cases security with
    | false => exact follows_pure ⟨rfl, rfl⟩
    | true =>
      refine follows_bind (follows_securityResultHandshake version) ?_
      rintro result _ _ ⟨rfl, rfl⟩
      cases result with
      | false => exact follows_pure ⟨rfl, rfl⟩
      | true =>
        refine follows_bind follows_initializationMessages ?_
        rintro _ _ _ ⟨-, rfl⟩
        refine follows_bind (follows_connWrite _) ?_
        rintro _ _ _ ⟨-, rfl⟩
        exact follows_pure ⟨rfl, rfl⟩

/-! ## The task -/

/-- So does a loop whose turns do. -/
theorem follows_whileM {x : VncTask Bool} {y : Session Bool} (hbody : Follows fd h x y (Same h))
    (n : ℕ) : Follows fd h (whileM x n) (whileM y n) (Same h) := by
  induction n with
  | zero => exact follows_pure ⟨rfl, rfl⟩
  | succ n ih =>
    refine follows_bind hbody ?_
    rintro more _ _ ⟨rfl, rfl⟩
    cases more with
    | false => exact follows_pure ⟨rfl, rfl⟩
    | true => exact ih

/-- The session with at most `n` calls of `vncSessionDoworks`; false if the task returns. -/
def sessionTask (n : ℕ) : Session Bool := do
  if ← vncHandshake then whileM vncSessionDoworks n
  else return false

/-- **So does the whole task.** -/
theorem follows_vncSessionTask (n : ℕ) :
    Follows fd h (VncTask.vncSessionTask n) (sessionTask n) (Same h) := by
  refine follows_bind follows_vncHandshake ?_
  rintro more _ _ ⟨rfl, rfl⟩
  cases more with
  | false => exact follows_pure ⟨rfl, rfl⟩
  | true => exact follows_whileM follows_vncSessionDoworks n

/-- **The memory of a task.**  Whatever the server sends, however `conn_read` and `conn_write`
come back and wherever `malloc` puts its blocks, a task uses no block that is not allocated and
frees none twice, and when it returns the blocks are those there were. -/
theorem task_memory (fd : ℤ) (n : ℕ) (w w' : VncWorld) (p : VncTask Bool)
    (hreach : (vncService fd).Reaches (VncTask.vncSessionTask n) w p w') :
    (∀ k next, p = .ask k next → k.Allowed w') ∧
      (∀ more, p = .done more → w'.blocks = w.blocks) := by
  have hsound := Service.ensures_iff.mp (follows_vncSessionTask n w rfl) p w' hreach
  constructor
  · rintro k next rfl
    exact hsound
  · rintro more rfl
    obtain ⟨_, _, _, ⟨-, hblocks⟩, -⟩ := hsound
    exact hblocks

/-- A block was allocated before the session of the sample, and stays; the text is read into a
block that is allocated. -/
theorem task_memory_of_session :
    (∃ next w', (vncService 5).Reaches (VncTask.vncSessionTask 3) (sampleWorld sampleBlocks)
        (.ask (.connReadAt 2 0 3) next) w' ∧ w'.blocks 2 ≠ none) ∧
      ∃ w', (vncService 5).Reaches (VncTask.vncSessionTask 3) (sampleWorld sampleBlocks)
        (.done false) w' ∧ w'.log = sampleLog ∧ w'.blocks = sampleBlocks := by
  have hone : sampleBlocks 1 = none := rfl
  have htwo : sampleBlocks 2 = none := rfl
  constructor
  · obtain ⟨next, w', hreach, -⟩ :=
      asks_sampleText 5 .byteByByte (fun _ => 7) hone htwo (by decide)
    exact ⟨next, w', hreach, (task_memory 5 3 (sampleWorld sampleBlocks) w' _ hreach).1 _ _ rfl⟩
  · have hreach := reaches_sampleLeft 5 .byteByByte (fun _ => 7) hone htwo (by decide)
    exact ⟨sampleLeft sampleBlocks, hreach, rfl,
      (task_memory 5 3 (sampleWorld sampleBlocks) _ _ hreach).2 false rfl⟩

/-! ## What the task does is what the session does -/

/-- Nothing comes any more once a read has come up short. -/
def Settled : List Traffic → Prop
  | [] => True
  | .read len bytes :: L => (bytes.length < len → ∀ e ∈ L, e.taken = []) ∧ Settled L
  | .write _ _ :: L => Settled L

/-- Reads that were all complete. -/
theorem settled_of_whole {L : List Traffic} (h : ∀ e ∈ L, e.Whole) : Settled L := by
  induction L with
  | nil => trivial
  | cons e L ih =>
    have hrest := ih fun e he => h e (List.mem_cons_of_mem _ he)
    cases e with
    | write data accepted => exact hrest
    | read len bytes =>
      have hlen : bytes.length = len := h _ List.mem_cons_self
      exact ⟨fun hshort => absurd hshort (by omega), hrest⟩

/-- What has been read is what the stream begins with. -/
theorem feeds_of_settled {L : List Traffic} {rest : List UInt8} (hsettled : Settled L)
    (hpossible : ∀ e ∈ L, e.Possible) (hrest : rest = [] ∨ ∀ e ∈ L, e.Whole) :
    Feeds (L.flatMap Traffic.taken ++ rest) L ∧
      (L.flatMap Traffic.taken ++ rest).drop (askedFor L) = rest := by
  induction L with
  | nil => exact ⟨trivial, rfl⟩
  | cons e L ih =>
    have hpossible' := fun e he => hpossible e (List.mem_cons_of_mem _ he)
    have hrest' : rest = [] ∨ ∀ e ∈ L, e.Whole :=
      hrest.imp_right fun h e he => h e (List.mem_cons_of_mem _ he)
    cases e with
    | write data accepted =>
      have hsum : askedFor (.write data accepted :: L) = askedFor L := Nat.zero_add _
      rw [hsum]
      exact ih hsettled hpossible' hrest'
    | read len bytes =>
      obtain ⟨hshort, hsettled⟩ := hsettled
      obtain ⟨hfeeds, hdrop⟩ := ih hsettled hpossible' hrest'
      have hle : bytes.length ≤ len := hpossible _ List.mem_cons_self
      have hsum : askedFor (.read len bytes :: L) = len + askedFor L := rfl
      rw [List.flatMap_cons, hsum, ← List.drop_drop, Feeds, Traffic.taken, List.append_assoc]
      rcases Nat.lt_or_eq_of_le hle with hlt | rfl
      · -- the stream has run out
        have hnil : L.flatMap Traffic.taken ++ rest = [] := by
          have hwhole : ¬ ∀ e ∈ Traffic.read len bytes :: L, e.Whole :=
            fun h => absurd (h _ List.mem_cons_self) (Nat.ne_of_lt hlt)
          rw [List.flatMap_eq_nil_iff.mpr (hshort hlt), hrest.resolve_right hwhole,
            List.append_nil]
        rw [hnil] at hfeeds hdrop ⊢
        rw [List.append_nil, List.take_of_length_le hle, List.drop_eq_nil_of_le hle]
        exact ⟨⟨rfl, hfeeds⟩, hdrop⟩
      · rw [List.take_left, List.drop_left]
        exact ⟨⟨rfl, hfeeds⟩, hdrop⟩

/-- The client that has been sent what was taken from the socket, and `rest`. -/
def suppliedClient (w : VncWorld) (L : List Traffic) (rest : List UInt8) (failure : ReadFailure)
    (residue : ℕ → UInt8) : Client :=
  ⟨w.session, L.flatMap Traffic.taken ++ rest, failure, residue⟩

/-- An array that is declared has what was found there. -/
theorem indeterminate_getD (c : Client) (found : List UInt8)
    (hresidue : c.residue = fun k => found.getD k 0) :
    c.indeterminate found.length = found := by
  apply List.ext_getElem
  · exact Client.length_indeterminate _ _
  · intro i h1 h2
    simp [Client.indeterminate, hresidue, h2]

/-- A task that has come to an end, or to its `n`-th message, has done what the session of a client
does that is fed what was taken from the socket. -/
theorem session_of_reaches {n : ℕ} {w w' : VncWorld} {more : Bool} (hlog : w.log = [])
    (hreach : (vncService fd).Reaches (VncTask.vncSessionTask n) w (.done more) w') :
    (∀ e ∈ w'.log, e.Possible) ∧ ∃ residue, ∀ stream failure, Feeds stream w'.log →
      let o := (sessionTask n).run ⟨w.session, stream, failure, residue⟩
      o.val = more ∧ o.state.session = w'.session ∧
        o.state.unread = stream.drop (askedFor w'.log) ∧ writes o.effects = messages w'.log ∧
          (Complete o.effects ↔ ∀ e ∈ w'.log, e.Whole) := by
  obtain ⟨b, L, found, ⟨rfl, -⟩, hL, hpossible, htracks⟩ :=
    Service.ensures_iff.mp (follows_vncSessionTask n w rfl) _ w' hreach
  rw [hlog, List.nil_append] at hL
  rw [← hL] at hpossible htracks
  refine ⟨hpossible, fun k => found.getD k 0, fun stream failure hfeeds => ?_⟩
  obtain ⟨es, hrun, hwrites, hcomplete⟩ :=
    htracks ⟨w.session, stream, failure, fun k => found.getD k 0⟩ rfl hfeeds
      (indeterminate_getD _ found rfl)
  simp only [hrun]
  exact ⟨trivial, rfl, rfl, hwrites, hcomplete⟩

/-- **The session is what the task does.**  If nothing comes any more after a read that came up
short, a task that has come to an end, or to its `n`-th message, has done what the session of a
client does that was sent the same bytes: it goes on if the session does, with the same members,
the same messages to write and the same bytes left to read. -/
theorem task_refines (fd : ℤ) (n : ℕ) (w w' : VncWorld) (more : Bool) (hlog : w.log = [])
    (hreach : (vncService fd).Reaches (VncTask.vncSessionTask n) w (.done more) w')
    (hsettled : Settled w'.log) :
    (∀ e ∈ w'.log, e.Possible) ∧ ∃ residue, ∀ rest failure,
      (rest = [] ∨ ∀ e ∈ w'.log, e.Whole) →
        let o := (sessionTask n).run (suppliedClient w w'.log rest failure residue)
        o.val = more ∧ o.state.session = w'.session ∧ o.state.unread = rest ∧
          writes o.effects = messages w'.log ∧
            (Complete o.effects ↔ ∀ e ∈ w'.log, e.Whole) := by
  obtain ⟨hpossible, residue, hsession⟩ := session_of_reaches hlog hreach
  refine ⟨hpossible, residue, fun rest failure hrest => ?_⟩
  obtain ⟨hfeeds, hdrop⟩ := feeds_of_settled hsettled hpossible hrest
  have hsame := hsession _ failure hfeeds
  rwa [hdrop] at hsame

/-- The session of the sample has written six messages, and leaves what was sent after it. -/
theorem task_refines_session :
    ∃ w', (vncService 5).Reaches (VncTask.vncSessionTask 3) (sampleWorld sampleBlocks)
        (.done false) w' ∧
      ∃ residue, let o := (sessionTask 3).run (suppliedClient (sampleWorld sampleBlocks) w'.log
          [1, 2] .endOfFile residue)
        o.val = false ∧ o.state.session = w'.session ∧ o.state.unread = [1, 2] ∧
          writes o.effects = [version38, [1], [0], setEncodings, byeByeMessage] := by
  have hreach := reaches_sampleLeft 5 .byteByByte (fun _ => 7) (h := sampleBlocks) (a := 1)
    (b := 2) rfl rfl (by decide)
  obtain ⟨-, residue, hresidue⟩ := task_refines 5 3 (sampleWorld sampleBlocks) _ false rfl
    hreach (settled_of_whole whole_sampleLog)
  obtain ⟨hval, hsession, hunread, hwrites, -⟩ :=
    hresidue [1, 2] .endOfFile (.inr whole_sampleLog)
  exact ⟨_, hreach, residue, hval, hsession, hunread, hwrites⟩

end MirrorLink.Analysis
