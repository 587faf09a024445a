import MirrorLink.Analysis.Handshake
import MirrorLink.Analysis.TaskRules

/-!
# Runs of a task that go well

A `Cut` says in which pieces the bytes of a read arrive.  However they are cut, `conn_read` can
return with all of them, and `conn_write` can return when everything it was given has been
accepted.  So a task that is served by a `ServerHandshake` can come to its message loop, whatever
its memory holds and wherever `malloc` puts its blocks (`reaches_vncHandshake`), and what is proved
of every run of a task is proved of runs that there are.
-/

set_option autoImplicit false

namespace MirrorLink.Analysis

open MirrorLink.Library MirrorLink.Program

/-! ## Reads -/

/-- In which pieces some bytes arrive. -/
structure Cut where
  pieces : List UInt8 → List Piece
  bytes_pieces : ∀ bytes, bytes.length ≤ 0x7ffff000 → (pieces bytes).flatMap Piece.bytes = bytes

/-- All of them in one piece, if there are any. -/
def onePiece (bytes : List UInt8) : List Piece :=
  if h : bytes ≠ [] ∧ bytes.length ≤ 0x7ffff000 then [⟨bytes, h.1, h.2⟩] else []

/-- Everything that there is arrives in one piece. -/
theorem bytes_onePiece (bytes : List UInt8) (h : bytes.length ≤ 0x7ffff000) :
    (onePiece bytes).flatMap Piece.bytes = bytes := by
  by_cases hne : bytes = []
  · rw [onePiece, dif_neg (fun h => h.1 hne), hne]
    rfl
  · rw [onePiece, dif_pos ⟨hne, h⟩]
    exact List.append_nil bytes

def Cut.atOnce : Cut := ⟨onePiece, bytes_onePiece⟩

/-- One byte after the other. -/
def singlePieces (bytes : List UInt8) : List Piece := bytes.flatMap fun b => onePiece [b]

/-- No byte is lost on the way. -/
theorem bytes_singlePieces (bytes : List UInt8) :
    (singlePieces bytes).flatMap Piece.bytes = bytes := by
  induction bytes with
  | nil => rfl
  | cons b bytes ih =>
    rw [singlePieces, List.flatMap_cons, List.flatMap_append, bytes_onePiece [b] (by simp)]
    exact congrArg (b :: ·) ih

def Cut.byteByByte : Cut := ⟨singlePieces, fun bytes _ => bytes_singlePieces bytes⟩

/-- The answers to a read whose bytes arrive in some pieces, the socket ready before each. -/
def deliveries (fd : ℤ) (pieces : List Piece) : List SysAnswer :=
  pieces.flatMap fun piece => [.select (.ready {fd} ∅ ∅) ⟨0, 0⟩, .data piece]

/-- Where `conn_read` is between two pieces. -/
structure Awaits (fd : ℤ) (missing : ℕ) (s : Loop Moving) : Prop where
  fds : s.fds = {fd}
  missing : s.data.len.toNat = missing

/-- **The next piece** is taken, and the rest is waited for. -/
theorem Awaits.deliver {fd : ℤ} {missing : ℕ} {s : Loop Moving} (h : Awaits fd missing s)
    (piece : Piece) (hle : piece.bytes.length ≤ missing) :
    readTransfer.whileLoop s = .waiting (.inSelect s) ∧ ∃ turns t u,
      readTransfer.step fd (.inSelect s) (.select (.ready {fd} ∅ ∅) ⟨0, 0⟩) =
        .waiting (.inTransfer turns t) ∧
      t.data = s.data ∧
      readTransfer.step fd (.inTransfer turns t) (.data piece) = readTransfer.whileLoop u ∧
      Awaits fd (missing - piece.bytes.length) u := by
  have hpos := List.length_pos_of_ne_nil piece.ne_nil
  have hmissing := h.missing
  have hmore : s.data.len ≠ 0 := by
    rintro h0
    rw [h0] at hmissing
    change 0 = missing at hmissing
    omega
  refine ⟨if_pos (by simpa [readTransfer] using hmore), 0,
    { s with fds := {fd}, efds := ∅, timeout := s.timeout.map fun _ => ⟨0, 0⟩ },
    { fds := {fd}, efds := ∅, timeout := s.timeout.map fun _ => ⟨0, 0⟩
      data := ⟨s.data.r + UInt32.ofNat piece.bytes.length,
        s.data.len - UInt32.ofNat piece.bytes.length,
        storeAt s.data.buf s.data.r piece.bytes⟩ }, ?_, rfl, rfl, rfl, ?_⟩
  · simp [Transfer.selected, Transfer.forLoop, h.fds, readTransfer]
  · show (s.data.len - UInt32.ofNat piece.bytes.length).toNat = _
    rw [toNat_sub_ofNat (by omega), hmissing]

/-- The pieces are taken one after the other, and then `conn_read` returns 0. -/
theorem deliveries_returned {fd : ℤ} (pieces : List Piece) {s : Loop Moving}
    (h : Awaits fd (pieces.flatMap Piece.bytes).length s) :
    readTransfer.Permitted fd (readTransfer.whileLoop s) (deliveries fd pieces) ∧
      (∃ d, readTransfer.after fd (readTransfer.whileLoop s) (deliveries fd pieces) =
        .returned (.ok (0, d))) ∧
      (readTransfer.history fd (readTransfer.whileLoop s) (deliveries fd pieces)).flatMap
        bytesRead = pieces.flatMap Piece.bytes := by
  induction pieces generalizing s with
  | nil =>
    have hend : readTransfer.whileLoop s = .returned (.ok (0, s.data)) := by
      have hzero : s.data.len = 0 := UInt32.toNat_inj.mp h.missing
      exact if_neg (by simp [readTransfer, hzero])
    rw [hend]
    exact ⟨trivial, ⟨_, rfl⟩, rfl⟩
  | cons piece pieces ih =>
    rw [List.flatMap_cons, List.length_append] at h
    obtain ⟨hwaits, turns, t, u, hselect, hdata, hread, hu⟩ := h.deliver piece (by omega)
    rw [Nat.add_sub_cancel_left] at hu
    obtain ⟨hpermitted, ⟨d, hreturned⟩, hbytes⟩ := ih hu
    have hcount : piece.bytes.length ≤ t.data.len.toNat := by
      rw [hdata, h.missing]
      omega
    have hanswers : deliveries fd (piece :: pieces) =
        .select (.ready {fd} ∅ ∅) ⟨0, 0⟩ :: .data piece :: deliveries fd pieces := rfl
    rw [hanswers, hwaits]
    refine ⟨⟨trivial, ?_⟩, ⟨d, ?_⟩, ?_⟩
    · rw [hselect]
      refine ⟨hcount, ?_⟩
      rwa [hread]
    · rw [Transfer.after, goOn_waiting, hselect, goOn_waiting, hread]
      exact hreturned
    · rw [Transfer.history, exchanges_waiting, hselect, exchanges_waiting, hread,
        List.flatMap_cons, List.flatMap_cons, hbytes, List.flatMap_cons]
      rfl

/-- **A read that is delivered**, in whatever pieces. -/
theorem readRun_of_pieces {fd : ℤ} {len : UInt32} (pieces : List Piece) {bytes : List UInt8}
    (hbytes : pieces.flatMap Piece.bytes = bytes) (hlen : bytes.length = len.toNat)
    (buf : List UInt8) : ReadRun fd buf len bytes (overlay bytes buf) := by
  subst hbytes
  have hstart : Awaits fd (pieces.flatMap Piece.bytes).length
      { fds := insert fd (fdZero ∅), efds := insert fd (fdZero ∅)
        timeout := if len = 1 then none else some ⟨0, 0⟩
        data := (⟨0, len, buf⟩ : Moving) } := ⟨rfl, hlen.symm⟩
  obtain ⟨hpermitted, ⟨d, hreturned⟩, hread⟩ := deliveries_returned pieces hstart
  have hrun : ReadRun fd buf len (pieces.flatMap Piece.bytes) d.buf :=
    ⟨⟨∅, ∅, ⟨0, 0⟩⟩, deliveries fd pieces, 0, d, hpermitted, hreturned, hread.symm, rfl⟩
  have hfilled := (ReadRun.filled hrun).2
  rwa [hfilled] at hrun

/-! ## Writes -/

/-- Where `conn_write` is when the socket is ready for all of it. -/
def readyToWrite (fd : ℤ) (data : List UInt8) : Loop Moving :=
  { fds := {fd}, efds := ∅, timeout := none, data := ⟨0, UInt32.ofNat data.length, data⟩ }

/-- What it returns then. -/
def allWritten (data : List UInt8) : Result Moving :=
  .ok (0, ⟨0 + UInt32.ofNat data.length, UInt32.ofNat data.length - UInt32.ofNat data.length, data⟩)

/-- **A write that is accepted whole.** -/
theorem writeRun_whole (fd : ℤ) {data : List UInt8} (hne : data ≠ [])
    (hle : data.length ≤ 0x7ffff000) : WriteRun fd data data := by
  have hpos := List.length_pos_of_ne_nil hne
  have hlen : (UInt32.ofNat data.length).toNat = data.length :=
    UInt32.toNat_ofNat_of_lt' (show data.length < 2 ^ 32 by omega)
  have hmore : UInt32.ofNat data.length ≠ 0 := by
    intro h0
    rw [h0] at hlen
    change 0 = data.length at hlen
    omega
  have hwaits : connWriteFrom fd data (UInt32.ofNat data.length) =
      .waiting (.inSelect { readyToWrite fd data with efds := {fd} }) :=
    if_pos (by simpa [writeTransfer, readyToWrite] using hmore)
  have hselect : writeTransfer.step fd (.inSelect { readyToWrite fd data with efds := {fd} })
      (.select (.ready ∅ {fd} ∅) ⟨0, 0⟩) = .waiting (.inTransfer 0 (readyToWrite fd data)) := by
    simp [Transfer.selected, Transfer.forLoop, writeTransfer, readyToWrite]
  have hwrite : writeTransfer.step fd (.inTransfer 0 (readyToWrite fd data))
      (.accepted ⟨data.length, hpos, hle⟩) = .returned (allWritten data) :=
    if_neg (by simp [writeTransfer, readyToWrite])
  have hall : (data.drop 0).take (UInt32.ofNat data.length).toNat = data := by
    rw [hlen, List.drop_zero, List.take_length]
  refine ⟨[.select (.ready ∅ {fd} ∅) ⟨0, 0⟩, .accepted ⟨data.length, hpos, hle⟩], allWritten data,
    ?_, ?_, ?_⟩
  · rw [hwaits]
    refine ⟨trivial, ?_⟩
    rw [hselect]
    refine ⟨?_, allAllowed_nil _ _ _ _⟩
    show data.length ≤ ((data.drop 0).take (UInt32.ofNat data.length).toNat).length
    rw [hall]
  · rw [hwaits, Transfer.after, goOn_waiting, hselect, goOn_waiting, hwrite, goOn_nil]
  · rw [hwaits, Transfer.history, exchanges_waiting, hselect, exchanges_waiting, exchanges_nil]
    show data = ((data.drop 0).take (UInt32.ofNat data.length).toNat).take data.length ++ []
    rw [hall, List.take_length, List.append_nil]

/-! ## The calls of a task -/

section Calls

variable {fd : ℤ} {w : VncWorld}

/-- A read into a local array. -/
theorem reaches_connRead (cut : Cut) (buf : List UInt8) (len : UInt32) (bytes : List UInt8)
    (hlen : bytes.length = len.toNat) (hle : bytes.length ≤ 0x7ffff000) :
    (vncService fd).Reaches (VncTask.connRead buf len) w (.done (overlay bytes buf))
      (w.note (.read len.toNat bytes)) :=
  Service.reaches_call _
    ⟨bytes, readRun_of_pieces (cut.pieces bytes) (cut.bytes_pieces bytes hle) hlen buf, rfl⟩

/-- A read into a block. -/
theorem reaches_connReadAt (cut : Cut) {a : ℕ} (offset : ℕ) {old : List UInt8}
    (ha : w.blocks a = some old) (len : UInt32) (hfits : offset + len.toNat ≤ old.length)
    {bytes : List UInt8} (hlen : bytes.length = len.toNat) (hle : bytes.length ≤ 0x7ffff000) :
    (vncService fd).Reaches (VncTask.connReadAt a offset len) w (.done ())
      ((w.withBlocks (w.blocks.alloc a
        (old.take offset ++ overlay bytes (old.drop offset)))).note (.read len.toNat bytes)) :=
  Service.reaches_call _ ⟨old, bytes, _, ha, hfits, readRun_of_pieces (cut.pieces bytes)
    (cut.bytes_pieces bytes hle) hlen _, rfl⟩

/-- A write. -/
theorem reaches_connWrite {data : List UInt8} (hne : data ≠ []) (hle : data.length ≤ 0x7ffff000) :
    (vncService fd).Reaches (VncTask.connWrite data) w (.done ()) (w.note (.write data data)) :=
  Service.reaches_call _ ⟨data, writeRun_whole fd hne hle, rfl⟩

/-- A block that `malloc` gives, and what it holds. -/
theorem reaches_malloc {a n : ℕ} (bytes : List UInt8) (ha : w.blocks a = none)
    (hn : bytes.length = n) : (vncService fd).Reaches (VncTask.malloc n) w (.done a)
      (w.withBlocks (w.blocks.alloc a bytes)) :=
  Service.reaches_call _ ⟨ha, bytes, hn, rfl⟩

/-- A block that `calloc` gives. -/
theorem reaches_calloc {a : ℕ} (ha : w.blocks a = none) (n : ℕ) :
    (vncService fd).Reaches (VncTask.calloc n) w (.done a)
      (w.withBlocks (w.blocks.alloc a (List.replicate n 0))) :=
  Service.reaches_call _ ⟨ha, rfl⟩

/-- What a local array holds. -/
theorem reaches_indeterminate {n : ℕ} {bytes : List UInt8} (hn : bytes.length = n) :
    (vncService fd).Reaches (VncTask.indeterminate n) w (.done bytes) w :=
  Service.reaches_call _ ⟨hn, rfl⟩

/-- A block that is looked at. -/
theorem reaches_load {a : ℕ} (bytes : List UInt8) (ha : w.blocks a = some bytes) :
    (vncService fd).Reaches (VncTask.load a) w (.done bytes) w :=
  Service.reaches_call _ ⟨ha, rfl⟩

/-- A block that is copied to. -/
theorem reaches_memcpy {a : ℕ} {old bytes : List UInt8} (ha : w.blocks a = some old)
    (hfits : bytes.length ≤ old.length) : (vncService fd).Reaches (VncTask.memcpy a bytes) w
      (.done ()) (w.withBlocks (w.blocks.alloc a (overlay bytes old))) :=
  Service.reaches_call _ ⟨old, ha, hfits, rfl⟩

/-- A block that is freed. -/
theorem reaches_free (a : ℕ) :
    (vncService fd).Reaches (VncTask.free a) w (.done ()) (w.withBlocks (w.blocks.free a)) :=
  Service.reaches_call _ rfl

/-- The members of the session are assigned to. -/
theorem reaches_assign (f : VncSession → VncSession) :
    (vncService fd).Reaches (VncTask.assign f) w (.done ()) { w with session := f w.session } :=
  .answered () _ rfl (.here _ _)

/-- A read that fills a block. -/
theorem reaches_fill (cut : Cut) (len : UInt32) (bytes : List UInt8) {a : ℕ} {old : List UInt8}
    (ha : w.blocks a = some old) (hlen : bytes.length = len.toNat) (hold : old.length = len.toNat)
    (hle : bytes.length ≤ 0x7ffff000) : (vncService fd).Reaches (VncTask.connReadAt a 0 len) w
      (.done ()) ((w.withBlocks (w.blocks.alloc a bytes)).note (.read len.toNat bytes)) := by
  have hrun := @reaches_connReadAt fd _ cut _ 0 _ ha len (by omega) _ hlen hle
  rwa [List.drop_zero, overlay_of_length_le _ _ (by omega), List.take_zero,
    List.nil_append] at hrun

end Calls

/-! ## A handshake -/

/-- A world in which all this has gone over the connection. -/
def noteAll (w : VncWorld) (L : List Traffic) : VncWorld := L.foldl VncWorld.note w

/-- Traffic leaves the blocks. -/
@[simp] theorem blocks_noteAll (w : VncWorld) (L : List Traffic) :
    (noteAll w L).blocks = w.blocks := by
  induction L generalizing w with
  | nil => rfl
  | cons e L ih => exact ih (w.note e)

/-- Traffic leaves the session. -/
@[simp] theorem session_noteAll (w : VncWorld) (L : List Traffic) :
    (noteAll w L).session = w.session := by
  induction L generalizing w with
  | nil => rfl
  | cons e L ih => exact ih (w.note e)

/-- The traffic is noted behind what was there. -/
@[simp] theorem log_noteAll (w : VncWorld) (L : List Traffic) :
    (noteAll w L).log = w.log ++ L := by
  induction L generalizing w with
  | nil => exact (List.append_nil _).symm
  | cons e L ih =>
    refine (ih (w.note e)).trans ?_
    rw [VncWorld.log_note, List.append_assoc, List.singleton_append]

section Handshake

variable {fd : ℤ} {w : VncWorld}

/-- An end that is reached, by what is left there. -/
theorem reaches_end {α : Type} (a : α) {w' : VncWorld} (hblocks : w.blocks = w'.blocks)
    (hsession : w.session = w'.session) (hlog : w.log = w'.log) :
    (vncService fd).Reaches (pure a : VncTask α) w (.done a) w' :=
  (Service.Reaches.here _ _).to_eq (VncWorld.ext hblocks hsession hlog)

/-- The version is sent back. -/
theorem reaches_protocolVersionHandshake (cut : Cut) (v : RfbVersion) {found : List UInt8}
    (hfound : found.length = 12) : (vncService fd).Reaches VncTask.protocolVersionHandshake w
      (.done (some v.digit)) (noteAll w [.read 12 v.bytes, .write v.bytes v.bytes]) := by
  have hlen := v.length_bytes
  have hread : overlay v.bytes found = v.bytes := overlay_of_length_le _ _ (by omega)
  have hknown : ¬ (v.bytes ≠ version37 ∧ v.bytes ≠ version38) := by
    cases v <;> simp [RfbVersion.bytes]
  have hdigit : v.bytes.getD 10 0 - 48 = v.digit := by
    cases v <;> rfl
  refine (reaches_indeterminate hfound).bind ?_
  refine (reaches_connRead cut found 12 v.bytes hlen (by omega)).bind ?_
  rw [hread, if_neg hknown, hdigit]
  refine (reaches_connWrite ?_ (by omega)).bind (.here _ _)
  exact List.ne_nil_of_length_pos (by omega)

/-- None is chosen. -/
theorem reaches_securityHandshake (cut : Cut) {types : List UInt8} (hlt : types.length < 256)
    (hnone : 1 ∈ types) {a : ℕ} (ha : w.blocks a = none) :
    (vncService fd).Reaches VncTask.securityHandshake w (.done true)
      (noteAll w [.read 1 [UInt8.ofNat types.length], .read types.length types,
        .write [1] [1]]) := by
  have hpos := List.length_pos_of_mem hnone
  have hnum : (UInt8.ofNat types.length).toNat = types.length :=
    UInt8.toNat_ofNat_of_lt' hlt
  have hne : ¬ UInt8.ofNat types.length = 0 := by
    intro h0
    rw [h0] at hnum
    change 0 = types.length at hnum
    omega
  have hlen : types.length = (UInt8.ofNat types.length).toUInt32.toNat := by
    rw [UInt8.toNat_toUInt32, hnum]
  have hflag : securityFlag types = 1 := by rw [securityFlag_eq, if_pos hnone]
  refine (reaches_connRead cut [0] 1 [UInt8.ofNat types.length] rfl (by simp)).bind ?_
  have hread : (overlay [UInt8.ofNat types.length] [0]).getD 0 0 = UInt8.ofNat types.length := rfl
  dsimp only
  rw [hread, if_neg hne]
  refine (reaches_malloc (a := a) types ?_ hnum.symm).bind ?_
  · exact ha
  refine (reaches_fill cut _ types Blocks.alloc_self hlen hlen (by omega)).bind ?_
  refine (reaches_load _ Blocks.alloc_self).bind ((reaches_free a).bind ?_)
  rw [hflag, if_pos (by decide)]
  refine (reaches_connWrite (by simp) (by simp)).bind (reaches_end true ?_ rfl ?_)
  · simp [Blocks.free_alloc ha]
  · simp [hnum]

/-- The result is OK. -/
theorem reaches_securityResultHandshake (cut : Cut) (v : RfbVersion) {found : List UInt8}
    (hfound : found.length = 4) :
    (vncService fd).Reaches (VncTask.securityResultHandshake v.digit) w (.done true)
      (noteAll w (if v = .v38 then [.read 4 [0, 0, 0, 0]] else [])) := by
  cases v with
  | v37 => exact .here _ _
  | v38 =>
    have hread : overlay [0, 0, 0, 0] found = [0, 0, 0, 0] :=
      overlay_of_length_le _ _ hfound.le
    refine (reaches_indeterminate hfound).bind ?_
    refine (reaches_connRead cut found 4 [0, 0, 0, 0] rfl (by simp)).bind ?_
    rw [hread]
    exact .here _ _

/-- The length of the name, in the first 24 bytes. -/
def nameLength (read : List UInt8) : UInt32 :=
  be32 (read.getD 20 0) (read.getD 21 0) (read.getD 22 0) (read.getD 23 0)

/-- What the task does once there is room for the name. -/
def taskReadName (len : UInt32) (b : VncTask.BlockBuffer) : VncTask Unit := do
  VncTask.connReadAt b.buf 24 len
  let read ← VncTask.load b.buf
  VncTask.assign fun s => { s with
    rfbWidth := be16 (read.getD 0 0) (read.getD 1 0)
    rfbHeight := be16 (read.getD 2 0) (read.getD 3 0) }
  VncTask.bufferClear b

/-- Initialisation up to the name, and the name. -/
theorem task_initializationMessages_eq :
    VncTask.initializationMessages = (VncTask.connWrite [0] >>= fun _ =>
      VncTask.calloc 24 >>= fun a => VncTask.connReadAt a 0 24 >>= fun _ =>
        VncTask.load a >>= fun read =>
          VncTask.bufferAppend ⟨a, 24, 24⟩ (nameLength read) >>=
            taskReadName (nameLength read)) := rfl

/-- A buffer grows: its bytes are moved to a block with room for `size` more. -/
theorem reaches_bufferAppend {b : VncTask.BlockBuffer} (old : List UInt8)
    (hold : w.blocks b.buf = some old) (hlen : old.length = b.len.toNat) {size : UInt32}
    (hgrows : size + b.len > b.size) (hsum : (size + b.len).toNat = size.toNat + b.len.toNat)
    {a : ℕ} (ha : w.blocks a = none) :
    (vncService fd).Reaches (VncTask.bufferAppend b size) w (.done ⟨a, size + b.len, b.len⟩)
      (w.withBlocks ((w.blocks.alloc a (old ++ List.replicate size.toNat 0)).free b.buf)) := by
  have hne : b.buf ≠ a := by
    rintro h
    rw [h, ha] at hold
    cases hold
  have hall : old.take b.len.toNat = old := List.take_of_length_le hlen.le
  have hrest : overlay old (List.replicate (size + b.len).toNat 0) =
      old ++ List.replicate size.toNat 0 := by
    rw [overlay, List.drop_replicate, hsum, hlen, Nat.add_sub_cancel]
  rw [VncTask.bufferAppend, if_pos hgrows]
  refine (reaches_calloc ha _).bind ?_
  refine (reaches_load old ?_).bind ?_
  · exact (Blocks.alloc_of_ne hne).trans hold
  rw [hall]
  refine (reaches_memcpy Blocks.alloc_self ?_).bind ?_
  · rw [List.length_replicate, hsum, hlen]
    omega
  refine (reaches_free b.buf).bind (reaches_end _ ?_ rfl rfl)
  simp only [VncWorld.blocks_withBlocks, Blocks.alloc_alloc, hrest]

/-- The name is read, and the buffer is freed. -/
theorem reaches_taskReadName (cut : Cut) {b : VncTask.BlockBuffer} {m : ServerInit}
    (hb : w.blocks b.buf = some (m.header ++ List.replicate m.nameLength.toNat 0))
    (hle : m.nameLength.toNat ≤ 0x7ffff000) :
    (vncService fd).Reaches (taskReadName m.nameLength b) w (.done ())
      { (w.withBlocks (w.blocks.free b.buf)).note (.read m.nameLength.toNat m.name.val) with
        session := { w.session with rfbWidth := m.width, rfbHeight := m.height } } := by
  have hname := m.name.length_val
  have hheader := m.length_header
  have hwidth : be16 (m.header.getD 0 0) (m.header.getD 1 0) = m.width := be16_bytes m.width
  have hheight : be16 (m.header.getD 2 0) (m.header.getD 3 0) = m.height := be16_bytes m.height
  have hfront : (m.header ++ List.replicate m.nameLength.toNat 0).take 24 = m.header := by
    rw [List.take_append_of_le_length hheader.ge, List.take_of_length_le hheader.le]
  have hback : (m.header ++ List.replicate m.nameLength.toNat 0).drop 24 =
      List.replicate m.nameLength.toNat 0 := by
    rw [← hheader, List.drop_left]
  have hkeep : ∀ i < 24, (m.header ++ m.name.val).getD i 0 = m.header.getD i 0 := fun i hi =>
    List.getD_append _ _ _ _ (by omega)
  have hread := @reaches_connReadAt fd _ cut _ 24 _ hb m.nameLength (by simp) _ hname (by omega)
  rw [hfront, hback, overlay_of_length_le _ _ (by simp)] at hread
  refine hread.bind ((reaches_load _ Blocks.alloc_self).bind ?_)
  rw [hkeep 0 (by omega), hkeep 1 (by omega), hkeep 2 (by omega), hkeep 3 (by omega), hwidth,
    hheight]
  refine (reaches_assign _).bind ?_
  exact (reaches_free b.buf).to_eq (VncWorld.ext Blocks.free_alloc_self rfl rfl)

/-- ServerInit is read with its name. -/
theorem reaches_initializationMessages (cut : Cut) (m : ServerInit)
    (hpos : 0 < m.nameLength.toNat) (hle : m.nameLength.toNat ≤ 0x7ffff000) {a b : ℕ}
    (ha : w.blocks a = none) (hb : w.blocks b = none) (hab : a ≠ b) :
    (vncService fd).Reaches VncTask.initializationMessages w (.done ())
      { noteAll w [.write [0] [0], .read 24 m.header, .read m.nameLength.toNat m.name.val] with
        session := { w.session with rfbWidth := m.width, rfbHeight := m.height } } := by
  have hname := m.name.length_val
  have hsum : (m.nameLength + 24).toNat = m.nameLength.toNat + 24 := by
    rw [UInt32.toNat_add]
    exact Nat.mod_eq_of_lt (show m.nameLength.toNat + 24 < 2 ^ 32 by omega)
  have hgrows : m.nameLength + 24 > 24 := by
    rw [gt_iff_lt, UInt32.lt_iff_toNat_lt, hsum]
    show 24 < _
    omega
  have hold : m.header.take 24 = m.header := List.take_of_length_le m.length_header.le
  rw [task_initializationMessages_eq]
  refine (reaches_connWrite (by simp) (by simp)).bind ?_
  refine (reaches_calloc (a := a) ?_ 24).bind ?_
  · exact ha
  refine
    (reaches_fill cut 24 m.header Blocks.alloc_self m.length_header (by simp) (by simp)).bind ?_
  refine (reaches_load _ Blocks.alloc_self).bind ?_
  rw [nameLength, nameLength_header]
  refine (reaches_bufferAppend (b := ⟨a, 24, 24⟩) (a := b) m.header ?_ m.length_header
    hgrows hsum ?_).bind ?_
  · exact Blocks.alloc_self
  · simp [Blocks.alloc_of_ne hab.symm, hb]
  refine (reaches_taskReadName cut (b := ⟨b, m.nameLength + 24, 24⟩) (m := m) ?_ hle).to_eq
    (VncWorld.ext ?_ rfl ?_)
  · simp [Blocks.free_of_ne hab.symm]
  · simp only [VncWorld.blocks_withBlocks, VncWorld.blocks_note, blocks_noteAll,
      Blocks.alloc_alloc]
    rw [Blocks.free_alloc_of_ne hab.symm, Blocks.free_alloc ha, Blocks.free_alloc hb]
  · simp

/-- Everything that goes over the connection in a handshake. -/
def handshakeTraffic (m : ServerHandshake) : List Traffic :=
  [.read 12 m.version.bytes, .write m.version.bytes m.version.bytes] ++
    ([.read 1 [UInt8.ofNat m.types.length], .read m.types.length m.types, .write [1] [1]] ++
      ((if m.version = .v38 then [.read 4 [0, 0, 0, 0]] else []) ++
        ([.write [0] [0], .read 24 m.init.header,
            .read m.init.nameLength.toNat m.init.name.val] ++
          [.write setEncodings setEncodings])))

/-- What a handshake leaves: the blocks there were, and the size of the framebuffer. -/
def afterHandshake (w : VncWorld) (m : ServerHandshake) : VncWorld where
  blocks := w.blocks
  session := { w.session with status := 0, rfbWidth := m.init.width, rfbHeight := m.init.height }
  log := w.log ++ handshakeTraffic m

/-- **A server that keeps to the protocol** brings a task to its message loop. -/
theorem reaches_vncHandshake (cut : Cut) (m : ServerHandshake) (found : ℕ → UInt8)
    (hpos : 0 < m.init.nameLength.toNat) (hle : m.init.nameLength.toNat ≤ 0x7ffff000) {a b : ℕ}
    (ha : w.blocks a = none) (hb : w.blocks b = none) (hab : a ≠ b) :
    (vncService fd).Reaches VncTask.vncHandshake w (.done true) (afterHandshake w m) := by
  have hfound : ∀ n, ((List.range n).map found).length = n := by simp
  refine (reaches_assign _).bind ?_
  refine (reaches_protocolVersionHandshake cut m.version (hfound 12)).bind ?_
  refine (reaches_securityHandshake cut m.types_lt m.offers_none (a := a) ?_).bind ?_
  · rwa [blocks_noteAll]
  rw [if_pos rfl]
  refine (reaches_securityResultHandshake cut m.version (hfound 4)).bind ?_
  rw [if_pos rfl]
  refine (reaches_initializationMessages cut m.init hpos hle (a := a) (b := b) ?_ ?_ hab).bind ?_
  · simpa using ha
  · simpa using hb
  refine (reaches_connWrite (by decide) (by decide)).bind (reaches_end true ?_ ?_ ?_)
  · simp [afterHandshake]
  · simp [afterHandshake]
  · simp [afterHandshake, handshakeTraffic]

end Handshake

/-! ## Messages -/

section Messages

variable {fd : ℤ} {w : VncWorld}

/-- A text is read into a block and dropped. -/
theorem reaches_serverCutText (cut : Cut) (length : UInt32) (text : Block length.toNat)
    (hle : length.toNat ≤ 0x7ffff000) {a : ℕ} (ha : w.blocks a = none) :
    (vncService fd).Reaches VncTask.vncSessionDoworks w (.done true)
      (noteAll w [.read 1 [3], .read 7 ([0, 0, 0] ++ be32Bytes length),
        .read length.toNat text.val]) := by
  have htext := text.length_val
  have hlength : be32 (([0, 0, 0] ++ be32Bytes length).getD 3 0)
      (([0, 0, 0] ++ be32Bytes length).getD 4 0) (([0, 0, 0] ++ be32Bytes length).getD 5 0)
      (([0, 0, 0] ++ be32Bytes length).getD 6 0) = length := be32_bytes length
  refine (reaches_connRead cut [0xff] 1 [3] rfl (by simp)).bind ?_
  refine (reaches_connRead cut (List.replicate 7 0) 7 ([0, 0, 0] ++ be32Bytes length) rfl
    (by simp)).bind ?_
  have hread : overlay ([0, 0, 0] ++ be32Bytes length) (List.replicate 7 0) =
      [0, 0, 0] ++ be32Bytes length := overlay_of_length_le _ _ (by simp)
  rw [hread]
  show (vncService fd).Reaches (VncTask.serverCutTextParse (be32 _ _ _ _) >>= fun _ => _) _ _ _
  rw [hlength]
  refine Service.Reaches.bind (a := ())
    (((reaches_malloc (a := a) text.val ?_ htext).bind
      ((reaches_fill cut length text.val Blocks.alloc_self htext htext (by omega)).bind
        (reaches_free a))))
    (reaches_end true ?_ rfl ?_)
  · exact ha
  · simp [Blocks.free_alloc ha]
  · simp

/-- A ByeBye is read into a block and answered, and the loop is left. -/
theorem reaches_byeBye (cut : Cut) (length : UInt16) (payload : Block length.toNat) {a : ℕ}
    (ha : w.blocks a = none) :
    (vncService fd).Reaches VncTask.vncSessionDoworks w (.done false)
      (noteAll w [.read 1 [128], .read 3 ([0] ++ be16Bytes length),
        .read length.toNat payload.val, .write byeByeMessage byeByeMessage]) := by
  have hpayload := payload.length_val
  have hlt := length.toNat_lt
  have hwide : length.toUInt32.toNat = length.toNat := UInt16.toNat_toUInt32 length
  have hlength : be16 (([0] ++ be16Bytes length).getD 1 0)
      (([0] ++ be16Bytes length).getD 2 0) = length := be16_bytes length
  refine (reaches_connRead cut [0xff] 1 [128] rfl (by simp)).bind ?_
  refine (reaches_connRead cut (List.replicate 3 0) 3 ([0] ++ be16Bytes length) rfl
    (by simp)).bind ?_
  have hread : overlay ([0] ++ be16Bytes length) (List.replicate 3 0) =
      [0] ++ be16Bytes length := overlay_of_length_le _ _ (by simp)
  rw [hread]
  show (vncService fd).Reaches (VncTask.exMessageParse 0 (be16 _ _)) _ _ _
  rw [hlength]
  refine (reaches_calloc (a := a) ?_ length.toNat).bind ?_
  · exact ha
  refine (reaches_fill cut length.toUInt32 payload.val Blocks.alloc_self (by omega)
    (by simp [hwide]) (by omega)).bind ?_
  show (vncService fd).Reaches (VncTask.connWrite byeByeMessage >>= fun _ => _) _ _ _
  refine (reaches_connWrite (by decide) (by decide)).bind ?_
  refine (reaches_free a).bind (reaches_end false ?_ rfl ?_)
  · simp [Blocks.free_alloc ha]
  · simp [hwide]

end Messages

/-! ## A session -/

/-- A server with a desktop of 800 by 480 that is named `hi`. -/
def sampleHandshake : ServerHandshake where
  version := .v38
  types := [2, 1]
  types_lt := by decide
  offers_none := by decide
  init := ⟨800, 480, Block.zero 16, 2, ⟨ascii "hi", rfl⟩⟩

/-- After the handshake it sends a text, and then a ByeBye. -/
def sampleMessages : List Traffic :=
  [.read 1 [3], .read 7 ([0, 0, 0] ++ be32Bytes 3), .read 3 (ascii "abc"), .read 1 [128],
    .read 3 ([0] ++ be16Bytes 4), .read 4 [1, 2, 3, 4], .write byeByeMessage byeByeMessage]

def sampleLog : List Traffic := handshakeTraffic sampleHandshake ++ sampleMessages

/-- All reads of the sample are complete. -/
theorem whole_sampleLog : ∀ e ∈ sampleLog, e.Whole := by
  simp [sampleLog, sampleMessages, handshakeTraffic, sampleHandshake, Traffic.Whole,
    RfbVersion.length_bytes, ascii]

/-- One block, which is not the session's. -/
def sampleBlocks : Blocks (List UInt8) := fun a => if a = 0 then some [1, 2, 3] else none

/-- A task that is allocated these blocks before it begins. -/
def sampleWorld (h : Blocks (List UInt8)) : VncWorld :=
  ⟨h, ⟨0, 0, Block.zero 12, Block.zero 28, 0⟩, []⟩

/-- What it leaves. -/
def sampleLeft (h : Blocks (List UInt8)) : VncWorld :=
  ⟨h, ⟨800, 480, Block.zero 12, Block.zero 28, 0⟩, sampleLog⟩

/-- **A whole session**: over any socket, with any blocks allocated before, however the bytes are
cut, and whatever is found in memory. -/
theorem reaches_sampleLeft (fd : ℤ) (cut : Cut) (found : ℕ → UInt8) {h : Blocks (List UInt8)}
    {a b : ℕ} (ha : h a = none) (hb : h b = none) (hab : a ≠ b) :
    (vncService fd).Reaches (VncTask.vncSessionTask 3) (sampleWorld h) (.done false)
      (sampleLeft h) := by
  refine (reaches_vncHandshake cut sampleHandshake found (a := a) (b := b) (by decide) (by decide)
    ha hb hab).bind ?_
  rw [if_pos rfl]
  refine (reaches_serverCutText cut 3 ⟨ascii "abc", rfl⟩ (by decide) (a := b) hb).bind ?_
  rw [if_pos rfl]
  refine (reaches_byeBye cut 4 ⟨[1, 2, 3, 4], rfl⟩ (a := a) ?_).bind (reaches_end false ?_ ?_ ?_)
  · simpa [afterHandshake, sampleWorld] using ha
  · simp [afterHandshake, sampleWorld, sampleLeft]
  · simp [afterHandshake, sampleWorld, sampleLeft, sampleHandshake]
  · simp [afterHandshake, sampleWorld, sampleLeft, sampleLog, sampleMessages]

/-- The message loop when it is about to read a text of three bytes into its block. -/
theorem asks_text (fd : ℤ) (cut : Cut) {w : VncWorld} {a : ℕ} (ha : w.blocks a = none) (n : ℕ) :
    ∃ next w', (vncService fd).Reaches (whileM VncTask.vncSessionDoworks (n + 1)) w
      (.ask (.connReadAt a 0 3) next) w' ∧ w'.blocks = w.blocks.alloc a [9, 9, 9] := by
  have hread : ReadRun fd [0xff] 1 [3] [3] :=
    readRun_of_pieces (cut.pieces [3]) (cut.bytes_pieces [3] (by simp)) rfl [0xff]
  have hheader : ReadRun fd (List.replicate 7 0) 7 [0, 0, 0, 0, 0, 0, 3] [0, 0, 0, 0, 0, 0, 3] :=
    readRun_of_pieces (cut.pieces [0, 0, 0, 0, 0, 0, 3])
      (cut.bytes_pieces [0, 0, 0, 0, 0, 0, 3] (by simp)) rfl (List.replicate 7 0)
  exact ⟨_, _, .answered [3] _ ⟨[3], hread, rfl⟩ <|
    .answered [0, 0, 0, 0, 0, 0, 3] _ ⟨[0, 0, 0, 0, 0, 0, 3], hheader, rfl⟩ <|
    .answered a _ ⟨ha, [9, 9, 9], rfl, rfl⟩ <| .here _ _, rfl⟩

/-- The task of the sample when it is about to read its text. -/
theorem asks_sampleText (fd : ℤ) (cut : Cut) (found : ℕ → UInt8) {h : Blocks (List UInt8)}
    {a b : ℕ} (ha : h a = none) (hb : h b = none) (hab : a ≠ b) :
    ∃ next w', (vncService fd).Reaches (VncTask.vncSessionTask 3) (sampleWorld h)
      (.ask (.connReadAt b 0 3) next) w' ∧ w'.blocks = h.alloc b [9, 9, 9] := by
  have hhandshake := @reaches_vncHandshake fd (sampleWorld h) cut sampleHandshake found (by decide)
    (by decide) a b ha hb hab
  obtain ⟨next, w', hloop, hblocks⟩ :=
    asks_text fd cut (w := afterHandshake (sampleWorld h) sampleHandshake) hb 2
  exact ⟨next, w', hhandshake.bind hloop, hblocks⟩

end MirrorLink.Analysis
