import MirrorLink.Program.VncCalls
import MirrorLink.Program.VncHandshake

/-!
# `CoreStack/vnc_session.c`, call by call

The same functions as in `VncSession` and `VncHandshake`, here with every allocation and every
call of `conn_read` and `conn_write` they make, in their order.  A block is known by its
address; what is in it has to be loaded.

The cases of the switches, the messages and the arithmetic are those of the two modules.
-/

set_option autoImplicit false

namespace MirrorLink.Program.VncTask

open MirrorLink.Library Interaction

/-- `conn_read(session->fd, buf, len)` into a local array. -/
def connRead (buf : List UInt8) (len : UInt32) : VncTask (List UInt8) :=
  call (VncCall.connRead buf len)

/-- `conn_read(session->fd, buf + offset, len)` into a block. -/
def connReadAt (a offset : ℕ) (len : UInt32) : VncTask Unit :=
  call (VncCall.connReadAt a offset len)

def connWrite (data : List UInt8) : VncTask Unit := call (VncCall.connWrite data)

def malloc (n : ℕ) : VncTask ℕ := call (VncCall.malloc n)

def calloc (n : ℕ) : VncTask ℕ := call (VncCall.calloc n)

def free (a : ℕ) : VncTask Unit := call (VncCall.free a)

def load (a : ℕ) : VncTask (List UInt8) := call (VncCall.load a)

def memcpy (a : ℕ) (bytes : List UInt8) : VncTask Unit := call (VncCall.memcpy a bytes)

def indeterminate (n : ℕ) : VncTask (List UInt8) := call (VncCall.indeterminate n)

def product (n : ℕ) : VncTask Unit := call (VncCall.product n)

def session : VncTask VncSession := call VncCall.session

def assign (f : VncSession → VncSession) : VncTask Unit := call (VncCall.assign f)

/-! ## `buffer.c` -/

/-- A `buffer` whose allocation is the block at `buf`. -/
structure BlockBuffer where
  buf : ℕ
  size : UInt32
  len : UInt32
  deriving DecidableEq, Repr

/-- `buffer_init`, for a size that is not 0. -/
def bufferInit (size : UInt32) : VncTask BlockBuffer := do
  let a ← calloc size.toNat
  return ⟨a, size, 0⟩

/-- `buffer_append` -/
def bufferAppend (b : BlockBuffer) (size : UInt32) : VncTask BlockBuffer :=
  if size + b.len > b.size then do
    let a ← calloc (size + b.len).toNat
    let old ← load b.buf
    memcpy a (old.take b.len.toNat)
    free b.buf
    return ⟨a, size + b.len, b.len⟩
  else return b

/-- `buffer_clear` -/
def bufferClear (b : BlockBuffer) : VncTask Unit := free b.buf

/-! ## Framebuffer updates -/

/-- `framebuffer_raw_parse` looks at nothing. -/
def framebufferRawParse (_fb : ℕ) (_len : UInt32) : VncTask Unit := return ()

/-- One pass of the loop of `framebuffer_rle_parse`. -/
def framebufferRleLine (_ : Unit) : VncTask Unit := do
  let buf ← indeterminate 2
  let buf ← connRead buf 2
  let m := be16 (buf.getD 0 0) (buf.getD 1 0)
  let fb ← malloc (3 * m.toNat)
  connReadAt fb 0 (UInt32.ofNat (3 * m.toNat))
  free fb

def framebufferRleParse : VncTask Unit := do
  let s ← session
  repeatM framebufferRleLine s.rfbHeight.toNat ()

/-- The Raw branch of `fb_update_parse`. -/
def framebufferRaw (px py w h : UInt16) : VncTask Unit :=
  if w = 0 ∨ h = 0 then pure ()
  else do
    let s ← session
    if px.toNat + w.toNat > s.rfbWidth.toNat ∨ py.toNat + h.toNat > s.rfbHeight.toNat then pure ()
    else do
      product (w.toNat * h.toNat * 2)
      let fb ← malloc (w.toNat * h.toNat * 2)
      connReadAt fb 0 (UInt32.ofNat (w.toNat * h.toNat * 2))
      framebufferRawParse fb (UInt32.ofNat (w.toNat * h.toNat * 2))
      free fb

/-- One pass of the loop of `fb_update_parse`. -/
def fbUpdateRectangle (l : UpdateLocals) : VncTask UpdateLocals := do
  let buf ← connRead l.buf 12
  let px := rectangleField buf 0
  let py := rectangleField buf 2
  let w := rectangleField buf 4
  let h := rectangleField buf 6
  match rectangleEncoding buf with
  | .raw => do
    framebufferRaw px py w h
    return { l with fbUpdate := true, buf := buf }
  | .contextInformation => do
    let info ← indeterminate 20
    let _info ← connRead info 20
    return { l with fbUpdate := true, buf := buf }
  | .desktopSize => do
    assign fun s => { s with rfbWidth := w, rfbHeight := h }
    return { fbUpdate := true, inc := 0, buf := buf }
  | .runLength => do
    framebufferRleParse
    return { l with fbUpdate := true, buf := buf }
  | .transform => return { l with buf := buf }
  | .unknown => return { l with buf := buf }

def fbUpdateParse (num : UInt16) : VncTask Unit := do
  let buf ← indeterminate 12
  let l ← repeatM fbUpdateRectangle num.toNat { fbUpdate := false, inc := 1, buf := buf }
  if l.fbUpdate then do
    let s ← session
    connWrite (framebufferUpdateRequest l.inc s.rfbWidth s.rfbHeight)
  else pure ()

/-! ## The other messages -/

def serverCutTextParse (len : UInt32) : VncTask Unit := do
  let buf ← malloc len.toNat
  connReadAt buf 0 len
  free buf

/-- What `ex_message_parse` does with a Server Display Configuration. -/
def serverDisplayConfiguration (buf : ℕ) : VncTask Unit := do
  let s ← session
  if s.status ≠ 0 then pure ()
  else do
    assign fun s => { s with status := 1 }
    let bytes ← load buf
    assign fun s => s.copySdinfo bytes
    connWrite clientDisplayConfiguration

/-- What `ex_message_parse` does with a Server Event Configuration. -/
def serverEventConfiguration (buf : ℕ) : VncTask Unit := do
  let s ← session
  if s.status ≠ 1 then pure ()
  else do
    let bytes ← load buf
    assign fun s => s.copySeinfo bytes
    connWrite clientEventConfiguration
    assign fun s => { s with status := 2 }
    connWrite setPixelFormat
    let s ← session
    connWrite (framebufferUpdateRequest 0 s.rfbWidth s.rfbHeight)

def exMessageParse (etype : UInt8) (len : UInt16) : VncTask Bool := do
  let buf ← calloc len.toNat
  connReadAt buf 0 len.toUInt32
  match ExtensionType.ofByte etype with
  | .byeBye => do
    connWrite byeByeMessage
    free buf
    return false
  | .serverDisplayConfiguration => do
    serverDisplayConfiguration buf
    free buf
    return true
  | .serverEventConfiguration => do
    serverEventConfiguration buf
    free buf
    return true
  | _ => do
    free buf
    return true

/-! ## One message -/

def vncSessionDoworks : VncTask Bool := do
  let msgType ← connRead [0xff] 1
  match MessageType.ofByte (msgType.getD 0 0) with
  | .framebufferUpdate => do
    let header ← connRead (List.replicate 3 0) 3
    let num := be16 (header.getD 1 0) (header.getD 2 0)
    fbUpdateParse num
    return true
  | .setColourMapEntries => do
    let header ← connRead (List.replicate 6 0) 6
    let num := be16 (header.getD 4 0) (header.getD 5 0)
    let dummy ← calloc num.toNat
    connReadAt dummy 0 (UInt32.ofNat (num.toNat * 6))
    free dummy
    return true
  | .bell => return true
  | .serverCutText => do
    let header ← connRead (List.replicate 7 0) 7
    let len := be32 (header.getD 3 0) (header.getD 4 0) (header.getD 5 0) (header.getD 6 0)
    serverCutTextParse len
    return true
  | .extension => do
    let header ← connRead (List.replicate 3 0) 3
    let len := be16 (header.getD 1 0) (header.getD 2 0)
    exMessageParse (header.getD 0 0) len
  | .unknown => return true

/-! ## The task -/

/-- Protocol Version Handshake -/
def protocolVersionHandshake : VncTask (Option UInt8) := do
  let buf ← indeterminate 12
  let buf ← connRead buf 12
  if buf ≠ version37 ∧ buf ≠ version38 then return none
  else do
    connWrite buf
    return some (buf.getD 10 0 - 48)

/-- Read a length in host order and that many bytes of a reason, and drop them. -/
def readReason : VncTask Unit := do
  let n ← indeterminate 4
  let n ← connRead n 4
  let n := le32 (n.getD 0 0) (n.getD 1 0) (n.getD 2 0) (n.getD 3 0)
  let buf ← malloc n.toNat
  connReadAt buf 0 n
  free buf

/-- Security Handshake -/
def securityHandshake : VncTask Bool := do
  let num ← connRead [0] 1
  let num := num.getD 0 0
  if num = 0 then do
    readReason
    return false
  else do
    let a ← malloc num.toNat
    connReadAt a 0 num.toUInt32
    let buf ← load a
    free a
    if securityFlag buf ≠ 0 then do
      connWrite [securityFlag buf]
      return true
    else return false

/-- Security Result Handshake -/
def securityResultHandshake (version : UInt8) : VncTask Bool :=
  if version = 8 then do
    let r ← indeterminate 4
    let r ← connRead r 4
    let r := le32 (r.getD 0 0) (r.getD 1 0) (r.getD 2 0) (r.getD 3 0)
    if r = 1 then do
      readReason
      return false
    else if r ≠ 0 then return false
    else return true
  else return true

/-- Initialization Messages -/
def initializationMessages : VncTask Unit := do
  connWrite [0]
  let buf ← bufferInit 24
  connReadAt buf.buf 0 24
  let buf : BlockBuffer := { buf with len := buf.len + 24 }
  let read ← load buf.buf
  let len := be32 (read.getD 20 0) (read.getD 21 0) (read.getD 22 0) (read.getD 23 0)
  let buf ← bufferAppend buf len
  connReadAt buf.buf 24 len
  let read ← load buf.buf
  assign fun s => { s with
    rfbWidth := be16 (read.getD 0 0) (read.getD 1 0)
    rfbHeight := be16 (read.getD 2 0) (read.getD 3 0) }
  bufferClear buf

/-- `vnc_session_task` up to the message loop; false if it has returned. -/
def vncHandshake : VncTask Bool := do
  assign fun s => { s with status := 0 }
  match ← protocolVersionHandshake with
  | none => return false
  | some version => do
    if ← securityHandshake then do
      if ← securityResultHandshake version then do
        initializationMessages
        connWrite setEncodings
        return true
      else return false
    else return false

/-- `vnc_session_task` with at most `n` calls of `vnc_session_doworks`; false if it has
returned. -/
def vncSessionTask (n : ℕ) : VncTask Bool := do
  if ← vncHandshake then whileM vncSessionDoworks n
  else return false

end MirrorLink.Program.VncTask
