import MirrorLink.Program.Session

/-!
# The message loop of `CoreStack/vnc_session.c`

`vncSessionDoworks` reads one message of the server and reacts to it; the client calls it
until it returns 0.  The functions below follow the source function by function.  Every
header is read into a zeroed local array, so that the bytes of a header cut short are
zero; the rectangle header of `fbUpdateParse` and the run count of `framebufferRleParse`
are read into arrays that nobody initialised.

Lengths are computed as the C types compute them.  Only one product can leave its type:
`w * h * 2` is an `int`, so for a rectangle of 2^30 pixels or more the multiplication
overflows, which C leaves undefined; `intProduct` records it, and `rawLength` goes on with
the two's complement value.
-/

set_option autoImplicit false

namespace MirrorLink.Program

open MirrorLink.Library Effectful

/-! ## The codes the server uses -/

/-- The cases of the switch on the message type. -/
inductive MessageType where
  | framebufferUpdate
  | setColourMapEntries
  | bell
  | serverCutText
  | extension
  | unknown
  deriving DecidableEq, Repr

def MessageType.ofByte (b : UInt8) : MessageType :=
  if b = 0 then .framebufferUpdate
  else if b = 1 then .setColourMapEntries
  else if b = 2 then .bell
  else if b = 3 then .serverCutText
  else if b = 128 then .extension
  else .unknown

/-- The cases of the switch on the extension type. -/
inductive ExtensionType where
  | byeBye
  | serverDisplayConfiguration
  | serverEventConfiguration
  | eventMapping
  | keyEventListing
  | virtualKeyboardTrigger
  | deviceStatus
  | contentAttestationResponse
  | framebufferAlternativeText
  | unknown
  deriving DecidableEq, Repr

def ExtensionType.ofByte (b : UInt8) : ExtensionType :=
  if b = 0 then .byeBye
  else if b = 1 then .serverDisplayConfiguration
  else if b = 3 then .serverEventConfiguration
  else if b = 5 then .eventMapping
  else if b = 7 then .keyEventListing
  else if b = 9 then .virtualKeyboardTrigger
  else if b = 11 then .deviceStatus
  else if b = 13 then .contentAttestationResponse
  else if b = 21 then .framebufferAlternativeText
  else .unknown

/-- The cases of the switch on the encoding of a rectangle. -/
inductive Encoding where
  | raw
  | contextInformation
  | desktopSize
  | runLength
  | transform
  | unknown
  deriving DecidableEq, Repr

def Encoding.ofType (etype : Int32) : Encoding :=
  if etype = 0 then .raw
  else if etype = -524 then .contextInformation
  else if etype = -223 then .desktopSize
  else if etype = -525 then .runLength
  else if etype = -526 then .transform
  else .unknown

/-! ## The messages the client writes -/

/-- The answer to a ByeBye. -/
def byeByeMessage : List UInt8 := [0x80, 0x00, 0x00, 0x00]

/-- Client Display Configuration: an 800x480 display. -/
def clientDisplayConfiguration : List UInt8 :=
  [128, 2, 0, 22, 1, 1, 0, 0, ((800 : UInt16) >>> 8).toUInt8, (800 &&& 0xff : UInt16).toUInt8,
    ((480 : UInt16) >>> 8).toUInt8, (480 &&& 0xff : UInt16).toUInt8, 0, 0, 0, 0, 0, 0, 0, 1,
    0, 0, 0, 0, 0, 1]

/-- Client Event Configuration. -/
def clientEventConfiguration : List UInt8 :=
  [128, 4, 0, 28, 0, 0, 0, 0, 0, 0, 0, 0, 0, 0, 0, 0, 0, 0, 0, 0, 0, 0, 0, 0, 0, 0, 0, 0,
    0, 0, 1, 1]

/-- Set Pixel Format: RGB 565. -/
def setPixelFormat : List UInt8 :=
  [0, 0, 0, 0, 16, 16, 1, 1, 0, 31, 0, 63, 0, 31, 11, 5, 0, 0, 0, 0]

/-- A FramebufferUpdateRequest for the whole framebuffer. -/
def framebufferUpdateRequest (inc : UInt8) (w h : UInt16) : List UInt8 :=
  [3, inc, 0, 0, 0, 0, (w >>> 8).toUInt8, (w &&& 0xff).toUInt8, (h >>> 8).toUInt8,
    (h &&& 0xff).toUInt8]

/-! ## Framebuffer updates -/

/-- Note that a product of `int`s with the mathematical value `n` leaves the type. -/
def intProduct (n : ℕ) : Session Unit :=
  if n < 2 ^ 31 then pure () else emit .signedOverflow

/-- `w * h * 2`, as the `uint32_t` that `conn_read` receives. -/
def rawLength (w h : UInt16) : ℕ := w.toNat * h.toNat * 2 % 2 ^ 32

/-- One pass of the loop of `framebuffer_rle_parse`. -/
def framebufferRleLine (_ : Unit) : Session Unit := do
  let buf ← uninitialised 2
  let buf ← connRead buf 2
  let m := be16 (buf.getD 0 0) (buf.getD 1 0)
  connReadFreed (3 * m.toNat) (3 * m.toNat)

def framebufferRleParse : Session Unit := do
  let session ← gets Client.session
  repeatM framebufferRleLine session.rfbHeight.toNat ()

/-- The locals of `fb_update_parse` that live across rectangles. -/
structure UpdateLocals where
  fbUpdate : Bool
  inc : UInt8
  buf : List UInt8

/-- The 16-bit field of a rectangle header at offset `i`. -/
def rectangleField (buf : List UInt8) (i : ℕ) : UInt16 :=
  be16 (buf.getD i 0) (buf.getD (i + 1) 0)

/-- The encoding a rectangle header names. -/
def rectangleEncoding (buf : List UInt8) : Encoding :=
  Encoding.ofType (be32 (buf.getD 8 0) (buf.getD 9 0) (buf.getD 10 0) (buf.getD 11 0)).toInt32

/-- The Raw branch of `fb_update_parse`. -/
def framebufferRaw (px py w h : UInt16) : Session Unit :=
  if w = 0 ∨ h = 0 then pure ()
  else do
    let session ← gets Client.session
    if px.toNat + w.toNat > session.rfbWidth.toNat ∨
        py.toNat + h.toNat > session.rfbHeight.toNat then
      pure ()
    else do
      intProduct (w.toNat * h.toNat * 2)
      connReadFreed (rawLength w h) (rawLength w h)

/-- One pass of the loop of `fb_update_parse`. -/
def fbUpdateRectangle (l : UpdateLocals) : Session UpdateLocals := do
  let buf ← connRead l.buf 12
  let px := rectangleField buf 0
  let py := rectangleField buf 2
  let w := rectangleField buf 4
  let h := rectangleField buf 6
  match rectangleEncoding buf with
  | .raw => do
    framebufferRaw px py w h
    return { l with fbUpdate := true, buf := buf }
  | .contextInformation => do
    connReadFreed 20 20
    return { l with fbUpdate := true, buf := buf }
  | .desktopSize => do
    modifySession fun s => { s with rfbWidth := w, rfbHeight := h }
    return { fbUpdate := true, inc := 0, buf := buf }
  | .runLength => do
    framebufferRleParse
    return { l with fbUpdate := true, buf := buf }
  | .transform => return { l with buf := buf }
  | .unknown => return { l with buf := buf }

def fbUpdateParse (num : UInt16) : Session Unit := do
  let buf ← uninitialised 12
  let l ← repeatM fbUpdateRectangle num.toNat { fbUpdate := false, inc := 1, buf := buf }
  if l.fbUpdate then do
    let session ← gets Client.session
    connWrite (framebufferUpdateRequest l.inc session.rfbWidth session.rfbHeight)
  else pure ()

/-! ## The other messages -/

def serverCutTextParse (len : UInt32) : Session Unit := connReadFreed len.toNat len.toNat

/-- What `ex_message_parse` does with a Server Display Configuration. -/
def serverDisplayConfiguration (buf : List UInt8) : Session Unit := do
  let session ← gets Client.session
  if session.status ≠ 0 then pure ()
  else do
    modifySession fun s => { s with status := 1 }
    memcpyMember 12 buf VncSession.copySdinfo
    connWrite clientDisplayConfiguration

/-- What `ex_message_parse` does with a Server Event Configuration. -/
def serverEventConfiguration (buf : List UInt8) : Session Unit := do
  let session ← gets Client.session
  if session.status ≠ 1 then pure ()
  else do
    memcpyMember 28 buf VncSession.copySeinfo
    connWrite clientEventConfiguration
    modifySession fun s => { s with status := 2 }
    connWrite setPixelFormat
    let session ← gets Client.session
    connWrite (framebufferUpdateRequest 0 session.rfbWidth session.rfbHeight)

def exMessageParse (etype : UInt8) (len : UInt16) : Session Bool := do
  let buf ← connRead (List.replicate len.toNat 0) len.toNat
  match ExtensionType.ofByte etype with
  | .byeBye => do
    connWrite byeByeMessage
    return false
  | .serverDisplayConfiguration => do
    serverDisplayConfiguration buf
    return true
  | .serverEventConfiguration => do
    serverEventConfiguration buf
    return true
  | .eventMapping => return true
  | .keyEventListing => return true
  | .virtualKeyboardTrigger => return true
  | .deviceStatus => return true
  | .contentAttestationResponse => return true
  | .framebufferAlternativeText => return true
  | .unknown => return true

/-! ## One message -/

def vncSessionDoworks : Session Bool := do
  let msgType ← connRead [0xff] 1
  match MessageType.ofByte (msgType.getD 0 0) with
  | .framebufferUpdate => do
    let header ← connRead (List.replicate 3 0) 3
    let num := be16 (header.getD 1 0) (header.getD 2 0)
    fbUpdateParse num
    return true
  | .setColourMapEntries => do
    let header ← connRead (List.replicate 6 0) 6
    let num := be16 (header.getD 4 0) (header.getD 5 0)
    -- `calloc(1, num)`, but `num * 6` bytes are read into it
    connReadFreed num.toNat (num.toNat * 6)
    return true
  | .bell => return true
  | .serverCutText => do
    let header ← connRead (List.replicate 7 0) 7
    let len := be32 (header.getD 3 0) (header.getD 4 0) (header.getD 5 0) (header.getD 6 0)
    serverCutTextParse len
    return true
  | .extension => do
    let header ← connRead (List.replicate 3 0) 3
    let len := be16 (header.getD 1 0) (header.getD 2 0)
    exMessageParse (header.getD 0 0) len
  | .unknown => return true

end MirrorLink.Program
