import MirrorLink.Program.VncSession

/-!
# What the loop is about to read

One call of `vncSessionDoworks` is determined by the state before it, and its reaction by
very little of that state: the message type, for an extension message the extension type
and the status, and for a framebuffer update whether some rectangle names an encoding the
client handles.  `Client.reading` is that classification.

All of it is read off the stream with the defaults of the code: a type byte that does not
come is `0xff` (`Client.typeByte`), any other header byte that does not come is 0
(`Client.byte`).  The rectangle headers of an update are read one over the other into the
same array (`headersFrom`), so that a header cut short keeps the tail of the one before
it, and the first one the tail of what happened to be in memory.
-/

set_option autoImplicit false

namespace MirrorLink.Program

open MirrorLink.Library

/-- The encodings that make `fb_update_parse` ask for the next update. -/
def Encoding.handled : Encoding → Bool
  | .raw | .contextInformation | .desktopSize | .runLength => true
  | .transform | .unknown => false

/-- The rectangle headers `fb_update_parse` reads from the stream `u` into an array that
holds `buf`, as long as no rectangle has a payload. -/
def headersFrom (buf u : List UInt8) : ℕ → List (List UInt8)
  | 0 => []
  | n + 1 => overlay (u.take 12) buf :: headersFrom (overlay (u.take 12) buf) (u.drop 12) n

/-- The locals after a rectangle with header `buf`. -/
def UpdateLocals.after (l : UpdateLocals) (buf : List UInt8) : UpdateLocals where
  fbUpdate := l.fbUpdate || (rectangleEncoding buf).handled
  inc := if rectangleEncoding buf = .desktopSize then 0 else l.inc
  buf := buf

/-- The session after a rectangle with header `buf`. -/
def VncSession.resizedBy (s : VncSession) (buf : List UInt8) : VncSession :=
  if rectangleEncoding buf = .desktopSize then
    { s with rfbWidth := rectangleField buf 4, rfbHeight := rectangleField buf 6 }
  else s

/-- What a message is to the client. -/
inductive Reading where
  /-- A framebuffer update. -/
  | update
  /-- An extension message of type 0. -/
  | byeBye
  /-- A Server Display Configuration that the client answers. -/
  | display
  /-- A Server Event Configuration that the client answers. -/
  | event
  /-- Anything else: read and dropped. -/
  | inert
  deriving DecidableEq, Repr

namespace Client

/-- The message type the next call sees. -/
def typeByte (c : Client) : UInt8 := c.unread.getD 0 0xff

/-- The byte at offset `i` of the next message, as a header holds it. -/
def byte (c : Client) (i : ℕ) : UInt8 := c.unread.getD i 0

/-- The message the next call sees. -/
def reading (c : Client) : Reading :=
  match MessageType.ofByte c.typeByte with
  | .framebufferUpdate => .update
  | .extension =>
    match ExtensionType.ofByte (c.byte 1) with
    | .byeBye => .byeBye
    | .serverDisplayConfiguration => if c.session.status = 0 then .display else .inert
    | .serverEventConfiguration => if c.session.status = 1 then .event else .inert
    | _ => .inert
  | _ => .inert

/-- The payload length of the next message, if it is an extension message. -/
def payloadLength (c : Client) : UInt16 := be16 (c.byte 2) (c.byte 3)

/-- The payload of the next message, if it is an extension message: the bytes that come,
in a zeroed block of the announced length. -/
def payload (c : Client) : List UInt8 :=
  overlay ((c.unread.drop 4).take c.payloadLength.toNat)
    (List.replicate c.payloadLength.toNat 0)

/-- The rectangle headers of the next message, if it is a framebuffer update, up to the
first one that names a handled encoding. -/
def updateHeaders (c : Client) : List (List UInt8) :=
  headersFrom (c.indeterminate 12) (c.unread.drop 4) (be16 (c.byte 2) (c.byte 3)).toNat

/-- Some rectangle of the next message, a framebuffer update, names an encoding the client
handles. -/
def namesHandled (c : Client) : Bool :=
  c.updateHeaders.any fun buf => (rectangleEncoding buf).handled

/-- A payload has its announced length. -/
@[simp] theorem length_payload (c : Client) :
    c.payload.length = c.payloadLength.toNat := by
  rw [payload, length_overlay]
  · simp
  · rw [List.length_take, List.length_replicate]
    exact Nat.min_le_left _ _

/-- With nothing left to read, the next call sees nothing it knows. -/
theorem reading_of_unread_nil (c : Client) (h : c.unread = []) : c.reading = .inert := by
  simp [reading, typeByte, h, MessageType.ofByte]

end Client

end MirrorLink.Program
