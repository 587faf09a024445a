import MirrorLink.Program.Session

/-!
# The messages of the server, and their bytes

What a server sends after the handshake, in the layout of RFB and of the MirrorLink
extension: framebuffer updates in the encodings the client advertises, and the four
messages that are not updates.  Every field whose length another field announces carries
the proof that it has that length, so that a message of these types is well formed.

`bytes` is the wire format.  It is stated here independently of the client, which is
compared with it in the analysis of the framing.
-/

set_option autoImplicit false

namespace MirrorLink.Program

open MirrorLink.Library

/-! ## Framebuffer updates -/

/-- One line of a Run Length rectangle: a run count and that many runs of three bytes. -/
structure RunLine where
  count : UInt16
  runs : Block (3 * count.toNat)

def RunLine.bytes (line : RunLine) : List UInt8 := be16Bytes line.count ++ line.runs.val

/-- What follows the header of a rectangle of width `w` and height `h`. -/
inductive RectangleBody (w h : UInt16) where
  | raw (pixels : Block (w.toNat * h.toNat * 2))
  | contextInformation (info : Block 20)
  | desktopSize
  | runLength (lines : List RunLine) (length_lines : lines.length = h.toNat)

/-- The encoding type: 0, -524, -223 or -525, as an unsigned word. -/
def RectangleBody.encodingType {w h : UInt16} : RectangleBody w h → UInt32
  | .raw _ => 0
  | .contextInformation _ => 0xfffffdf4
  | .desktopSize => 0xffffff21
  | .runLength _ _ => 0xfffffdf3

def RectangleBody.bytes {w h : UInt16} : RectangleBody w h → List UInt8
  | .raw pixels => pixels.val
  | .contextInformation info => info.val
  | .desktopSize => []
  | .runLength lines _ => lines.flatMap RunLine.bytes

structure Rectangle where
  x : UInt16
  y : UInt16
  w : UInt16
  h : UInt16
  body : RectangleBody w h

def Rectangle.header (r : Rectangle) : List UInt8 :=
  be16Bytes r.x ++ be16Bytes r.y ++ be16Bytes r.w ++ be16Bytes r.h ++
    be32Bytes r.body.encodingType

def Rectangle.bytes (r : Rectangle) : List UInt8 := r.header ++ r.body.bytes

structure FramebufferUpdate where
  padding : UInt8
  rectangles : List Rectangle
  count_lt : rectangles.length < 2 ^ 16

namespace FramebufferUpdate

def bytes (m : FramebufferUpdate) : List UInt8 :=
  0 :: m.padding :: (be16Bytes (UInt16.ofNat m.rectangles.length) ++
    m.rectangles.flatMap Rectangle.bytes)

/-- The update made of the first `k` rectangles. -/
def take (m : FramebufferUpdate) (k : ℕ) : FramebufferUpdate where
  padding := m.padding
  rectangles := m.rectangles.take k
  count_lt := by
    have := m.count_lt
    rw [List.length_take]
    omega

end FramebufferUpdate

/-! ## The other messages -/

/-- A message that is not a framebuffer update. -/
inductive ServerMessage where
  /-- Set Colour Map Entries: `count` colours of six bytes from `first` on. -/
  | setColourMapEntries (padding : UInt8) (first count : UInt16)
    (colours : Block (6 * count.toNat))
  | bell
  | serverCutText (padding : Block 3) (length : UInt32) (text : Block length.toNat)
  | extension (type : UInt8) (length : UInt16) (payload : Block length.toNat)

namespace ServerMessage

def bytes : ServerMessage → List UInt8
  | .setColourMapEntries padding first count colours =>
    1 :: padding :: (be16Bytes first ++ be16Bytes count ++ colours.val)
  | .bell => [2]
  | .serverCutText padding length text => 3 :: (padding.val ++ be32Bytes length ++ text.val)
  | .extension type length payload => 128 :: type :: (be16Bytes length ++ payload.val)

def isByeBye : ServerMessage → Bool
  | .extension type _ _ => type == 0
  | _ => false

def isColourMap : ServerMessage → Bool
  | .setColourMapEntries .. => true
  | _ => false

end ServerMessage

end MirrorLink.Program
