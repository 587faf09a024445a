import MirrorLink.Interface.Reading

/-!
# Framebuffer updates, as the client answers them

`rectangleHeaders` is the sequence of rectangle headers that the loop over the rectangles
meets on a stream.  Between two headers lies what the client takes for the payload of the
first one, `payloadRead` bytes, which depends on the size of the framebuffer in force;
a Desktop Size rectangle changes that size for the rectangles after it.

`UpdateRequest` is the client's answer, and `UpdateRequest.decode` reads it back from its
ten bytes.
-/

set_option autoImplicit false

namespace MirrorLink.Program

open MirrorLink.Library

/-! ## The rectangles on the stream -/

/-- How many bytes of `u` the client takes for `n` lines of a Run Length rectangle. -/
def runLinesRead : ℕ → List UInt8 → ℕ
  | 0, _ => 0
  | n + 1, u =>
    let line := 2 + 3 * (be16 (u.getD 0 0) (u.getD 1 0)).toNat
    line + runLinesRead n (u.drop line)

/-- How many bytes of `u` the client takes for the payload of the rectangle with header
`buf`. -/
def payloadRead (s : VncSession) (buf u : List UInt8) : ℕ :=
  match rectangleEncoding buf with
  | .raw =>
    let w := rectangleField buf 4
    let h := rectangleField buf 6
    if (w = 0 ∨ h = 0) ∨ (rectangleField buf 0).toNat + w.toNat > s.rfbWidth.toNat ∨
        (rectangleField buf 2).toNat + h.toNat > s.rfbHeight.toNat then 0
    else rawLength w h
  | .contextInformation => 20
  | .desktopSize => 0
  | .runLength => runLinesRead s.rfbHeight.toNat u
  | .transform => 0
  | .unknown => 0

/-- The headers of the next `n` rectangles on the stream `u`, for a session in the state
`s`. -/
def rectangleHeaders : ℕ → VncSession → List UInt8 → List (List UInt8)
  | 0, _, _ => []
  | n + 1, s, u =>
    u.take 12 :: rectangleHeaders n (s.resizedBy (u.take 12))
      (u.drop (12 + payloadRead s (u.take 12) (u.drop 12)))

/-! ## The size they leave behind -/

/-- The header names the Desktop Size encoding. -/
def isDesktopSize (buf : List UInt8) : Bool := rectangleEncoding buf == .desktopSize

/-- The width and height of the last Desktop Size rectangle, or those of `s` if there is
none. -/
def sizeAfter (s : VncSession) (headers : List (List UInt8)) : UInt16 × UInt16 :=
  ((headers.filter isDesktopSize).getLast?.map fun buf =>
    (rectangleField buf 4, rectangleField buf 6)).getD (s.rfbWidth, s.rfbHeight)

/-! ## The answer -/

/-- A FramebufferUpdateRequest. -/
structure UpdateRequest where
  incremental : UInt8
  x : UInt16
  y : UInt16
  width : UInt16
  height : UInt16
  deriving DecidableEq, Repr

/-- The ten bytes of a FramebufferUpdateRequest: type 3, the incremental flag and four
big-endian fields. -/
def UpdateRequest.decode (bytes : List UInt8) : Option UpdateRequest :=
  if bytes.length = 10 ∧ bytes.getD 0 0 = 3 then
    some {
      incremental := bytes.getD 1 0
      x := be16 (bytes.getD 2 0) (bytes.getD 3 0)
      y := be16 (bytes.getD 4 0) (bytes.getD 5 0)
      width := be16 (bytes.getD 6 0) (bytes.getD 7 0)
      height := be16 (bytes.getD 8 0) (bytes.getD 9 0) }
  else none

end MirrorLink.Program
