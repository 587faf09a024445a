import MirrorLink.Interface.ServerHandshake

/-!
# How a server refuses a session

A server refuses by offering no security types, or in version 3.8 by a security result of 1;
either way it goes on with a reason, whose length is a big-endian word like all the others.
-/

set_option autoImplicit false

namespace MirrorLink.Program

open MirrorLink.Library

/-- The reason of a refusal: a text, preceded by its length. -/
structure Reason where
  length : UInt32
  text : Block length.toNat

def Reason.bytes (r : Reason) : List UInt8 := be32Bytes r.length ++ r.text.val

/-- A reason is its length and its text. -/
theorem Reason.length_bytes (r : Reason) : r.bytes.length = 4 + r.length.toNat := by
  rw [bytes, List.length_append, length_be32Bytes, Block.length_val]

inductive Refusal where
  /-- No security types. -/
  | noTypes (version : RfbVersion)
  /-- A security result of 1, in version 3.8, after None was among the security types. -/
  | failed (types : List UInt8) (types_lt : types.length < 256) (offers_none : 1 ∈ types)

/-- What comes before the reason. -/
def Refusal.bytes : Refusal → List UInt8
  | .noTypes version => version.bytes ++ [0]
  | .failed types _ _ => version38 ++ (UInt8.ofNat types.length :: types ++ [0, 0, 0, 1])

def Refusal.offersNothing : Refusal → Bool
  | .noTypes _ => true
  | .failed _ _ _ => false

/-- What the client has written by then. -/
def Refusal.answered : Refusal → List (List UInt8)
  | .noTypes version => [version.bytes]
  | .failed _ _ _ => [version38, [1]]

end MirrorLink.Program
