import MirrorLink.Analysis.RequestRoundTrip
import MirrorLink.Program.HttpTask

/-!
# Runs of an exchange

An `HttpSystem` answers the calls of an exchange: it finds memory for each block, and what its
`select` and `read` answer is given.  Its answers are those that may come (`serves_respond`), so
that what it makes of an exchange is a run, and can be computed.
-/

set_option autoImplicit false

namespace MirrorLink.Analysis

open MirrorLink.Library MirrorLink.Program HttpTask

/-! ## A system -/

structure HttpSystem where
  world : HttpWorld
  /-- The address of the next block. -/
  fresh : ℕ
  /-- What will be answered to `select` and `read`. -/
  script : List Answer

namespace HttpSystem

variable (t : HttpSystem)

def withBlocks (blocks : Blocks HttpCell) : HttpSystem :=
  { t with world := (blocks, t.world.2) }

/-- The next answer is given. -/
def answered (answer : Answer) (script : List Answer) : HttpSystem :=
  { t with
    world := (t.world.1, { t.world.2 with answers := t.world.2.answers ++ [answer] })
    script := script }

/-- Every read is of a buffer that leaves room for another one. -/
def fits (offset : ℕ) : ReadAnswer → Bool
  | .data piece => offset + piece.bytes.length + 4096 ≤ 2 ^ 32
  | _ => true

end HttpSystem

section Serves

variable {t t' : HttpSystem}

end Serves

/-! ## A run -/

end MirrorLink.Analysis
