import MirrorLink.Program.VncHandshake

/-!
# What a server sends to open a session

The grammar of the handshake: a version, the security types with None among them, for
version 3.8 a security result of zero, and ServerInit with the name of the desktop.

Where the stream ends before that, a client goes on with what its arrays held
(`FindsHandshake`).
-/

set_option autoImplicit false

namespace MirrorLink.Program

open MirrorLink.Library

inductive RfbVersion where
  | v37
  | v38
  deriving DecidableEq, Repr

def RfbVersion.bytes : RfbVersion → List UInt8
  | .v37 => version37
  | .v38 => version38

/-- The last digit of the version. -/
def RfbVersion.digit : RfbVersion → UInt8
  | .v37 => 7
  | .v38 => 8

/-- The security result, where there is one: four bytes, zero for OK. -/
def RfbVersion.securityResult : RfbVersion → List UInt8
  | .v37 => []
  | .v38 => [0, 0, 0, 0]

structure ServerInit where
  width : UInt16
  height : UInt16
  pixelFormat : Block 16
  nameLength : UInt32
  name : Block nameLength.toNat

/-- ServerInit without the name. -/
def ServerInit.header (m : ServerInit) : List UInt8 :=
  be16Bytes m.width ++ be16Bytes m.height ++ m.pixelFormat.val ++ be32Bytes m.nameLength

def ServerInit.bytes (m : ServerInit) : List UInt8 := m.header ++ m.name.val

structure ServerHandshake where
  version : RfbVersion
  /-- The security types; 1 is None. -/
  types : List UInt8
  types_lt : types.length < 256
  offers_none : 1 ∈ types
  init : ServerInit

def ServerHandshake.bytes (m : ServerHandshake) : List UInt8 :=
  m.version.bytes ++ (UInt8.ofNat m.types.length :: m.types ++
    (m.version.securityResult ++ m.init.bytes))

/-- The header is 24 bytes. -/
@[simp] theorem ServerInit.length_header (m : ServerInit) : m.header.length = 24 := by
  simp [ServerInit.header]

/-- A version is twelve bytes. -/
theorem RfbVersion.length_bytes (v : RfbVersion) : v.bytes.length = 12 := by
  cases v <;> rfl

/-- The length of a handshake is that of its parts. -/
theorem ServerHandshake.length_bytes (m : ServerHandshake) :
    m.bytes.length = 12 + 1 + m.types.length + (if m.version = .v38 then 4 else 0) + 24 +
      m.init.nameLength.toNat := by
  have hversion := m.version.length_bytes
  have hresult : m.version.securityResult.length = if m.version = .v38 then 4 else 0 := by
    cases m.version <;> rfl
  simp only [ServerHandshake.bytes, ServerInit.bytes, List.length_append, List.length_cons,
    ServerInit.length_header, Block.length_val, hversion, hresult]
  omega

/-! ## Streams that may end before -/

/-- What an uninitialised array of `n` bytes holds after a read of so many. -/
def Client.fetched (c : Client) (n : ℕ) : List UInt8 :=
  overlay (c.unread.take n) (c.indeterminate n)

/-- The client after that. -/
def Client.afterFetch (c : Client) (n : ℕ) : Client := (c.draw n).skip n

/-- The client finds a version it knows, None among the security types, and with version 3.8
a security result of zero. -/
def FindsHandshake (c : Client) : Prop :=
  ∃ v : RfbVersion, c.fetched 12 = v.bytes ∧
    let num := ((c.afterFetch 12).unread.headD 0).toNat
    let types := (c.afterFetch 12).skip 1
    1 ∈ types.fetched num ∧ (v = .v38 → (types.afterFetch num).fetched 4 = [0, 0, 0, 0])

end MirrorLink.Program
