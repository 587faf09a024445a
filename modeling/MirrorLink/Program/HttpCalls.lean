import MirrorLink.Library.Ownership
import MirrorLink.Program.HttpClient

/-!
# What the HTTP client calls

Every use that `str.c`, `buffer.c`, `http_client.c` and `conn_read_all` make of memory and of
the system is an `HttpCall`.  `HttpCall.Allowed` says when one is defined: a text is read that
ends inside its block, what is stored fits, nothing is freed twice, and a descriptor is used
while it is open.  `HttpCall.Served` says what may come back.

`malloc` finds memory, and no response has 4 GiB.
-/

set_option autoImplicit false

namespace MirrorLink.Program

open MirrorLink.Library

/-! ## Memory -/

/-- `http_req`: the addresses of its members, if they are not null. -/
structure ReqMembers where
  method : Option ℕ
  path : Option ℕ
  header : Option ℕ
  body : Option ℕ
  deriving DecidableEq, Repr

/-- `http_rsp` -/
structure RspMembers where
  errcode : UInt16
  body : Option ℕ
  deriving DecidableEq, Repr

/-- What is in a block. -/
inductive HttpCell where
  /-- A `str_t`, or the bytes of a `buffer`. -/
  | bytes (contents : List UInt8)
  | req (members : ReqMembers)
  | rsp (members : RspMembers)
  deriving DecidableEq, Repr

/-- What a client has outside its memory. -/
structure HttpIo where
  /-- The descriptors that are open. -/
  descriptors : List ℤ
  /-- What was handed to `conn_write`, oldest first. -/
  written : List (List UInt8)
  /-- What `conn_read_all` was answered, oldest first. -/
  answers : List Answer

/-- What a client works on. -/
abbrev HttpWorld : Type := Blocks HttpCell × HttpIo

/-! ## Calls -/

inductive HttpCall where
  | calloc (n : ℕ)
  | callocReq
  | callocRsp
  | free (a : ℕ)
  /-- The text of a `str_t`. -/
  | text (str : Option ℕ)
  | strcpy (a offset : ℕ) (s : List UInt8)
  /-- `memcpy(a, b, n)` -/
  | memcpy (a : ℕ) (b : Option ℕ) (n : ℕ)
  | loadReq (a : ℕ)
  | storeReq (a : ℕ) (members : ReqMembers)
  | loadRsp (a : ℕ)
  | storeRsp (a : ℕ) (members : RspMembers)
  /-- `sprintf` of a line into a local array. -/
  | sprintf (size : ℕ) (line : List UInt8)
  | connOpen (ip : List UInt8) (port : UInt16)
  | connWrite (fd : ℤ) (data : List UInt8)
  | connClose (fd : ℤ)
  /-- `select` on the sets that have the socket or not. -/
  | select (fd : ℤ) (rfds efds : Bool)
  /-- `read(fd, buf + offset, 1024)` -/
  | read (fd : ℤ) (buf : Option ℕ) (offset : ℕ)

abbrev HttpCall.Reply : HttpCall → Type
  | calloc _ => ℕ
  | callocReq => ℕ
  | callocRsp => ℕ
  | text _ => List UInt8
  | loadReq _ => ReqMembers
  | loadRsp _ => RspMembers
  | sprintf _ _ => List UInt8
  | connOpen _ _ => ℤ
  | select _ _ _ => SelectAnswer
  | read _ _ _ => ReadAnswer
  | _ => Unit

/-- There is a block of bytes at the address. -/
def HasBytes (h : Blocks HttpCell) (str : Option ℕ) (contents : List UInt8) : Prop :=
  ∃ a, str = some a ∧ h a = some (.bytes contents)

/-- A call is defined. -/
def HttpCall.Allowed (w : HttpWorld) : HttpCall → Prop
  | .free a => w.1 a ≠ none
  | .text str => ∃ contents, HasBytes w.1 str contents ∧ 0 ∈ contents
  | .strcpy a offset s => ∃ contents, HasBytes w.1 (some a) contents ∧
      offset + s.length < contents.length
  | .memcpy a b n => (∃ contents, HasBytes w.1 (some a) contents ∧ n ≤ contents.length) ∧
      (n = 0 ∨ ∃ contents, HasBytes w.1 b contents ∧ n ≤ contents.length)
  | .loadReq a => ∃ members, w.1 a = some (.req members)
  | .storeReq a _ => ∃ members, w.1 a = some (.req members)
  | .loadRsp a => ∃ members, w.1 a = some (.rsp members)
  | .storeRsp a _ => ∃ members, w.1 a = some (.rsp members)
  | .sprintf size line => line.length < size
  | .connWrite fd _ => fd ∈ w.2.descriptors
  | .connClose fd => fd ∈ w.2.descriptors
  | .select fd _ _ => fd ∈ w.2.descriptors
  | .read fd buf offset => fd ∈ w.2.descriptors ∧
      ∃ contents, HasBytes w.1 buf contents ∧ offset + 1024 ≤ contents.length
  | _ => True

/-- The bytes of a piece, in a block behind the first `offset` ones. -/
def overlayAt (contents bytes : List UInt8) (offset : ℕ) : List UInt8 :=
  contents.take offset ++ overlay bytes (contents.drop offset)

/-- What a `read` leaves in the block. -/
def ReadAnswer.stored (contents : List UInt8) (offset : ℕ) : ReadAnswer → List UInt8
  | .data piece => overlayAt contents piece.bytes offset
  | _ => contents

/-- So many bytes may be read. -/
def ReadAnswer.Fits (offset : ℕ) : ReadAnswer → Prop
  | .data piece => offset + piece.bytes.length + 4096 ≤ 2 ^ 32
  | _ => True

/-- What may be answered, and what is left behind. -/
def HttpCall.Served (w : HttpWorld) : (k : HttpCall) → k.Reply → HttpWorld → Prop
  | .calloc n, a, w' => w.1 a = none ∧ w' = (w.1.alloc a (.bytes (List.replicate n 0)), w.2)
  | .callocReq, a, w' =>
    w.1 a = none ∧ w' = (w.1.alloc a (.req ⟨none, none, none, none⟩), w.2)
  | .callocRsp, a, w' => w.1 a = none ∧ w' = (w.1.alloc a (.rsp ⟨0, none⟩), w.2)
  | .free a, _, w' => w' = (w.1.free a, w.2)
  | .text str, s, w' => ∃ contents, HasBytes w.1 str contents ∧ s = cstring contents ∧ w' = w
  | .strcpy a offset s, _, w' => ∃ contents, HasBytes w.1 (some a) contents ∧
      w' = (w.1.alloc a (.bytes (overlayAt contents (s ++ [0]) offset)), w.2)
  | .memcpy a b n, _, w' => ∃ contents source, HasBytes w.1 (some a) contents ∧
      (n = 0 ∨ HasBytes w.1 b source) ∧
      w' = (w.1.alloc a (.bytes (overlayAt contents (source.take n) 0)), w.2)
  | .loadReq a, members, w' => w.1 a = some (.req members) ∧ w' = w
  | .storeReq a members, _, w' => w' = (w.1.alloc a (.req members), w.2)
  | .loadRsp a, members, w' => w.1 a = some (.rsp members) ∧ w' = w
  | .storeRsp a members, _, w' => w' = (w.1.alloc a (.rsp members), w.2)
  | .sprintf _ line, s, w' => s = line ∧ w' = w
  | .connOpen _ _, fd, w' => (fd = -1 ∧ w' = w) ∨ (0 ≤ fd ∧ fd ∉ w.2.descriptors ∧
      w' = (w.1, { w.2 with descriptors := fd :: w.2.descriptors }))
  | .connWrite _ data, _, w' => w' = (w.1, { w.2 with written := w.2.written ++ [data] })
  | .connClose fd, _, w' =>
    w' = (w.1, { w.2 with descriptors := w.2.descriptors.erase fd })
  | .select _ _ _, answer, w' =>
    w' = (w.1, { w.2 with answers := w.2.answers ++ [.select answer] })
  | .read _ buf offset, answer, w' => answer.Fits offset ∧
      ∃ a contents, buf = some a ∧ w.1 a = some (.bytes contents) ∧
        w' = (w.1.alloc a (.bytes (answer.stored contents offset)),
          { w.2 with answers := w.2.answers ++ [.read answer] })

/-- A program of `http_client.c`. -/
abbrev HttpTask (α : Type) : Type := Interaction HttpCall HttpCall.Reply α

end MirrorLink.Program
