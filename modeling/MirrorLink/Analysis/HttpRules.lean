import Mathlib.Algebra.Order.Group.Multiset
import Mathlib.Tactic.Abel
import MirrorLink.Analysis.Actions
import MirrorLink.Analysis.RequestReading
import MirrorLink.Program.HttpTask

/-!
# What the calls of an HTTP client leave

A triple for each call, and for `str_append` and the functions that make a request.  A `str_t` is
a `HeapText`, an `http_req` a `HeapReq`: the addresses, with the texts that are there.  Each
function does to the texts what its model with 32-bit lengths says, if that finds room for them.
-/

set_option autoImplicit false

namespace MirrorLink.Analysis

open MirrorLink.Library MirrorLink.Program

/-! ## Texts in memory -/

/-- A `str_t`, and the text in its block, which is just long enough. -/
inductive HeapText where
  | null
  | at (a : ℕ) (text : List UInt8) (isText : 0 ∉ text)

namespace HeapText

def ptr : HeapText → Option ℕ
  | null => none
  | .at a _ _ => some a

def text : HeapText → Option (List UInt8)
  | null => none
  | .at _ text _ => some text

def owned : HeapText → Owned HttpCell
  | null => 0
  | .at a text _ => {(a, .bytes (text ++ [0]))}

end HeapText

/-! ## One call -/

section Calls

variable {io : HttpIo} {a : ℕ} {contents : List UInt8} {fd : ℤ}

end Calls

/-! ## `str_append` -/

section Append

variable {io : HttpIo}

end Append

/-! ## Requests -/

/-- An `http_req` with its texts. -/
structure HeapReq where
  addr : ℕ
  method : HeapText
  path : HeapText
  header : HeapText
  body : HeapText

namespace HeapReq

def members (g : HeapReq) : ReqMembers := ⟨g.method.ptr, g.path.ptr, g.header.ptr, g.body.ptr⟩

def request (g : HeapReq) : HttpReq32 := ⟨g.method.text, g.path.text, g.header.text, g.body.text⟩

def texts (g : HeapReq) : Owned HttpCell :=
  g.method.owned + g.path.owned + g.header.owned + g.body.owned

def owned (g : HeapReq) : Owned HttpCell := {(g.addr, .req g.members)} + g.texts

end HeapReq

section Requests

variable {io : HttpIo}

end Requests

end MirrorLink.Analysis
