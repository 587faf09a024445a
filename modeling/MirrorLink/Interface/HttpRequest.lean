import MirrorLink.Interface.HttpAnnouncement
import MirrorLink.Interface.SearchResponse
import MirrorLink.Program.RequestText

/-!
# Requests, as they are made and as they are read

A request is made by `http_client_make_req` and then calls of `http_client_add_header` and
`http_client_set_body` in any order (`RequestInput`).  A server reads the request line, header
lines up to the first empty line, and as many bytes of a body as the first field called
`Content-Length` says (`parseRequest`).
-/

set_option autoImplicit false

namespace MirrorLink.Program

open MirrorLink.Library

/-! ## Reading -/

/-- The line is a field called `name`, in whatever letters. -/
def IsNamed (name line : List UInt8) : Prop :=
  58 ∈ line ∧ (line.takeWhile (· ≠ 58)).map toLower = name

instance (name line : List UInt8) : Decidable (IsNamed name line) :=
  inferInstanceAs (Decidable (_ ∧ _))

/-- The number that is the value of a field, with blanks around it perhaps. -/
def fieldNumber (line : List UInt8) : Option ℕ :=
  let value := ((line.dropWhile (· ≠ 58)).drop 1).dropWhile fun b => b = 32 ∨ b = 9
  let digits := value.takeWhile isDigit
  if digits ≠ [] ∧ ((value.drop digits.length).all fun b => b = 32 ∨ b = 9) = true then
    some (digitsValue digits)
  else none

/-- The length of the body that header lines announce. -/
def announcedLength (lines : List (List UInt8)) : Option ℕ :=
  (lines.find? fun line => IsNamed (ascii "content-length") line).elim (some 0) fieldNumber

/-- A request that has been read, and what is left of the text. -/
structure ReceivedRequest where
  method : List UInt8
  path : List UInt8
  headers : List (List UInt8)
  body : List UInt8
  rest : List UInt8
  deriving DecidableEq

/-- An HTTP/1.0 request. -/
def parseRequest (text : List UInt8) : Option ReceivedRequest :=
  (strstr blankLine text).bind fun behind =>
    let lines := crlfLines (text.take (text.length - behind.length))
    let requestLine := lines.headD []
    let method := requestLine.takeWhile (· ≠ 32)
    let target := requestLine.drop (method.length + 1)
    let path := target.takeWhile (· ≠ 32)
    if target.drop (path.length + 1) = ascii "HTTP/1.0" then
      (announcedLength lines.tail).bind fun n =>
        let rest := behind.drop blankLine.length
        if n ≤ rest.length then some ⟨method, path, lines.tail, rest.take n, rest.drop n⟩ else none
    else none

example : parseRequest (ascii "POST /a HTTP/1.0\r\nHost: b:80\r\ncontent-length:  2\r\n\r\nabc") =
    some ⟨ascii "POST", ascii "/a", [ascii "Host: b:80", ascii "content-length:  2"], ascii "ab",
      ascii "c"⟩ := by
  decide +kernel

/-! ## Making -/

inductive RequestMethod where
  | get
  | post
  deriving DecidableEq

def RequestMethod.text : RequestMethod → List UInt8
  | get => ascii "GET"
  | post => ascii "POST"

/-- A call between making a request and sending it.  The text of a header is empty or a line
with its end. -/
inductive RequestStep where
  | addHeader (line : Option (List UInt8))
  | setBody (body : List UInt8)

namespace RequestStep

/-- The text of the header that is added. -/
def header : RequestStep → List UInt8
  | addHeader line => line.elim [] (· ++ crlf)
  | setBody _ => []

/-- The line that is added. -/
def line : RequestStep → Option (List UInt8)
  | addHeader line => line
  | setBody _ => none

/-- The text of the body that is set. -/
def body : RequestStep → List UInt8
  | addHeader _ => []
  | setBody body => body

def run (req : HttpReq32) : RequestStep → Except Fault HttpReq32
  | addHeader line => httpClientAddHeader32 req (addHeader line).header
  | setBody body => (httpClientSetBody32 req body).map Prod.snd

end RequestStep

structure RequestInput where
  method : RequestMethod
  path : List UInt8
  ip : List UInt8
  port : UInt16
  steps : List RequestStep
  path_word : IsWord path
  path_no_zero : 0 ∉ path
  ip_word : IsWord ip
  ip_no_zero : 0 ∉ ip
  /-- A header line is not empty, and neither `Host` nor `Content-Length`. -/
  header_lines : ∀ step ∈ steps, ∀ line ∈ step.line, (IsLine line ∧ line ≠ []) ∧
    ¬ IsNamed (ascii "host") line ∧ ¬ IsNamed (ascii "content-length") line
  requestLine_fits : (method.text ++ ascii " " ++ path ++ ascii " HTTP/1.0\r\n").length < 100
  hostLine_fits :
    (ascii "Host: " ++ ip ++ ascii ":" ++ decimal port.toNat ++ ascii "\r\n").length < 100

namespace RequestInput

variable (r : RequestInput)

/-- The bytes that are handed to `conn_write`. -/
def sent : Except Fault (List UInt8) := do
  let req ← httpClientMakeReq32 r.method.text r.path
  let req ← r.steps.foldlM RequestStep.run req
  requestText32 r.ip r.port req

/-- The header lines that have been added. -/
def added : List (List UInt8) := r.steps.filterMap RequestStep.line

/-- The bodies that have been set; a `GET` has none. -/
def body : List UInt8 := if r.method = .get then [] else r.steps.flatMap RequestStep.body

def requestLine : List UInt8 := r.method.text ++ ascii " " ++ r.path ++ ascii " HTTP/1.0"

def hostLine : List UInt8 := ascii "Host: " ++ r.ip ++ ascii ":" ++ decimal r.port.toNat

def lengthLines : List (List UInt8) :=
  if r.body = [] then [] else [ascii "Content-Length:" ++ decimal r.body.length]

/-- The text of the request. -/
def text : List UInt8 :=
  written (r.requestLine :: r.hostLine :: (r.added ++ r.lengthLines)) ++ crlf ++ r.body

/-- What is read is what the request was made of. -/
structure ReadAs (p : ReceivedRequest) : Prop where
  method : p.method = r.method.text
  path : p.path = r.path
  host : (p.headers.filter fun line => IsNamed (ascii "host") line) = [r.hostLine]
  added : (p.headers.filter fun line =>
    ¬ IsNamed (ascii "host") line ∧ ¬ IsNamed (ascii "content-length") line) = r.added
  length : (∃ line ∈ p.headers, IsNamed (ascii "content-length") line) ↔ r.body ≠ []
  body : p.body = r.body
  rest : p.rest = []

end RequestInput

end MirrorLink.Program
