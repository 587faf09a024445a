import MirrorLink.Program.HttpClient

/-!
# Well-formed responses, and the ways they arrive

An `HttpResponse` is a status line, header lines one of which gives the length of the body,
an empty line and the body; `bytes` is how it is written.  A `Chunk` is what one call of
`conn_read_all` delivers: any number of reads, with signals between them.
-/

set_option autoImplicit false

namespace MirrorLink.Program

open MirrorLink.Library

/-! ## Responses -/

inductive HttpVersion where
  | v10
  | v11
  deriving DecidableEq

def HttpVersion.minor : HttpVersion → ℕ
  | .v10 => 0
  | .v11 => 1

/-- `"\r\n"` -/
def crlf : List UInt8 := [13, 10]

/-- A text within one line of a header. -/
def IsLine (line : List UInt8) : Prop := ∀ b ∈ line, b ≠ 0 ∧ b ≠ 10 ∧ b ≠ 13

instance (line : List UInt8) : Decidable (IsLine line) := List.decidableBAll _ line

/-- Lines as they are written, each with its end. -/
def written (lines : List (List UInt8)) : List UInt8 := lines.flatMap (· ++ crlf)

/-- The parts of a response. -/
structure ResponseParts where
  version : HttpVersion
  code : ℕ
  /-- What follows the code: nothing, or a blank and the reason. -/
  reason : List UInt8
  /-- The header lines before the one with the length. -/
  before : List (List UInt8)
  /-- The header lines after it. -/
  after : List (List UInt8)
  body : List UInt8

namespace ResponseParts

def statusLine (r : ResponseParts) : List UInt8 :=
  ascii "HTTP/1." ++ decimal r.version.minor ++ ascii " " ++ decimal r.code ++ r.reason

def lengthLine (r : ResponseParts) : List UInt8 :=
  ascii "Content-Length: " ++ decimal r.body.length

/-- Everything before the header with the length. -/
def front (r : ResponseParts) : List UInt8 := written (r.statusLine :: r.before)

/-- Everything from the header with the length up to the body. -/
def middle (r : ResponseParts) : List UInt8 := written (r.lengthLine :: r.after) ++ crlf

/-- Everything before the body. -/
def head (r : ResponseParts) : List UInt8 := r.front ++ r.middle

def bytes (r : ResponseParts) : List UInt8 := r.head ++ r.body

end ResponseParts

/-- A well-formed response. -/
structure HttpResponse extends ResponseParts where
  code_ge : 100 ≤ code
  code_le : code ≤ 999
  reason_line : IsLine reason
  reason_blank : reason = [] ∨ reason.head? = some 32
  lines : ∀ line ∈ before ++ after, IsLine line ∧ line ≠ []
  /-- The length is given in one place before the body. -/
  one_length : ∀ i, ascii "Content-Length:" <+: toResponseParts.head.drop i →
    i = toResponseParts.front.length
  no_other_length : ∀ i, ¬ ascii "CONTENT-LENGTH:" <+: toResponseParts.head.drop i
  body_ne_nil : body ≠ []
  body_no_zero : 0 ∉ body
  length_lt : toResponseParts.bytes.length < 2 ^ 31

/-! ## Arrival -/

/-- What one `read` inside a call brings: bytes, or a signal. -/
inductive Arrival where
  | data (piece : ReadData)
  | interrupted

def Arrival.bytes : Arrival → List UInt8
  | .data piece => piece.bytes
  | .interrupted => []

def Arrival.answer : Arrival → Answer
  | .data piece => .read (.data piece)
  | .interrupted => .read .interrupted

/-- How a call ends: the connection stays open, or has been closed. -/
inductive Ending where
  | staysOpen
  | closed
  deriving DecidableEq

def Ending.answer : Ending → Answer
  | .staysOpen => .read .wouldBlock
  | .closed => .read .endOfFile

def Ending.code : Ending → ℤ
  | .staysOpen => 0
  | .closed => -3

/-- What one call of `conn_read_all` meets before it ends: signals during `select`, and what
its reads bring. -/
structure Chunk where
  signals : ℕ
  arrivals : List Arrival

def Chunk.bytes (chunk : Chunk) : List UInt8 := chunk.arrivals.flatMap Arrival.bytes

/-- The answers the system gives to the call. -/
def Chunk.answers (chunk : Chunk) (ending : Ending) : List Answer :=
  List.replicate chunk.signals (.select .interrupted) ++
    .select (.ready true false) :: (chunk.arrivals.map Arrival.answer ++ [ending.answer])

/-- A connection that delivers `chunks`, then `last`, and then whatever it likes. -/
def delivers (chunks : List Chunk) (last : Chunk) (ending : Ending) (later : List (List Answer)) :
    List (List Answer) :=
  chunks.map (·.answers .staysOpen) ++ last.answers ending :: later

end MirrorLink.Program
