import MirrorLink.Analysis.HttpScan

/-!
# A response is put together however it arrives

A call of `conn_read_all` adds the bytes of its chunk to what the buffer holds
(`connReadAll_chunk`).  With what the scans say about the beginnings of a response, every
turn of the client's loop either has the whole response or goes on (`receive_turn`), and the
loop ends with the code and the body in the turn that completes it (`receive_delivers`).
-/

set_option autoImplicit false

namespace MirrorLink.Analysis

open MirrorLink.Library MirrorLink.Program

/-! ## One call of `conn_read_all` -/

/-- What arrives is put together in the buffer. -/
theorem connReadAll_arrivals (arrivals : List Arrival) (ending : Ending) (b : Buffer)
    (data : List UInt8) (hb : b.Holds data) (hroom : data.length + 1024 ≤ b.size)
    (hlt : (data ++ arrivals.flatMap Arrival.bytes).length < 2 ^ 31) :
    ∃ b', connReadAll .reading b (arrivals.map Arrival.answer ++ [ending.answer]) =
        some (ending.code, b') ∧ b'.Holds (data ++ arrivals.flatMap Arrival.bytes) := by
  induction arrivals generalizing b data with
  | nil =>
    refine ⟨b, ?_, ?_⟩
    · cases ending <;> rfl
    · simpa using hb
  | cons arrival arrivals ih =>
    cases arrival with
    | data piece =>
      have hfit : data.length + piece.bytes.length ≤ b.size := by
        have hpiece := piece.length_le
        omega
      obtain ⟨b1, hfill, hholds⟩ := hb.fill hfit
      rw [List.flatMap_cons, Arrival.bytes, ← List.append_assoc] at hlt ⊢
      have hsum : 1024 + b1.len < 2 ^ 32 := by
        rw [hholds.len]
        rw [List.length_append] at hlt
        omega
      have hroom' := Buffer.size_append b1 1024 hsum
      rw [hholds.len] at hroom'
      obtain ⟨b', hrun, hholds'⟩ := ih (b1.append 1024) (data ++ piece.bytes)
        (hholds.append 1024) hroom' hlt
      refine ⟨b', ?_, hholds'⟩
      rw [List.map_cons, List.cons_append, Arrival.answer, connReadAll, hfill]
      exact hrun
    | interrupted =>
      obtain ⟨b', hrun, hholds⟩ := ih b data hb hroom hlt
      exact ⟨b', hrun, hholds⟩

/-- **One call** adds the bytes of its chunk to the buffer. -/
theorem connReadAll_chunk (chunk : Chunk) (ending : Ending) (b : Buffer) (data : List UInt8)
    (hb : b.Holds data) (hlt : (data ++ chunk.bytes).length < 2 ^ 31) :
    ∃ b', connReadAll (.selecting true true) b (chunk.answers ending) = some (ending.code, b') ∧
      b'.Holds (data ++ chunk.bytes) := by
  have hsum : 1024 + b.len < 2 ^ 32 := by
    rw [hb.len]
    rw [List.length_append] at hlt
    omega
  have hroom := Buffer.size_append b 1024 hsum
  rw [hb.len] at hroom
  obtain ⟨b', hrun, hholds⟩ := connReadAll_arrivals chunk.arrivals ending (b.append 1024) data
    (hb.append 1024) hroom hlt
  refine ⟨b', ?_, hholds⟩
  have hsignals : ∀ (n : ℕ) (answers : List Answer),
      connReadAll (.selecting true true) b
        (List.replicate n (.select .interrupted) ++ answers) =
      connReadAll (.selecting true true) b answers := by
    intro n answers
    induction n with
    | zero => rfl
    | succ n ih =>
      rw [List.replicate_succ, List.cons_append, connReadAll]
      exact ih
  rw [Chunk.answers, hsignals]
  exact hrun

/-! ## The text in the buffer -/

/-- The status line is one line. -/
theorem isLine_statusText (v : HttpVersion) (code : ℕ) {reason : List UInt8}
    (hreason : IsLine reason) :
    IsLine (ascii "HTTP/1." ++ decimal v.minor ++ ascii " " ++ decimal code ++ reason) := by
  have hversion : IsLine (ascii "HTTP/1.") := by decide
  have hblank : IsLine (ascii " ") := by decide
  apply isLine_append _ hreason
  apply isLine_append _ (isLine_decimal _)
  apply isLine_append _ hblank
  exact isLine_append hversion (isLine_decimal _)

/-- There is no zero in lines. -/
theorem zero_not_mem_written {lines : List (List UInt8)} (h : ∀ line ∈ lines, IsLine line) :
    0 ∉ written lines := by
  intro hmem
  obtain ⟨line, hline, h0⟩ := List.mem_flatMap.mp hmem
  rcases List.mem_append.mp h0 with h0 | h0
  · exact (h line hline 0 h0).1 rfl
  · exact absurd h0 (by decide)

/-- There is no zero in a response. -/
theorem zero_not_mem_bytes (r : HttpResponse) : 0 ∉ r.bytes := by
  have hlines : ∀ line ∈ r.before ++ r.after, IsLine line := fun line hl => (r.lines line hl).1
  have hfront : 0 ∉ r.front := by
    apply zero_not_mem_written
    intro line hl
    rcases List.mem_cons.mp hl with rfl | hl
    · exact isLine_statusText _ _ r.reason_line
    · exact hlines line (List.mem_append_left _ hl)
  have hmiddle : 0 ∉ written (r.lengthLine :: r.after) := by
    apply zero_not_mem_written
    intro line hl
    rcases List.mem_cons.mp hl with rfl | hl
    · exact isLine_lengthLine _
    · exact hlines line (List.mem_append_right _ hl)
  have hcrlf : (0 : UInt8) ∉ crlf := by decide
  simp only [ResponseParts.bytes, ResponseParts.head, ResponseParts.middle, List.mem_append]
  rintro ((h | h | h) | h)
  · exact hfront h
  · exact hmiddle h
  · exact hcrlf h
  · exact r.body_no_zero h

/-- So the string in the buffer is what it holds. -/
theorem cstring_holds {b : Buffer} {data : List UInt8} (hb : b.Holds data) (h : 0 ∉ data) :
    cstring b.buf = data := by
  obtain ⟨k, hbuf⟩ := hb.zeros
  rw [hbuf, cstring_append_zeros _ _ h]

/-! ## The loop -/

/-- **One turn** of the loop, after which the buffer holds a beginning of the response: it
ends the loop if that is all of it, and goes on if the connection has not been closed. -/
theorem receive_turn (r : HttpResponse) (errcode : UInt16) (rbuf b : Buffer) (j : ℕ)
    (answers : List Answer) (quit : ℤ) (hj : j ≤ r.bytes.length)
    (hread : connReadAll (.selecting true true) rbuf answers = some (quit, b))
    (hb : b.Holds (r.bytes.take j)) (calls : List (List Answer)) :
    (j = r.bytes.length →
      receive ⟨errcode, none⟩ rbuf (answers :: calls) =
        some ⟨UInt16.ofNat r.code, some r.body⟩) ∧
    (j < r.bytes.length → quit = 0 → ∃ errcode' b', b'.Holds (r.bytes.take j) ∧
      receive ⟨errcode, none⟩ rbuf (answers :: calls) = receive ⟨errcode', none⟩ b' calls) := by
  have hlen : b.len = j := by
    rw [hb.len, List.length_take_of_le hj]
  have hzero : 0 ∉ r.bytes.take j := fun h => zero_not_mem_bytes r (List.mem_of_mem_take h)
  have htext : cstring (b.append 1).buf = r.bytes.take j := cstring_holds (hb.append 1) hzero
  have hne : 0 < r.bytes.length := by
    have hmiddle := length_middle_ge r.toResponseParts
    rw [bytes_eq_front, List.length_append, length_fromLength]
    omega
  rw [receive, hread]
  simp only [hlen, htext]
  constructor
  · rintro rfl
    rw [if_neg (by omega), List.take_length, scanResponse_bytes]
    rfl
  · rintro hlt rfl
    by_cases h0 : j = 0
    · refine ⟨errcode, b, hb, ?_⟩
      rw [if_pos h0, if_pos rfl]
    · obtain ⟨errcode', hscan⟩ := scanResponse_take r ⟨errcode, none⟩ j hlt
      refine ⟨errcode', b.append 1, hb.append 1, ?_⟩
      rw [if_neg h0, hscan]
      rfl

/-- A chunk of what is still to come makes the next beginning of the response. -/
theorem connReadAll_next (r : HttpResponse) (chunk : Chunk) (ending : Ending) (rbuf : Buffer)
    (j : ℕ) (more : List UInt8) (hb : rbuf.Holds (r.bytes.take j))
    (hj : j ≤ r.bytes.length) (hrest : r.bytes.drop j = chunk.bytes ++ more) :
    j + chunk.bytes.length ≤ r.bytes.length ∧
      r.bytes.drop (j + chunk.bytes.length) = more ∧
      ∃ b, connReadAll (.selecting true true) rbuf (chunk.answers ending) =
        some (ending.code, b) ∧ b.Holds (r.bytes.take (j + chunk.bytes.length)) := by
  have hle : j + chunk.bytes.length ≤ r.bytes.length := by
    have hlen := congrArg List.length hrest
    rw [List.length_drop, List.length_append] at hlen
    omega
  have htake : r.bytes.take (j + chunk.bytes.length) = r.bytes.take j ++ chunk.bytes := by
    rw [List.take_add, hrest, List.take_left' rfl]
  have hlt : (r.bytes.take j ++ chunk.bytes).length < 2 ^ 31 := by
    have hbound := r.length_lt
    rw [← htake, List.length_take_of_le hle]
    omega
  obtain ⟨b, hread, hholds⟩ := connReadAll_chunk chunk ending rbuf _ hb hlt
  refine ⟨hle, ?_, b, hread, ?_⟩
  · rw [← List.drop_drop, hrest, List.drop_left' rfl]
  · rw [htake]
    exact hholds

/-- **The loop** ends with the code and the body once the chunks make up the response. -/
theorem receive_delivers (r : HttpResponse) (chunks : List Chunk) (last : Chunk)
    (ending : Ending) (later : List (List Answer)) (errcode : UInt16) (rbuf : Buffer) (j : ℕ)
    (hb : rbuf.Holds (r.bytes.take j)) (hj : j < r.bytes.length)
    (hrest : r.bytes.drop j = chunks.flatMap Chunk.bytes ++ last.bytes) :
    receive ⟨errcode, none⟩ rbuf (delivers chunks last ending later) =
      some ⟨UInt16.ofNat r.code, some r.body⟩ := by
  induction chunks generalizing errcode rbuf j with
  | nil =>
    rw [List.flatMap_nil, List.nil_append, ← List.append_nil last.bytes] at hrest
    obtain ⟨hle, hmore, b, hread, hholds⟩ := connReadAll_next r last ending rbuf j [] hb hj.le hrest
    have hend : j + last.bytes.length = r.bytes.length := by
      have hlen := List.drop_eq_nil_iff.mp hmore
      omega
    exact (receive_turn r errcode rbuf b _ _ _ hle hread hholds later).1 hend
  | cons chunk chunks ih =>
    rw [List.flatMap_cons, List.append_assoc] at hrest
    obtain ⟨hle, hmore, b, hread, hholds⟩ :=
      connReadAll_next r chunk .staysOpen rbuf j _ hb hj.le hrest
    obtain ⟨hdone, hgoes⟩ := receive_turn r errcode rbuf b _ _ _ hle hread hholds
      (delivers chunks last ending later)
    show receive _ _ (chunk.answers .staysOpen :: delivers chunks last ending later) = _
    by_cases hend : j + chunk.bytes.length = r.bytes.length
    · exact hdone hend
    · obtain ⟨errcode', b', hholds', hnext⟩ := hgoes (by omega) rfl
      rw [hnext]
      exact ih errcode' b' _ hholds' (by omega) hmore

/-- **Reassembly.**  Whatever chunks a well-formed response arrives in, and whether the
connection is closed behind it or stays open, `http_client_send` returns its code and its
body, provided that its own request could be written down. -/
theorem response_reassembly (r : HttpResponse) (chunks : List Chunk) (last : Chunk)
    (ending : Ending) (later : List (List Answer))
    (hbytes : chunks.flatMap Chunk.bytes ++ last.bytes = r.bytes)
    (ip : List UInt8) (port : UInt16) (req : HttpReq) :
    httpClientSend ip port req (some (delivers chunks last ending later)) =
      (requestText ip port req).map fun wbuf =>
        ⟨some wbuf, some ⟨UInt16.ofNat r.code, some r.body⟩⟩ := by
  have hne : 0 < r.bytes.length := by
    have hmiddle := length_middle_ge r.toResponseParts
    rw [bytes_eq_front, List.length_append, length_fromLength]
    omega
  have hreceive := receive_delivers r chunks last ending later 0 (Buffer.init 0) 0
    (Buffer.holds_init 0) hne hbytes.symm
  have hcode : UInt16.ofNat r.code ≠ 0 := by
    intro h0
    have hge := r.code_ge
    have hle := r.code_le
    have hval := congrArg UInt16.toNat h0
    rw [UInt16.toNat_ofNat_of_lt' (show r.code < 65536 by omega)] at hval
    have hzero : r.code = 0 := hval
    omega
  unfold httpClientSend
  cases requestText ip port req with
  | none => rfl
  | some wbuf =>
    show (receive ⟨0, none⟩ (Buffer.init 0) _ >>= _) = _
    rw [hreceive]
    show some (Exchange.mk _ (if _ = 0 then none else _)) = _
    rw [if_neg hcode]
    rfl

/-- A word that is not empty begins inside the text. -/
theorem lt_length_of_occurs {word text : List UInt8} {i : ℕ} (hword : word ≠ [])
    (h : word <+: text.drop i) : i < text.length := by
  by_contra hi
  rw [List.drop_eq_nil_of_le (by omega)] at h
  exact hword (List.prefix_nil.mp h)

/-- A response whose body has a header and a blank line of its own. -/
def sampleResponse : HttpResponse where
  version := .v11
  code := 200
  reason := ascii " OK"
  before := [ascii "Server: x"]
  after := [ascii "Connection: close"]
  body := ascii "A: 1\r\n\r\nContent-Length: 3"
  code_ge := by decide
  code_le := by decide
  reason_line := by decide
  reason_blank := by decide
  lines := by decide
  one_length := by
    intro i h
    have hi := lt_length_of_occurs (by decide) h
    revert h
    revert hi
    revert i
    decide +kernel
  no_other_length := by
    intro i h
    have hi := lt_length_of_occurs (by decide) h
    revert h
    revert hi
    revert i
    decide +kernel
  body_ne_nil := by decide
  body_no_zero := by decide
  length_lt := by decide

/-- A chunk of one read, after a signal in `select` and one in `read`. -/
def chunkOf (text : List UInt8) : Chunk :=
  ⟨1, if h : text ≠ [] ∧ text.length ≤ 1024 then [.interrupted, .data ⟨text, h.1, h.2⟩] else []⟩

/-- The response, cut in the code, in the digits of the length and in the body. -/
def sampleChunks : List Chunk :=
  [chunkOf (ascii "HTTP/1.1 2"),
    chunkOf (ascii "00 OK\r\nServer: x\r\nContent-Length: 2"),
    chunkOf (ascii "5\r\nConnection: close\r\n\r\nA: 1\r\n")]

def sampleLast : Chunk := chunkOf (ascii "\r\nContent-Length: 3")

/-- A response in four chunks, divided within its length and its body. -/
theorem response_reassembly_in_four_chunks :
    httpClientSend (ascii "192.168.42.129") 80
        (httpClientMakeReq (ascii "GET") (ascii "/description.xml"))
        (some (delivers sampleChunks sampleLast .closed [])) =
      some ⟨some (ascii "GET /description.xml HTTP/1.0\r\nHost: 192.168.42.129:80\r\n\r\n"),
        some ⟨200, some (ascii "A: 1\r\n\r\nContent-Length: 3")⟩⟩ := by
  have hsend := response_reassembly sampleResponse sampleChunks sampleLast .closed []
    (by decide) (ascii "192.168.42.129") 80
    (httpClientMakeReq (ascii "GET") (ascii "/description.xml"))
  rw [hsend]
  rfl

end MirrorLink.Analysis
