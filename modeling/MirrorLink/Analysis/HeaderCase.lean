import MirrorLink.Analysis.HeaderScan
import MirrorLink.Analysis.SearchCase

/-!
# Responses in other letters

`http_client_send` finds the length of a body under two spellings of its name.  The letters make
no difference only to a response without that field, and to one whose body is empty if the
connection is closed behind it (`httpCaseFree_iff`).
-/

set_option autoImplicit false

namespace MirrorLink.Analysis

open MirrorLink.Library MirrorLink.Program

/-- Whatever the letters are, the call returns the same if it is given the text in pieces of the
same lengths. -/
def HttpCaseFree (m : HttpMessage) (ending : Ending) : Prop :=
  ∀ fields', Respelled m.fields fields' → ∀ (chunks : List Chunk) (last : Chunk)
    (chunks' : List Chunk) (last' : Chunk),
    List.Forall₂ (fun c c' : Chunk => c.bytes.length = c'.bytes.length) (chunks ++ [last])
      (chunks' ++ [last']) →
    (chunks ++ [last]).flatMap Chunk.bytes = m.bytes m.fields →
    (chunks' ++ [last']).flatMap Chunk.bytes = m.bytes fields' →
    ∀ ip port req, httpClientSend ip port req (some (delivers chunks last ending [])) =
      httpClientSend ip port req (some (delivers chunks' last' ending []))

/-! ## What a call returns -/

/-- What the call returns for a text. -/
def exchangeOf (text wbuf : List UInt8) : Exchange :=
  ⟨some wbuf, if (responseOf text).errcode = 0 then none else some (responseOf text)⟩

section Calls

variable (m : HttpMessage) {fields' : List HeaderField}

/-- What `http_client_send` makes of a response, however it arrives. -/
theorem send_bytes (hfields : Respelled m.fields fields') {chunks : List Chunk} {last : Chunk}
    (hbytes : (chunks ++ [last]).flatMap Chunk.bytes = m.bytes fields') (ending : Ending)
    (ip : List UInt8) (port : UInt16) (req : HttpReq) :
    httpClientSend ip port req (some (delivers chunks last ending [])) =
      (requestText ip port req).bind fun wbuf =>
        (stopText ending [] ((chunks ++ [last]).map Chunk.bytes)).map fun text =>
          exchangeOf text wbuf := by
  have hlt := length_bytes_lt m hfields
  rw [← hbytes, List.flatMap_append, List.flatMap_singleton] at hlt
  have hreceived := received_delivers chunks last ending (Buffer.holds_init 0) hlt
  rw [httpClientSend_eq, hreceived, List.map_append]
  rfl

/-- There is no zero in a response, nor in the beginning of one. -/
theorem cstring_take (hfields : Respelled m.fields fields') (n : ℕ) :
    cstring ((m.bytes fields').take n) = (m.bytes fields').take n :=
  cstring_eq_self fun hmem => zero_not_mem_response m hfields (List.mem_of_mem_take hmem)

/-- The response of a text is the scan of it. -/
theorem responseOf_eq (text : List UInt8) :
    responseOf text = (scanResponse ⟨0, none⟩ (cstring text)).1 := by
  rw [scanResponse_eq]
  rfl

/-- The head is part of the response. -/
theorem length_head_le (fields' : List HeaderField) :
    (m.head fields').length ≤ (m.bytes fields').length := by
  rw [HttpMessage.bytes, List.length_append]
  exact Nat.le_add_right _ _

/-! ## Letters that make no difference -/

/-- Where the length has its name in no letters, the scan stops at the same places. -/
theorem stops_take_nameless (hfields : Respelled m.fields fields')
    (hname : Nameless (m.statusLine :: m.fields.map HeaderField.line))
    (hname' : Nameless (m.statusLine :: fields'.map HeaderField.line)) (n : ℕ) :
    stops (cstring ((m.bytes m.fields).take n)) = stops (cstring ((m.bytes fields').take n)) := by
  have hhead := length_head m hfields
  rw [cstring_take m (respelled_self m.fields), cstring_take m hfields]
  rcases Nat.le_total n (m.head m.fields).length with hn | hn
  · rw [stops_nameless_head m hname hn, stops_nameless_head m hname' (by omega)]
  · unfold stops HttpRsp.zero
    rw [scanResponse_nameless m hname hn, scanResponse_nameless m hname' (by omega), hhead]

/-- A response that gives no length is the same in any letters. -/
theorem httpCaseFree_of_nameless (ending : Ending)
    (hname : ∀ fields', Respelled m.fields fields' →
      Nameless (m.statusLine :: fields'.map HeaderField.line)) : HttpCaseFree m ending := by
  intro fields' hfields chunks last chunks' last' hpace hbytes hbytes' ip port req
  have hself := respelled_self m.fields
  have hstops := stops_take_nameless m hfields (hname _ hself) (hname _ hfields)
  have hlengths : List.Forall₂ (fun p p' : List UInt8 => p.length = p'.length)
      ((chunks ++ [last]).map Chunk.bytes) ((chunks' ++ [last']).map Chunk.bytes) := by
    rw [List.forall₂_map_left_iff, List.forall₂_map_right_iff]
    exact hpace
  have htext : (m.bytes m.fields).take 0 ++ ((chunks ++ [last]).map Chunk.bytes).flatten =
      m.bytes m.fields := hbytes
  have htext' : (m.bytes fields').take 0 ++ ((chunks' ++ [last']).map Chunk.bytes).flatten =
      m.bytes fields' := hbytes'
  obtain ⟨stop, hstop, hstop'⟩ := stopText_take ending hstops hlengths (Nat.zero_le _)
    (Nat.zero_le _) htext htext'
  rw [List.take_zero] at hstop hstop'
  rw [send_bytes m hself hbytes, send_bytes m hfields hbytes', hstop, hstop']
  cases stop with
  | none => rfl
  | some n =>
    -- the loop stops behind the head, and there the scan is the same
    have hn : (m.head m.fields).length ≤ n := by
      by_contra hlt
      obtain ⟨-, hends⟩ := of_stopText hstop
      rw [cstring_take m hself, stops_nameless_head m (hname _ hself) (by omega)] at hends
      rcases hends with hends | ⟨hall, -⟩
      · cases hends
      · have hlength := congrArg List.length hall
        rw [← List.take_zero, htext, List.length_take] at hlength
        have hle := length_head_le m m.fields
        omega
    have hsame : responseOf ((m.bytes m.fields).take n) =
        responseOf ((m.bytes fields').take n) := by
      have hhead := length_head m hfields
      rw [responseOf_eq, responseOf_eq, cstring_take m hself, cstring_take m hfields,
        scanResponse_nameless m (hname _ hself) hn,
        scanResponse_nameless m (hname _ hfields) (by omega), hhead]
    simp only [Option.map_some, exchangeOf, hsame]

/-- A text on which the loop stops has the status line. -/
theorem statusLine_begins {text : List UInt8} (hbegin : text <+: m.bytes fields')
    (hends : stops text = true ∨ text = m.bytes fields') : m.statusLine <+: text := by
  obtain ⟨rest, hbytes, -, -⟩ := bytes_eq_statusLine m fields'
  rcases hends with hstops | rfl
  · have hboth := List.prefix_or_prefix_of_prefix hbegin (hbytes ▸ List.prefix_append _ rest)
    refine hboth.resolve_left fun hshort => ?_
    -- a beginning of the status line does not stop the scan
    have hnone : ∀ word ∈ contentLengthNames, strstr word text = none := by
      intro word hword
      rw [← Option.not_isSome_iff_eq_none, strstr_isSome_iff]
      exact fun hstands => not_infix_statusLine m hword (hstands.trans hshort.isInfix)
    have hfind : findContentLength text = none := by
      unfold findContentLength
      rw [hnone _ (by simp [contentLengthNames]), hnone _ (by simp [contentLengthNames])]
    rw [stops_of_not_found hfind] at hstops
    cases hstops
  · rw [hbytes]
    exact List.prefix_append _ _

/-- There is nothing to be taken behind the end of the response. -/
theorem taken_of_empty (hbody : m.body = []) (hfields : Respelled m.fields fields')
    {text : List UInt8} (hbegin : text <+: m.bytes fields') : taken text = none := by
  rw [Option.eq_none_iff_forall_ne_some]
  intro behind htaken
  obtain ⟨-, pos, hpos, hfrom⟩ := (taken_eq_some_iff _ _).mp htaken
  obtain ⟨len, -, hlenPos, hlenLe⟩ := hfrom.length
  have hblank : strstr (ascii "\r\n\r\n") (m.bytes fields') = some (crlf ++ (crlf ++ [])) := by
    rw [HttpMessage.bytes, HttpMessage.head, hbody, List.append_assoc]
    exact strstr_blank_written _ _ _ (isLine_statusText _ _ m.reason_line)
      (isLine_of_respelled m hfields)
  obtain ⟨before, hbefore⟩ := (strstr_suffix hfrom.blank).trans (suffix_of_findContentLength hpos)
  -- the blank line before it would be the end of the response
  have hdrop : blankLine <+: (m.bytes fields').drop before.length := by
    obtain ⟨later, hlater⟩ := hbegin
    rw [← hlater, ← hbefore, List.append_assoc, List.drop_left, List.append_assoc]
    exact List.prefix_append _ _
  have hle := le_of_strstr (ascii_blankLine ▸ hblank) hdrop
  have hlength := congrArg List.length hbefore
  have hshort := hbegin.length_le
  have hfour : blankLine.length = 4 := rfl
  have hend : (crlf ++ (crlf ++ [])).length = 4 := rfl
  rw [List.length_append, List.length_append, hfour] at hlength
  rw [hend] at hle
  have hpos' : 0 < len.toNat := UInt32.lt_iff_toNat_lt.mp hlenPos
  omega

/-- A response without a body is the same in any letters, if the connection is closed. -/
theorem responseOf_of_empty (hbody : m.body = []) (hfields : Respelled m.fields fields')
    {pieces : List (List UInt8)} (hpieces : pieces.flatten = m.bytes fields') {text : List UInt8}
    (hstop : stopText .closed [] pieces = some text) :
    responseOf text = ⟨UInt16.ofInt m.code, none⟩ := by
  obtain ⟨hbegin, hends⟩ := of_stopText hstop
  rw [List.nil_append, hpieces] at hbegin hends
  have hzero : cstring text = text := cstring_eq_self fun hmem =>
    zero_not_mem_response m hfields (hbegin.subset hmem)
  rw [hzero] at hends
  have htaken := taken_of_empty m hbody hfields hbegin
  obtain ⟨more, rfl⟩ := statusLine_begins m hbegin (hends.imp_right And.left)
  rw [responseOf, hzero, statusOf_statusLine, htaken]
  rfl

/-- Without a body a connection that is closed hides the difference. -/
theorem httpCaseFree_of_empty (hbody : m.body = []) : HttpCaseFree m .closed := by
  intro fields' hfields chunks last chunks' last' _ hbytes hbytes' ip port req
  have hself := respelled_self m.fields
  obtain ⟨text, hstop⟩ := exists_stopText [] ((chunks ++ [last]).map Chunk.bytes)
  obtain ⟨text', hstop'⟩ := exists_stopText [] ((chunks' ++ [last']).map Chunk.bytes)
  have hresponse := responseOf_of_empty m hbody hself hbytes hstop
  have hresponse' := responseOf_of_empty m hbody hfields hbytes' hstop'
  rw [send_bytes m hself hbytes, send_bytes m hfields hbytes', hstop, hstop']
  simp only [Option.map_some, exchangeOf, hresponse, hresponse']

/-! ## Letters that make one -/

/-- A text that comes at once: the loop stops there or waits for more. -/
theorem stopText_single (ending : Ending) (text : List UInt8) :
    stopText ending [] [text] =
      if stops (cstring text) = true ∨ ending = .closed then some text else none := by
  rw [stopText, stopText, List.nil_append]
  by_cases hstops : stops (cstring text) = true
  · rw [if_pos hstops, if_pos (.inl hstops)]
  · rw [if_neg hstops]
    simp only [or_iff_right hstops]

/-- In capitals the scan stops at the end, with the body. -/
theorem scan_capitalLength {f : HeaderField}
    (honly : (m.fields.filter fun f => f.Called (ascii "content-length")) = [f])
    (hgives : GivesLength f.line m.body.length) :
    stops (cstring (m.bytes (m.fields.map capitalLength))) = true ∧
      responseOf (m.bytes (m.fields.map capitalLength)) =
        ⟨UInt16.ofInt m.code, if m.body = [] then none else some m.body⟩ := by
  obtain ⟨rest, hbytes, -, -⟩ := bytes_eq_statusLine m (m.fields.map capitalLength)
  have hstatus : statusOf (m.bytes (m.fields.map capitalLength)) = some (UInt16.ofInt m.code) := by
    rw [hbytes]
    exact statusOf_statusLine m rest
  obtain ⟨pos, hfinds⟩ := finds_capitalLength m honly hgives
  obtain ⟨hstops, htaken⟩ := scan_of_findsLength m hstatus hfinds
  have hzero : cstring (m.bytes (m.fields.map capitalLength)) =
      m.bytes (m.fields.map capitalLength) :=
    cstring_eq_self (zero_not_mem_response m (respelled_capitalLength m))
  rw [responseOf, hzero, hstatus, htaken]
  exact ⟨hstops, rfl⟩

/-- In small letters the length is looked for in the body. -/
theorem findContentLength_lower :
    findContentLength (m.bytes (m.fields.map lower)) = findContentLength m.body := by
  have hall := findContentLength_nameless m (nameless_lower m) (m.bytes (m.fields.map lower)).length
  have hlength : (m.bytes (m.fields.map lower)).length - (m.head (m.fields.map lower)).length =
      m.body.length := by
    rw [HttpMessage.bytes, List.length_append, Nat.add_sub_cancel_left]
  rwa [hlength, List.take_length, List.take_length] at hall

/-- What a call writes for a request of a description. -/
def requestBytes : List UInt8 :=
  ascii "GET /d.xml HTTP/1.0\r\nHost: 192.168.42.129:80\r\n\r\n"

/-- Where letters make no difference, the loop stops alike for all of the text at once. -/
theorem stopText_of_httpCaseFree {ending : Ending} (hfree : HttpCaseFree m ending)
    (hfields : Respelled m.fields fields') :
    (stopText ending [] [m.bytes m.fields]).map (fun text => exchangeOf text requestBytes) =
      (stopText ending [] [m.bytes fields']).map fun text => exchangeOf text requestBytes := by
  have hrequest : requestText (ascii "192.168.42.129") 80
      (httpClientMakeReq (ascii "GET") (ascii "/d.xml")) = some requestBytes := rfl
  have hone : ∀ text, (([] : List Chunk) ++ [byteChunk text]).flatMap Chunk.bytes = text := by
    intro text
    rw [List.nil_append, List.flatMap_singleton, bytes_byteChunk]
  have hpieces : ∀ text, (([] : List Chunk) ++ [byteChunk text]).map Chunk.bytes = [text] := by
    intro text
    rw [List.nil_append, List.map_singleton, bytes_byteChunk]
  have hlength : (byteChunk (m.bytes m.fields)).bytes.length =
      (byteChunk (m.bytes fields')).bytes.length := by
    rw [bytes_byteChunk, bytes_byteChunk, HttpMessage.bytes, HttpMessage.bytes,
      List.length_append, List.length_append, length_head m hfields]
  have hsame := hfree fields' hfields [] (byteChunk (m.bytes m.fields)) []
    (byteChunk (m.bytes fields')) (.cons hlength .nil) (hone _) (hone _)
    (ascii "192.168.42.129") 80 (httpClientMakeReq (ascii "GET") (ascii "/d.xml"))
  rw [send_bytes m (respelled_self m.fields) (hone _), send_bytes m hfields (hone _), hrequest,
    hpieces, hpieces, Option.bind_some, Option.bind_some] at hsame
  exact hsame

/-- A response whose letters make no difference gives no length, or has no body and is closed. -/
theorem of_httpCaseFree {ending : Ending} (hfree : HttpCaseFree m ending) {f : HeaderField}
    (honly : (m.fields.filter fun f => f.Called (ascii "content-length")) = [f])
    (hgives : GivesLength f.line m.body.length) : ending = .closed ∧ m.body = [] := by
  have hsmall : Respelled m.fields (m.fields.map lower) := respelled_map sameField_lower m.fields
  have hsame := (stopText_of_httpCaseFree m hfree (respelled_capitalLength m)).symm.trans
    (stopText_of_httpCaseFree m hfree hsmall)
  obtain ⟨hstops, hresponse⟩ := scan_capitalLength m honly hgives
  rw [stopText_single, stopText_single, if_pos (.inl hstops)] at hsame
  have hzero : cstring (m.bytes (m.fields.map lower)) = m.bytes (m.fields.map lower) :=
    cstring_eq_self (zero_not_mem_response m hsmall)
  rw [hzero] at hsame
  have hstop : stops (m.bytes (m.fields.map lower)) = true ∨ ending = .closed := by
    by_contra hnot
    rw [if_neg hnot] at hsame
    cases hsame
  rw [if_pos hstop, Option.map_some, Option.map_some, Option.some_inj] at hsame
  have hbodies : taken (m.bytes (m.fields.map lower)) =
      if m.body = [] then none else some m.body := by
    obtain ⟨rest, hbytes, -, -⟩ := bytes_eq_statusLine m (m.fields.map lower)
    have hcode : (responseOf (m.bytes (m.fields.map lower))).errcode = UInt16.ofInt m.code := by
      rw [responseOf, hzero, hbytes, statusOf_statusLine]
      rfl
    have hne := code_ne_zero m
    have hrsp := congrArg Exchange.response hsame
    simp only [exchangeOf, hresponse, hcode, if_neg hne, Option.some_inj] at hrsp
    rw [responseOf, hzero, HttpRsp.mk.injEq] at hrsp
    exact hrsp.2.symm
  by_cases hbody : m.body = []
  · refine ⟨hstop.resolve_left ?_, hbody⟩
    have hnone : findContentLength (m.bytes (m.fields.map lower)) = none := by
      rw [findContentLength_lower, hbody]
      rfl
    rw [stops_of_not_found hnone]
    exact Bool.false_ne_true
  · rw [if_neg hbody] at hbodies
    exact absurd (length_taken_lt (findContentLength_lower m) hbodies) (Nat.lt_irrefl _)

/-- **Letters make no difference** to a response exactly if it gives no length, or has no body
and the connection is closed behind it. -/
theorem httpCaseFree_iff (ending : Ending) :
    HttpCaseFree m ending ↔ (ending = .closed ∧ m.body = []) ∨
      ∀ f ∈ m.fields, ¬ f.Called (ascii "content-length") := by
  constructor
  · intro hfree
    rcases m.length with ⟨f, honly, hgives⟩ | hnone
    · exact .inl (of_httpCaseFree m hfree honly hgives)
    · refine .inr fun f hf hcalled => hnone f hf ?_
      rw [HeaderField.Called] at hcalled
      rw [hcalled]
  · rintro (⟨rfl, hbody⟩ | hnone)
    · exact httpCaseFree_of_empty m hbody
    · refine httpCaseFree_of_nameless m ending fun fields' hfields => ?_
      refine nameless_of_no_length m hfields ?_
      rcases m.length with ⟨f, honly, -⟩ | hlength
      · have hmem : f ∈ m.fields.filter fun f => f.Called (ascii "content-length") := by
          rw [honly]
          exact List.mem_cons_self
        obtain ⟨hf, hcalled⟩ := List.mem_filter.mp hmem
        exact absurd (of_decide_eq_true hcalled) (hnone f hf)
      · exact hlength

end Calls

/-! ## Both -/

/-- **Letters of names**: when they make no difference to an answer, and when to a response. -/
theorem header_case_iff (answer : SsdpMessage) (m : HttpMessage) (ending : Ending) :
    (SsdpCaseFree answer ↔ ¬ IsUpdate answer) ∧
      (HttpCaseFree m ending ↔ (ending = .closed ∧ m.body = []) ∨
        ∀ f ∈ m.fields, ¬ f.Called (ascii "content-length")) :=
  ⟨ssdpCaseFree_iff answer, httpCaseFree_iff m ending⟩

/-- An answer of a device. -/
def deviceSearchAnswer : SsdpMessage where
  start := ascii "HTTP/1.1 200 OK"
  fields := [⟨ascii "ST", ascii " urn:schemas-upnp-org:device:TmServerDevice:1"⟩,
    ⟨ascii "Location", ascii " http://192.168.42.129:8080/d.xml"⟩]
  target := ⟨ascii "ST", ascii " urn:schemas-upnp-org:device:TmServerDevice:1"⟩
  targetWord := tmTsd
  location := ⟨ascii "Location", ascii " http://192.168.42.129:8080/d.xml"⟩
  locationWord := ascii "http://192.168.42.129:8080/d.xml"
  start_line := by decide
  start_http := by decide
  wellFormed := by
    intro f hf
    simp only [List.mem_cons, List.not_mem_nil, or_false] at hf
    rcases hf with rfl | rfl
    all_goals
      constructor
      all_goals decide +kernel
  only_target := by decide
  only_location := by decide
  target_word := by
    refine ⟨[32], [], ?_, ?_, ?_, ?_⟩
    all_goals decide +kernel
  location_word := by
    refine ⟨[32], [], ?_, ?_, ?_, ?_⟩
    all_goals decide +kernel
  length_le := by decide +kernel

/-- The field with the length is a header field. -/
theorem wellFormed_lengthField : HeaderField.WellFormed ⟨ascii "Content-Length", ascii " 2"⟩ := by
  constructor
  all_goals decide +kernel

/-- It gives the length of the body. -/
theorem givesLength_lengthField :
    GivesLength (HeaderField.line ⟨ascii "Content-Length", ascii " 2"⟩) 2 := by
  refine ⟨ascii "Content-Length", [32], ascii "2", [], ?_, ?_, ?_, ?_, ?_, ?_⟩
  all_goals decide +kernel

/-- No other part of the head has the name of that field. -/
theorem no_other_lengthField : ∀ name ∈ contentLengthNames, ¬ name <:+: ascii " Created" ∧
    ∀ f ∈ [HeaderField.mk (ascii "Content-Length") (ascii " 2")], ¬ name <:+: f.value := by
  decide +kernel

/-- A response with two bytes. -/
def twoByteResponse : HttpMessage where
  version := .v11
  code := 201
  reason := ascii " Created"
  fields := [⟨ascii "Content-Length", ascii " 2"⟩]
  body := ascii "ab"
  code_ge := by decide
  code_le := by decide
  reason_line := by decide
  reason_blank := .inr rfl
  wellFormed := fun f hf => List.mem_singleton.mp hf ▸ wellFormed_lengthField
  length := .inl ⟨⟨ascii "Content-Length", ascii " 2"⟩, rfl, givesLength_lengthField⟩
  no_other_length := no_other_lengthField
  body_no_zero := by decide +kernel
  length_lt := by decide +kernel

/-- With names in small letters the answer is not read, and the body is not found. -/
theorem header_case_fails :
    ¬ SsdpCaseFree deviceSearchAnswer ∧ ¬ HttpCaseFree twoByteResponse .closed := by
  constructor
  · intro hfree
    have hsame := hfree _ (respelled_map sameField_lower _) Context.zero
    exact absurd hsame (by decide +kernel)
  · intro hfree
    have hsame := stopText_of_httpCaseFree twoByteResponse hfree (respelled_map sameField_lower _)
    have hresponse := congrArg (Option.map Exchange.response) hsame
    exact absurd hresponse (by decide +kernel)

end MirrorLink.Analysis
