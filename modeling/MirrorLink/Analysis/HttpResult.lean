import MirrorLink.Analysis.HttpReassembly
import MirrorLink.Interface.HttpAnnouncement

/-!
# Complete or absent

What `http_client_send` returns is decided by the text it has received when its loop stops
(`receive_eq`): the code of the status line, if there is one, and the body that the scan
takes, if it takes one.  `http_result_iff` says for which texts that is what they announce.
-/

set_option autoImplicit false

namespace MirrorLink.Analysis

open MirrorLink.Library MirrorLink.Program

/-! ## What is received -/

/-- The bytes the reads of one call of `conn_read_all` bring. -/
def readBytes : ConnPhase → List Answer → List UInt8
  | .selecting inRfds inEfds, .select (.ready readable exceptional) :: answers =>
    if (inRfds && readable) && !(inEfds && exceptional) then readBytes .reading answers else []
  | .selecting inRfds inEfds, .select .interrupted :: answers =>
    readBytes (.selecting inRfds inEfds) answers
  | .reading, .read (.data piece) :: answers => piece.bytes ++ readBytes .reading answers
  | .reading, .read .interrupted :: answers => readBytes .reading answers
  | .reading, .read .failed :: answers => readBytes (.selecting true false) answers
  | _, _ => []

/-- What is filled in is held behind the rest. -/
theorem holds_of_fill {b b' : Buffer} {data bytes : List UInt8} (hb : b.Holds data)
    (h : b.fill bytes = some b') : b'.Holds (data ++ bytes) := by
  by_cases hfit : data.length + bytes.length ≤ b.size
  · obtain ⟨b1, hfill, hholds⟩ := hb.fill hfit
    rw [hfill] at h
    cases h
    exact hholds
  · rw [Buffer.fill, dif_neg (by rw [hb.len]; exact hfit)] at h
    cases h

/-- **One call** adds what its reads bring to the buffer, whatever else it meets. -/
theorem connReadAll_holds {phase : ConnPhase} {b b' : Buffer} {answers : List Answer} {quit : ℤ}
    {data : List UInt8} (hb : b.Holds data) (h : connReadAll phase b answers = some (quit, b')) :
    b'.Holds (data ++ readBytes phase answers) := by
  have hkept : ∀ {b : Buffer} {data : List UInt8}, b.Holds data → b.Holds (data ++ []) := by
    intro b data hb
    rwa [List.append_nil]
  induction answers generalizing phase b data with
  | nil => cases phase <;> cases h
  | cons answer answers ih =>
    cases phase with
    | selecting inRfds inEfds =>
      cases answer with
      | read answer => cases h
      | select answer =>
        cases answer with
        | ready readable exceptional =>
          rw [connReadAll] at h
          rw [readBytes]
          cases hrfds : inRfds && readable with
          | false =>
            simp only [hrfds] at h
            cases hefds : inEfds && exceptional with
            | false =>
              simp only [hefds] at h
              cases h
              exact hkept hb
            | true =>
              simp only [hefds] at h
              cases h
              exact hkept hb
          | true =>
            simp only [hrfds] at h
            cases hefds : inEfds && exceptional with
            | false =>
              simp only [hefds] at h
              exact ih (hb.append 1024) h
            | true =>
              simp only [hefds] at h
              cases h
              exact hkept hb
        | interrupted => exact ih hb h
        | failed =>
          cases h
          exact hkept hb
    | reading =>
      cases answer with
      | select answer => cases h
      | read answer =>
        cases answer with
        | data piece =>
          rw [connReadAll] at h
          cases hfill : b.fill piece.bytes with
          | none =>
            rw [hfill] at h
            cases h
          | some b1 =>
            rw [hfill] at h
            rw [readBytes, ← List.append_assoc]
            exact ih ((holds_of_fill hb hfill).append 1024) h
        | endOfFile =>
          cases h
          exact hkept hb
        | wouldBlock =>
          cases h
          exact hkept hb
        | interrupted => exact ih hb h
        | failed => exact ih hb h

/-! ## What is scanned -/

/-- The code of the status line, if there is one. -/
def statusOf (text : List UInt8) : Option UInt16 :=
  match sscanf (directives "HTTP/1.%1d %3d %*s\r\n".toList) text with
  | .int _ :: .int errcode :: _ => some (UInt16.ofInt errcode)
  | _ => none

/-- The scan leaves the loop. -/
def stops (text : List UInt8) : Bool := (scanResponse HttpRsp.zero text).2

/-- The body that is taken from the text. -/
def taken (text : List UInt8) : Option (List UInt8) := (scanResponse HttpRsp.zero text).1.body

/-- Without a status line nothing is taken. -/
theorem scanResponse_of_none {text : List UInt8} (h : statusOf text = none) (rsp : HttpRsp) :
    scanResponse rsp text = (rsp, false) := by
  unfold scanResponse
  split
  · rename_i heq
    rw [statusOf, heq] at h
    cases h
  · rfl

/-- With one the code is taken, and the body is looked for. -/
theorem scanResponse_of_status {text : List UInt8} {code : UInt16} (h : statusOf text = some code)
    (rsp : HttpRsp) :
    scanResponse rsp text = (findContentLength text).elim ({ rsp with errcode := code }, false)
      (scanBody { rsp with errcode := code }) := by
  unfold scanResponse
  split
  · rename_i heq
    rw [statusOf, heq] at h
    cases h
    cases findContentLength text with
    | none => rfl
    | some pos => rfl
  · rename_i hno
    unfold statusOf at h
    split at h
    · rename_i heq
      exact absurd heq (hno _ _ _)
    · cases h

/-- What stands behind the code's blank line in `pos`, where the loop takes it for the body. -/
structure TakesFrom (pos behind : List UInt8) : Prop where
  length : ∃ len, scanContentLength pos = some len ∧ 0 < len ∧ len.toNat ≤ behind.length
  blank : strstr blankLine pos = some (blankLine ++ behind)

/-- The blank line that ends a head. -/
theorem ascii_blankLine : ascii "\r\n\r\n" = blankLine := by decide

/-- The scan of what follows the header: it takes no body, or the one behind the blank line. -/
theorem scanBody_cases (pos : List UInt8) :
    (∃ found, (∀ errcode, scanBody ⟨errcode, none⟩ pos = (⟨errcode, none⟩, found)) ∧
        ∀ behind, ¬ TakesFrom pos behind) ∨
      ∃ behind, (∀ errcode, scanBody ⟨errcode, none⟩ pos = (⟨errcode, some behind⟩, true)) ∧
        TakesFrom pos behind := by
  unfold scanBody
  cases hlen : scanContentLength pos with
  | none =>
    refine .inl ⟨false, fun _ => rfl, ?_⟩
    rintro behind ⟨⟨len, hsome, -⟩, -⟩
    rw [hlen] at hsome
    cases hsome
  | some len =>
    have hunique : ∀ {behind}, TakesFrom pos behind → 0 < len ∧ len.toNat ≤ behind.length := by
      rintro behind ⟨⟨len', hsome, hbounds⟩, -⟩
      rw [hlen] at hsome
      cases hsome
      exact hbounds
    by_cases hpos : 0 < len
    · simp only [if_pos hpos, ascii_blankLine]
      cases hblank : strstr blankLine pos with
      | none =>
        refine .inl ⟨false, fun _ => rfl, ?_⟩
        intro behind htakes
        rw [htakes.blank] at hblank
        cases hblank
      | some tail =>
        obtain ⟨behind, rfl⟩ := prefix_of_strstr hblank
        have hdrop : (blankLine ++ behind).drop 4 = behind := rfl
        simp only [hdrop]
        by_cases hle : len.toNat ≤ behind.length
        · refine .inr ⟨behind, ?_, ⟨len, hlen, hpos, hle⟩, hblank⟩
          intro errcode
          have hlong : behind.length ≠ 0 := by
            have hval := UInt32.lt_iff_toNat_lt.mp hpos
            have hzero : (0 : UInt32).toNat = 0 := rfl
            omega
          simp only [if_pos hle, strAppend, if_neg hlong]
          rfl
        · refine .inl ⟨false, ?_, ?_⟩
          · intro errcode
            rw [if_neg hle]
          · intro behind' htakes
            have hbehind : behind' = behind := by
              have heq := htakes.blank.symm.trans hblank
              exact List.append_cancel_left (Option.some.inj heq)
            rw [hbehind] at htakes
            exact hle (hunique htakes).2
    · refine .inl ⟨true, ?_, fun behind htakes => hpos (hunique htakes).1⟩
      intro errcode
      exact if_neg hpos

/-- The loop takes this text for the body. -/
def Takes (text behind : List UInt8) : Prop :=
  (∃ code, statusOf text = some code) ∧
    ∃ pos, findContentLength text = some pos ∧ TakesFrom pos behind

/-- **The scan** of everything that has been received: the code, and the body it takes, if it
takes one. -/
theorem scanResponse_cases (text : List UInt8) :
    ∃ body found, (∀ errcode, scanResponse ⟨errcode, none⟩ text =
        (⟨(statusOf text).getD errcode, body⟩, found)) ∧
      (found = false → body = none) ∧ ∀ behind, body = some behind ↔ Takes text behind := by
  cases hstatus : statusOf text with
  | none =>
    refine ⟨none, false, fun errcode => scanResponse_of_none hstatus _, fun _ => rfl, ?_⟩
    intro behind
    constructor
    · intro h
      cases h
    · rintro ⟨⟨code, hcode⟩, -⟩
      rw [hstatus] at hcode
      cases hcode
  | some code =>
    cases hfind : findContentLength text with
    | none =>
      refine ⟨none, false, ?_, fun _ => rfl, ?_⟩
      · intro errcode
        rw [scanResponse_of_status hstatus, hfind]
        rfl
      · intro behind
        constructor
        · intro h
          cases h
        · rintro ⟨-, pos, hpos, -⟩
          rw [hfind] at hpos
          cases hpos
    | some pos =>
      have htakes : ∀ behind, Takes text behind ↔ TakesFrom pos behind := by
        intro behind
        constructor
        · rintro ⟨-, pos', hpos, h⟩
          rw [hfind] at hpos
          cases hpos
          exact h
        · intro h
          exact ⟨⟨code, hstatus⟩, pos, hfind, h⟩
      rcases scanBody_cases pos with ⟨found, hscan, hnone⟩ | ⟨body, hscan, hbody⟩
      · refine ⟨none, found, ?_, fun _ => rfl, ?_⟩
        · intro errcode
          rw [scanResponse_of_status hstatus, hfind]
          exact hscan code
        · intro behind
          rw [htakes]
          constructor
          · intro h
            cases h
          · intro h
            exact absurd h (hnone behind)
      · refine ⟨some body, true, ?_, ?_, ?_⟩
        · intro errcode
          rw [scanResponse_of_status hstatus, hfind]
          exact hscan code
        · intro h
          cases h
        · intro behind
          rw [htakes]
          constructor
          · intro h
            cases h
            exact hbody
          · intro h
            have heq := hbody.blank.symm.trans h.blank
            rw [List.append_cancel_left (Option.some.inj heq)]

/-- **A scan** gives the code, the body and whether it is complete. -/
theorem scanResponse_eq (errcode : UInt16) (text : List UInt8) :
    scanResponse ⟨errcode, none⟩ text =
      (⟨(statusOf text).getD errcode, taken text⟩, stops text) := by
  obtain ⟨body, found, hscan, -, -⟩ := scanResponse_cases text
  unfold taken stops HttpRsp.zero
  rw [hscan, hscan]

/-- No body is taken before it is complete. -/
theorem taken_of_not_stops {text : List UInt8} (h : stops text = false) : taken text = none := by
  obtain ⟨body, found, hscan, hnone, -⟩ := scanResponse_cases text
  unfold stops HttpRsp.zero at h
  unfold taken HttpRsp.zero
  rw [hscan] at h ⊢
  exact hnone h

/-- The body that is taken stands behind the blank line. -/
theorem taken_eq_some_iff (text behind : List UInt8) :
    taken text = some behind ↔ Takes text behind := by
  obtain ⟨body, found, hscan, -, htakes⟩ := scanResponse_cases text
  unfold taken HttpRsp.zero
  rw [hscan]
  exact htakes behind

/-! ## Longer texts -/

/-- The format of the status line, behind its beginning. -/
theorem sscanf_statusLine (more : List UInt8) :
    sscanf (directives "HTTP/1.%1d %3d %*s\r\n".toList) (ascii "HTTP/1." ++ more) =
      sscanf [.int (some 1), .space, .int (some 3), .space, .word false, .space, .space] more := by
  rw [directives_statusLine, sscanf_chars]

/-- What a text with a status line begins with. -/
theorem exists_of_statusOf {text : List UInt8} {code : UInt16} (h : statusOf text = some code) :
    ∃ more minor rest r, text = ascii "HTTP/1." ++ more ∧
      scanInt (some 1) (more.dropWhile isSpace) = some (minor, rest) ∧
      scanInt (some 3) (rest.dropWhile isSpace) = some r := by
  unfold statusOf at h
  split at h
  · rename_i heq
    by_cases hbegin : ascii "HTTP/1." <+: text
    · obtain ⟨more, rfl⟩ := hbegin
      rw [sscanf_statusLine, sscanf] at heq
      cases hminor : scanInt (some 1) (more.dropWhile isSpace) with
      | none =>
        rw [hminor] at heq
        cases heq
      | some result =>
        obtain ⟨minor, rest⟩ := result
        rw [hminor] at heq
        have htail := (List.cons.inj heq).2
        rw [sscanf, sscanf, dropWhile_dropWhile] at htail
        cases hcode : scanInt (some 3) (rest.dropWhile isSpace) with
        | none =>
          rw [hcode] at htail
          cases htail
        | some r => exact ⟨more, minor, rest, r, rfl, hminor, hcode⟩
    · rw [directives_statusLine, sscanf_chars_of_not_begin _ _ _ hbegin] at heq
      cases heq
  · cases h

/-- The code is the second number of the line. -/
theorem statusOf_of_begin {more rest : List UInt8} {minor : ℤ} {r : ℤ × List UInt8}
    (hminor : scanInt (some 1) (more.dropWhile isSpace) = some (minor, rest))
    (hcode : scanInt (some 3) (rest.dropWhile isSpace) = some r) :
    statusOf (ascii "HTTP/1." ++ more) = some (UInt16.ofInt r.1) := by
  unfold statusOf
  rw [sscanf_statusLine, sscanf, hminor]
  simp only [sscanf, dropWhile_dropWhile, hcode]

/-- A status line stays one when more is received. -/
theorem statusOf_append {text : List UInt8} {code : UInt16} (h : statusOf text = some code)
    (later : List UInt8) : ∃ code', statusOf (text ++ later) = some code' := by
  obtain ⟨more, minor, rest, r, rfl, hminor, hcode⟩ := exists_of_statusOf h
  have hrest := scanInt_ne_nil hcode
  have hmore := scanInt_ne_nil hminor
  have hminor' : scanInt (some 1) ((more ++ later).dropWhile isSpace) =
      some (minor, rest ++ later) := by
    rw [dropWhile_append_of_ne_nil hmore]
    exact scanInt_one_append hminor later
  obtain ⟨r', hcode'⟩ := Option.isSome_iff_exists.mp (scanInt_append hcode later)
  rw [← dropWhile_append_of_ne_nil hrest] at hcode'
  refine ⟨UInt16.ofInt r'.1, ?_⟩
  rw [List.append_assoc]
  exact statusOf_of_begin hminor' hcode'

/-- A code that has been read stays while more text comes in. -/
theorem statusOf_getD_eq {text text' : List UInt8} (h : text <+: text') :
    (statusOf text').getD ((statusOf text).getD 0) = (statusOf text').getD 0 := by
  obtain ⟨later, rfl⟩ := h
  cases hstatus : statusOf text with
  | none => rfl
  | some code =>
    obtain ⟨code', hcode'⟩ := statusOf_append hstatus later
    rw [hcode']
    rfl

/-! ## The loop -/

/-- The string in a buffer is that of the text it holds. -/
theorem cstring_of_holds {b : Buffer} {data : List UInt8} (hb : b.Holds data) :
    cstring b.buf = cstring data := by
  obtain ⟨k, hbuf⟩ := hb.zeros
  rw [hbuf]
  by_cases hzero : (0 : UInt8) ∈ data
  · exact cstring_append_of_mem hzero _
  · rw [cstring_append_zeros _ _ hzero, cstring_eq_self hzero]

/-- What has been received when the loop stops: everything the reads of its calls have
brought. -/
def received (rbuf : Buffer) (data : List UInt8) : List (List Answer) → Option (List UInt8)
  | [] => none
  | answers :: calls =>
    match connReadAll (.selecting true true) rbuf answers with
    | none => none
    | some (quit, rbuf) =>
      let data := data ++ readBytes (.selecting true true) answers
      if quit ≠ 0 ∨ stops (cstring data) = true then some data
      else received (if rbuf.len = 0 then rbuf else rbuf.append 1) data calls

/-- **The loop** makes its response of the text it has received when it stops. -/
theorem receive_eq (calls : List (List Answer)) (rbuf : Buffer) (data : List UInt8)
    (hb : rbuf.Holds data) :
    receive ⟨(statusOf (cstring data)).getD 0, none⟩ rbuf calls =
      (received rbuf data calls).map fun text =>
        ⟨(statusOf (cstring text)).getD 0, taken (cstring text)⟩ := by
  induction calls generalizing rbuf data with
  | nil => rfl
  | cons answers calls ih =>
    rw [receive, received]
    cases hread : connReadAll (.selecting true true) rbuf answers with
    | none => rfl
    | some result =>
      obtain ⟨quit, b⟩ := result
      have hholds := connReadAll_holds hb hread
      generalize hdata : data ++ readBytes (.selecting true true) answers = data' at hholds
      have hbegins : cstring data <+: cstring data' := by
        rw [← hdata]
        exact cstring_prefix (List.prefix_append _ _)
      have hstatus := statusOf_getD_eq hbegins
      by_cases hlen : b.len = 0
      · have hempty : data' = [] := List.eq_nil_of_length_eq_zero (hholds.len.symm.trans hlen)
        have hdata0 : data = [] := by
          rw [hempty] at hdata
          exact (List.append_eq_nil_iff.mp hdata).1
        have hstops : stops (cstring data') = false := by
          rw [hempty]
          rfl
        have hsame : (statusOf (cstring data)).getD 0 = (statusOf (cstring data')).getD 0 := by
          rw [hempty, hdata0]
        simp only [if_pos hlen, hstops, hsame]
        by_cases hquit : quit = 0
        · rw [if_pos hquit, if_neg (by simpa using hquit)]
          exact ih b data' hholds
        · rw [if_neg hquit, if_pos (.inl hquit), Option.map_some, taken_of_not_stops hstops]
      · have htext := cstring_of_holds (hholds.append 1)
        simp only [if_neg hlen, htext, scanResponse_eq, hstatus]
        cases hstops : stops (cstring data') with
        | true => simp
        | false =>
          rw [taken_of_not_stops hstops]
          by_cases hquit : quit = 0
          · simp only [hquit]
            exact ih (b.append 1) data' (hholds.append 1)
          · simp [hquit, taken_of_not_stops hstops]

/-- The response that is made of a text. -/
def responseOf (text : List UInt8) : HttpRsp :=
  ⟨(statusOf (cstring text)).getD 0, taken (cstring text)⟩

/-- **A call** over a connection that is opened. -/
theorem httpClientSend_eq (ip : List UInt8) (port : UInt16) (req : HttpReq)
    (calls : List (List Answer)) :
    httpClientSend ip port req (some calls) = (requestText ip port req).bind fun wbuf =>
      (received (Buffer.init 0) [] calls).map fun text =>
        ⟨some wbuf, if (responseOf text).errcode = 0 then none else some (responseOf text)⟩ := by
  have hreceive := receive_eq calls (Buffer.init 0) [] (Buffer.holds_init 0)
  have hstart : (statusOf (cstring [])).getD 0 = 0 := rfl
  rw [hstart] at hreceive
  show (requestText ip port req >>= fun wbuf => receive ⟨0, none⟩ _ calls >>= _) = _
  rw [hreceive]
  cases requestText ip port req with
  | none => rfl
  | some wbuf => cases received (Buffer.init 0) [] calls <;> rfl

/-! ## Texts that are taken for what they announce -/

/-- The `n` bytes announced are there, and end where the text in memory does. -/
def EndsBody (n : ℕ) (rest : List UInt8) : Prop :=
  n ≤ rest.length ∧ 0 ∉ rest.take n ∧ ∀ b ∈ (rest.drop n).head?, b = 0

/-- The body ends where the announced length says, and at no zero before. -/
theorem endsBody_iff (n : ℕ) (rest : List UInt8) :
    EndsBody n rest ↔ n ≤ rest.length ∧ cstring rest = rest.take n := by
  refine and_congr_right fun hn => ?_
  have hsplit : rest.take n ++ rest.drop n = rest := List.take_append_drop n rest
  constructor
  · rintro ⟨hzero, hhead⟩
    have hbehind : cstring (rest.drop n) = [] := by
      cases hdrop : rest.drop n with
      | nil => rfl
      | cons b more =>
        rw [hdrop] at hhead
        have hb := hhead b rfl
        rw [hb]
        rfl
    have happend := cstring_append hzero (rest.drop n)
    rwa [hsplit, hbehind, List.append_nil] at happend
  · intro htake
    have hzero : 0 ∉ rest.take n := by
      rw [← htake]
      exact zero_not_mem_cstring rest
    refine ⟨hzero, ?_⟩
    intro b hb
    have happend := cstring_append hzero (rest.drop n)
    rw [hsplit, htake] at happend
    have hbehind : cstring (rest.drop n) = [] := List.self_eq_append_right.mp happend
    cases hdrop : rest.drop n with
    | nil =>
      rw [hdrop] at hb
      cases hb
    | cons c more =>
      rw [hdrop] at hb hbehind
      cases hb
      by_contra hne
      rw [cstring, List.takeWhile_cons_of_pos (by simpa using hne)] at hbehind
      cases hbehind

/-- **The blank line** behind a field of the header section is the one that ends it, if the
text in memory reaches so far. -/
theorem strstr_blank_of_field {text head rest pos : List UInt8}
    (hsplit : text = head ++ (blankLine ++ rest))
    (hfirst : strstr blankLine text = some (blankLine ++ rest)) (hpos : pos <:+ cstring text)
    (hhead : (cstring text).length - pos.length ≤ head.length) (behind : List UInt8) :
    strstr blankLine pos = some (blankLine ++ behind) ↔ 0 ∉ head ∧ behind = cstring rest := by
  obtain ⟨before, hbefore⟩ := hpos
  have hlength : (cstring text).length - pos.length = before.length := by
    rw [← hbefore, List.length_append]
    omega
  rw [hlength] at hhead
  have hat : text.length - (blankLine ++ rest).length = head.length := by
    rw [hsplit, List.length_append]
    omega
  have hmem : cstring text <+: text := List.takeWhile_prefix _
  have hinside : ∀ i, pos.drop i <+: text.drop (before.length + i) := by
    intro i
    have hdrop := hmem.drop (before.length + i)
    rwa [← hbefore, ← List.drop_drop, List.drop_left] at hdrop
  have hfound : 0 ∉ head → strstr blankLine pos = some (blankLine ++ cstring rest) := by
    intro hzero
    have hblank : (0 : UInt8) ∉ blankLine := by decide
    have htext : cstring text = head ++ (blankLine ++ cstring rest) := by
      rw [hsplit, cstring_append hzero, cstring_append hblank]
    have hdrop : pos = head.drop before.length ++ (blankLine ++ cstring rest) := by
      rw [← List.drop_append_of_le_length hhead, ← htext, ← hbefore, List.drop_left]
    rw [hdrop]
    apply strstr_append
    · exact List.prefix_append _ _
    · intro i hi hocc
      rw [← hdrop] at hocc
      have hin := hocc.trans (hinside i)
      have hle := le_of_strstr hfirst hin
      rw [List.length_drop] at hi
      omega
  constructor
  · intro h
    have hzero : 0 ∉ head := by
      obtain ⟨mid, hmid⟩ := strstr_suffix h
      have hocc : blankLine <+: text.drop (before.length + mid.length) := by
        refine List.IsPrefix.trans ?_ (hinside mid.length)
        rw [← hmid, List.drop_left]
        exact List.prefix_append _ _
      have hle := le_of_strstr hfirst hocc
      have hlonger : head.length ≤ (cstring text).length := by
        rw [← hbefore, ← hmid, List.length_append, List.length_append]
        omega
      have hbegins : head <+: cstring text := by
        apply List.prefix_of_prefix_length_le _ hmem hlonger
        rw [hsplit]
        exact List.prefix_append _ _
      intro hin
      exact zero_not_mem_cstring text (hbegins.subset hin)
    refine ⟨hzero, ?_⟩
    have heq := h.symm.trans (hfound hzero)
    exact List.append_cancel_left (Option.some.inj heq)
  · rintro ⟨hzero, rfl⟩
    exact hfound hzero

/-- The field `pos` with the number `len`, which the code goes by, leads to the `n` bytes that
`rest` begins with. -/
structure LeadsToBody (text : List UInt8) (n : ℕ) (head rest pos : List UInt8) (len : UInt32) :
    Prop where
  field : findContentLength (cstring text) = some pos
  value : scanContentLength pos = some len
  len_pos : 0 < len
  len_le : len.toNat ≤ n
  /-- The field is one of the header section. -/
  inHead : (cstring text).length - pos.length ≤ head.length → 0 ∉ head ∧ EndsBody n rest
  /-- The field stands in the body. -/
  inBody : head.length < (cstring text).length - pos.length →
    n ≤ rest.length ∧ strstr blankLine pos = some (blankLine ++ rest.take n)

/-- There is no status line, or its code is 0; or the text announces no byte and none is
taken; or the code finds the body that is announced. -/
def GoodText (text : List UInt8) : Prop :=
  (statusOf (cstring text)).getD 0 = 0 ∨
    (∃ head rest, Announces text 0 head rest ∧ ∀ behind, ¬ Takes (cstring text) behind) ∨
    ∃ n head rest pos len, Announces text n head rest ∧ LeadsToBody text n head rest pos len

/-- The field that is found is the end of the text. -/
theorem suffix_of_findContentLength {text pos : List UInt8}
    (h : findContentLength text = some pos) : pos <:+ text := by
  unfold findContentLength at h
  split at h
  · rename_i heq
    cases h
    exact strstr_suffix heq
  · exact strstr_suffix h

/-- A field that leads to the body has it taken. -/
theorem LeadsToBody.takes {text head rest pos : List UInt8} {n : ℕ} {len : UInt32}
    (hannounces : Announces text n head rest) (h : LeadsToBody text n head rest pos len) :
    n ≤ rest.length ∧ TakesFrom pos (rest.take n) := by
  have hpos := suffix_of_findContentLength h.field
  obtain ⟨hle, hblank⟩ : n ≤ rest.length ∧
      strstr blankLine pos = some (blankLine ++ rest.take n) := by
    by_cases hhead : (cstring text).length - pos.length ≤ head.length
    · obtain ⟨hzero, hends⟩ := h.inHead hhead
      obtain ⟨hle, hrest⟩ := (endsBody_iff n rest).mp hends
      refine ⟨hle, ?_⟩
      exact (strstr_blank_of_field hannounces.split hannounces.first hpos hhead _).mpr
        ⟨hzero, hrest.symm⟩
    · exact h.inBody (by omega)
  refine ⟨hle, ⟨len, h.value, h.len_pos, ?_⟩, hblank⟩
  rw [List.length_take_of_le hle]
  exact h.len_le

/-- And if it is taken, the field leads to it. -/
theorem leadsToBody_of_takes {text head rest pos : List UInt8} {n : ℕ}
    (hannounces : Announces text n head rest) (hle : n ≤ rest.length)
    (hfield : findContentLength (cstring text) = some pos) (h : TakesFrom pos (rest.take n)) :
    ∃ len, LeadsToBody text n head rest pos len := by
  obtain ⟨⟨len, hvalue, hlenPos, hlenLe⟩, hblank⟩ := h
  rw [List.length_take_of_le hle] at hlenLe
  refine ⟨len, hfield, hvalue, hlenPos, hlenLe, ?_, fun _ => ⟨hle, hblank⟩⟩
  intro hhead
  have hpos := suffix_of_findContentLength hfield
  obtain ⟨hzero, hrest⟩ :=
    (strstr_blank_of_field hannounces.split hannounces.first hpos hhead _).mp hblank
  exact ⟨hzero, (endsBody_iff n rest).mpr ⟨hle, hrest.symm⟩⟩

/-- **The text decides**: a response made of it has the body it announces, or there is none. -/
theorem goodText_iff (text : List UInt8) :
    ((statusOf (cstring text)).getD 0 ≠ 0 → HasBody text ((taken (cstring text)).getD [])) ↔
      GoodText text := by
  constructor
  · intro h
    by_cases hstatus : (statusOf (cstring text)).getD 0 = 0
    · exact .inl hstatus
    · obtain ⟨n, head, rest, hannounces, hle, hbody⟩ := h hstatus
      cases htaken : taken (cstring text) with
      | none =>
        rw [htaken] at hbody
        have hlength := congrArg List.length hbody
        rw [List.length_take_of_le hle] at hlength
        have hzero : n = 0 := hlength.symm
        subst hzero
        refine .inr (.inl ⟨head, rest, hannounces, ?_⟩)
        intro behind htakes
        rw [(taken_eq_some_iff _ _).mpr htakes] at htaken
        cases htaken
      | some behind =>
        rw [htaken] at hbody
        have hbehind : behind = rest.take n := hbody
        subst hbehind
        obtain ⟨-, pos, hfield, hfrom⟩ := (taken_eq_some_iff _ _).mp htaken
        obtain ⟨len, hleads⟩ := leadsToBody_of_takes hannounces hle hfield hfrom
        exact .inr (.inr ⟨n, head, rest, pos, len, hannounces, hleads⟩)
  · rintro (hstatus | ⟨head, rest, hannounces, hnone⟩ |
      ⟨n, head, rest, pos, len, hannounces, hleads⟩)
      hcode
    · exact absurd hstatus hcode
    · refine ⟨0, head, rest, hannounces, Nat.zero_le _, ?_⟩
      cases htaken : taken (cstring text) with
      | none => rfl
      | some behind => exact absurd ((taken_eq_some_iff _ _).mp htaken) (hnone behind)
    · obtain ⟨hle, hfrom⟩ := hleads.takes hannounces
      refine ⟨n, head, rest, hannounces, hle, ?_⟩
      have hknown : ∃ code, statusOf (cstring text) = some code := by
        cases hstatus : statusOf (cstring text) with
        | none =>
          rw [hstatus] at hcode
          exact absurd rfl hcode
        | some code => exact ⟨code, rfl⟩
      have htakes : Takes (cstring text) (rest.take n) := ⟨hknown, pos, hleads.field, hfrom⟩
      rw [(taken_eq_some_iff _ _).mpr htakes]
      rfl

/-! ## Calls -/

/-- What the call returns has the body that the text it has received announces. -/
def CompleteOrAbsent (ip : List UInt8) (port : UInt16) (req : HttpReq)
    (calls : List (List Answer)) : Prop :=
  ∀ e rsp text, httpClientSend ip port req (some calls) = some e → e.response = some rsp →
    received (Buffer.init 0) [] calls = some text → HasBody text (rsp.body.getD [])

/-- **Complete or absent.**  Whatever the reads of a connection bring, the result of
`http_client_send` is what it should be exactly if the text that has been received when the
loop stops is taken for what it announces. -/
theorem http_result_iff (ip : List UInt8) (port : UInt16) (req : HttpReq)
    (calls : List (List Answer)) :
    CompleteOrAbsent ip port req calls ↔
      ∀ wbuf text, requestText ip port req = some wbuf →
        received (Buffer.init 0) [] calls = some text → GoodText text := by
  have hsend : ∀ wbuf text, requestText ip port req = some wbuf →
      received (Buffer.init 0) [] calls = some text →
      httpClientSend ip port req (some calls) = some ⟨some wbuf,
        if (statusOf (cstring text)).getD 0 = 0 then none
        else some ⟨(statusOf (cstring text)).getD 0, taken (cstring text)⟩⟩ := by
    intro wbuf text hwbuf htext
    rw [httpClientSend_eq, hwbuf, htext]
    rfl
  constructor
  · intro h wbuf text hwbuf htext
    apply (goodText_iff text).mp
    intro hcode
    refine h _ ⟨(statusOf (cstring text)).getD 0, taken (cstring text)⟩ text
      (hsend wbuf text hwbuf htext) ?_ htext
    exact if_neg hcode
  · intro h e rsp text he hrsp htext
    cases hwbuf : requestText ip port req with
    | none =>
      have hnone : httpClientSend ip port req (some calls) = none := by
        show (requestText ip port req >>= _) = _
        rw [hwbuf]
        rfl
      rw [hnone] at he
      cases he
    | some wbuf =>
      rw [hsend wbuf text hwbuf htext] at he
      cases he
      by_cases hcode : (statusOf (cstring text)).getD 0 = 0
      · rw [if_pos hcode] at hrsp
        cases hrsp
      · rw [if_neg hcode] at hrsp
        cases hrsp
        exact (goodText_iff text).mpr (h wbuf text hwbuf htext) hcode

/-- One call that reads the status line of a response and then the end of the connection. -/
def cutCall : List Answer :=
  [.select (.ready true false), .read (.data ⟨ascii "HTTP/1.1 200 OK\r\n", by decide, by decide⟩),
    .read .endOfFile]

/-- After the status line alone there is a response with the code 200 and no body. -/
theorem http_result_fails :
    ¬ ∀ (ip : List UInt8) (port : UInt16) (req : HttpReq) (calls : List (List Answer)),
      CompleteOrAbsent ip port req calls := by
  intro h
  have hreceived : received (Buffer.init 0) [] [cutCall] = some (ascii "HTTP/1.1 200 OK\r\n") := by
    decide +kernel
  have hreceive : receive HttpRsp.zero (Buffer.init 0) [cutCall] = some ⟨200, none⟩ := by
    decide +kernel
  have hrequest : requestText (ascii "192.168.42.129") 80
      (httpClientMakeReq (ascii "GET") (ascii "/d.xml")) =
      some (ascii "GET /d.xml HTTP/1.0\r\nHost: 192.168.42.129:80\r\n\r\n") := rfl
  have hsend : httpClientSend (ascii "192.168.42.129") 80
      (httpClientMakeReq (ascii "GET") (ascii "/d.xml")) (some [cutCall]) =
      some ⟨some (ascii "GET /d.xml HTTP/1.0\r\nHost: 192.168.42.129:80\r\n\r\n"),
        some ⟨200, none⟩⟩ := by
    show (requestText _ _ _ >>= fun wbuf => receive HttpRsp.zero _ [cutCall] >>= _) = _
    rw [hrequest, hreceive]
    rfl
  obtain ⟨n, head, rest, hannounces, -⟩ := h _ _ _ _ _ _ _ hsend rfl hreceived
  have hnone : strstr blankLine (ascii "HTTP/1.1 200 OK\r\n") = none := rfl
  rw [hannounces.first] at hnone
  cases hnone

end MirrorLink.Analysis
