import MirrorLink.Analysis.TransferRule
import MirrorLink.Program.Session

/-!
# What is transferred

`conn_read` keeps its offset, the length that remains and the bytes of the stream it has taken
in step: `ReadSoFar`.  `conn_write` does the same with what it has written: `WrittenSoFar`.
Neither depends on how `select` answers, on how the bytes are cut, or on how often a call is
interrupted; `exact_transfer` reads off them what is moved when the functions return.
-/

set_option autoImplicit false

namespace MirrorLink.Analysis

open MirrorLink.Library MirrorLink.Program

/-- What has been moved is counted without a carry. -/
theorem toNat_add_ofNat {r : UInt32} {n : ℕ} (h : r.toNat + n < 2 ^ 32) :
    (r + UInt32.ofNat n).toNat = r.toNat + n := by
  rw [UInt32.toNat_add, UInt32.toNat_ofNat_of_lt' (show n < 2 ^ 32 by omega), Nat.mod_eq_of_lt h]

/-- What is still to be moved is counted down to zero. -/
theorem toNat_sub_ofNat {len : UInt32} {n : ℕ} (h : n ≤ len.toNat) :
    (len - UInt32.ofNat n).toNat = len.toNat - n := by
  have hlen := len.toNat_lt
  have hn : (UInt32.ofNat n).toNat = n := UInt32.toNat_ofNat_of_lt' (show n < 2 ^ 32 by omega)
  rw [UInt32.toNat_sub_of_le _ _ (by rw [UInt32.le_iff_toNat_le, hn]; exact h), hn]

/-! ## `conn_read` -/

/-- Where `conn_read` is: what it has taken from the stream is in the buffer, `r` counts it,
and `len` is what is missing. -/
structure ReadSoFar (buf : List UInt8) (len : UInt32) (h : History) (d : Moving) : Prop where
  counts : d.r.toNat = (h.flatMap bytesRead).length
  missing : d.r.toNat + d.len.toNat = len.toNat
  stored : d.buf = h.flatMap bytesRead ++ buf.drop (h.flatMap bytesRead).length

/-- What `conn_read` returns. -/
def ReadReturns (buf : List UInt8) (len : UInt32) (h : History) (result : Result Moving) : Prop :=
  ∃ code d, result = .ok (code, d) ∧ code ≤ 0 ∧ (code = 0 → d.len = 0) ∧ ReadSoFar buf len h d

/-- An answer without bytes leaves what has been read. -/
theorem ReadSoFar.append_nil {buf : List UInt8} {len : UInt32} {h : History} {d : Moving}
    (hd : ReadSoFar buf len h d) {e : SysCall × SysAnswer} (he : bytesRead e = []) :
    ReadSoFar buf len (h ++ [e]) d := by
  have hbytes : (h ++ [e]).flatMap bytesRead = h.flatMap bytesRead := by
    rw [History.flatMap_snoc, he, List.append_nil]
  constructor
  · rw [hbytes]
    exact hd.counts
  · exact hd.missing
  · rw [hbytes]
    exact hd.stored

/-- A piece is stored behind the pieces before it. -/
theorem storeAt_append (taken buf bytes : List UInt8) {r : UInt32} (hr : r.toNat = taken.length) :
    storeAt (taken ++ buf.drop taken.length) r bytes =
      taken ++ bytes ++ buf.drop (taken ++ bytes).length := by
  unfold storeAt
  rw [hr, List.take_left, List.drop_left, overlay, List.drop_drop, List.length_append,
    List.append_assoc]

/-- A piece is added to what has been read. -/
theorem ReadSoFar.data {buf : List UInt8} {len : UInt32} {h : History} {d : Moving}
    (hd : ReadSoFar buf len h d) {e : SysCall × SysAnswer} {bytes : List UInt8}
    (he : bytesRead e = bytes) (hle : bytes.length ≤ d.len.toNat) :
    ReadSoFar buf len (h ++ [e]) ⟨d.r + UInt32.ofNat bytes.length,
      d.len - UInt32.ofNat bytes.length, storeAt d.buf d.r bytes⟩ := by
  have hlen := len.toNat_lt
  have hmissing := hd.missing
  have hbytes : (h ++ [e]).flatMap bytesRead = h.flatMap bytesRead ++ bytes := by
    rw [History.flatMap_snoc, he]
  have hr : (d.r + UInt32.ofNat bytes.length).toNat = d.r.toNat + bytes.length :=
    toNat_add_ofNat (by omega)
  constructor
  · show (d.r + UInt32.ofNat bytes.length).toNat = _
    rw [hr, hbytes, List.length_append, hd.counts]
  · show (d.r + UInt32.ofNat bytes.length).toNat + (d.len - UInt32.ofNat bytes.length).toNat = _
    rw [hr, toNat_sub_ofNat hle]
    omega
  · show storeAt d.buf d.r bytes = _
    rw [hbytes, hd.stored]
    exact storeAt_append _ _ _ hd.counts

/-- **The loop of `conn_read`.** -/
theorem readRule (fd : ℤ) (buf : List UInt8) (len : UInt32) :
    TransferRule readTransfer fd (ReadSoFar buf len) (ReadSoFar buf len) (ReadReturns buf len) where
  asks _ _ _ _ _ hd := hd.append_nil rfl
  prepares _ _ hd := hd
  answers h d answer hallows hd := by
    cases answer with
    | data piece => exact hd.data rfl hallows
    | endOfFile => exact ⟨-3, d, rfl, by omega, by omega, hd.append_nil rfl⟩
    | failed errno => cases errno <;> exact hd.append_nil rfl
    | _ => exact hallows.elim
  ends h d hd hmore := by
    refine ⟨0, d, rfl, le_refl 0, fun _ => ?_, hd⟩
    simpa [readTransfer] using hmore
  breaks h d code hd hcode := by
    refine ⟨code, d, rfl, ?_, ?_, hd⟩ <;> omega

/-- At the start nothing has been read. -/
theorem readSoFar_start (fd : ℤ) (buf : List UInt8) (len : UInt32) (locals : Locals) :
    Stands (ReadSoFar buf len) (ReadSoFar buf len) (ReadReturns buf len) []
      (connReadFrom fd buf len locals) := by
  refine (readRule fd buf len).whileLoop ⟨rfl, ?_, rfl⟩
  exact Nat.zero_add len.toNat

/-! ## `conn_write` -/

/-- Where `conn_write` is: what it has written is the beginning of the buffer, `r` counts it,
and `len` is what is missing. -/
structure WrittenSoFar (buf : List UInt8) (len : UInt32) (h : History) (d : Moving) : Prop where
  counts : d.r.toNat = (h.flatMap bytesWritten).length
  missing : d.r.toNat + d.len.toNat = len.toNat
  kept : d.buf = buf
  sent : h.flatMap bytesWritten = buf.take d.r.toNat

def WriteReturns (buf : List UInt8) (len : UInt32) (h : History) (result : Result Moving) : Prop :=
  ∃ code d, result = .ok (code, d) ∧ code ≤ 0 ∧ (code = 0 → d.len = 0) ∧ WrittenSoFar buf len h d

/-- An answer without bytes leaves what has been written. -/
theorem WrittenSoFar.append_nil {buf : List UInt8} {len : UInt32} {h : History} {d : Moving}
    (hd : WrittenSoFar buf len h d) {e : SysCall × SysAnswer} (he : bytesWritten e = []) :
    WrittenSoFar buf len (h ++ [e]) d := by
  have hbytes : (h ++ [e]).flatMap bytesWritten = h.flatMap bytesWritten := by
    rw [History.flatMap_snoc, he, List.append_nil]
  constructor
  · rw [hbytes]
    exact hd.counts
  · exact hd.missing
  · exact hd.kept
  · rw [hbytes]
    exact hd.sent

/-- What is accepted is added to what has been written. -/
theorem WrittenSoFar.accepted {buf : List UInt8} {len : UInt32} {h : History} {d : Moving}
    (hd : WrittenSoFar buf len h d) {e : SysCall × SysAnswer} {count : ℕ}
    (he : bytesWritten e = ((d.buf.drop d.r.toNat).take d.len.toNat).take count)
    (hle : count ≤ ((d.buf.drop d.r.toNat).take d.len.toNat).length) :
    WrittenSoFar buf len (h ++ [e])
      ⟨d.r + UInt32.ofNat count, d.len - UInt32.ofNat count, d.buf⟩ := by
  have hlen := len.toNat_lt
  have hmissing := hd.missing
  have hcount : count ≤ d.len.toNat := by
    rw [List.length_take] at hle
    omega
  have hbytes : (h ++ [e]).flatMap bytesWritten =
      h.flatMap bytesWritten ++ (d.buf.drop d.r.toNat).take count := by
    rw [History.flatMap_snoc, he, List.take_take, Nat.min_eq_left hcount]
  have hr : (d.r + UInt32.ofNat count).toNat = d.r.toNat + count := toNat_add_ofNat (by omega)
  constructor
  · show (d.r + UInt32.ofNat count).toNat = _
    rw [List.length_take] at hle
    rw [hr, hbytes, List.length_append, ← hd.counts, List.length_take]
    omega
  · show (d.r + UInt32.ofNat count).toNat + (d.len - UInt32.ofNat count).toNat = _
    rw [hr, toNat_sub_ofNat hcount]
    omega
  · exact hd.kept
  · show _ = buf.take (d.r + UInt32.ofNat count).toNat
    rw [hr, hbytes, hd.sent, hd.kept, ← List.take_add]

/-- **The loop of `conn_write`.** -/
theorem writeRule (fd : ℤ) (buf : List UInt8) (len : UInt32) :
    TransferRule writeTransfer fd (WrittenSoFar buf len) (WrittenSoFar buf len)
      (WriteReturns buf len) where
  asks _ _ _ _ _ hd := hd.append_nil rfl
  prepares _ _ hd := hd
  answers h d answer hallows hd := by
    cases answer with
    | accepted accepted => exact hd.accepted rfl hallows
    | failed errno =>
      cases errno with
      | again => exact hd.append_nil rfl
      | intr => exact hd.append_nil rfl
      | _ => exact ⟨-1, d, rfl, by omega, by omega, hd.append_nil rfl⟩
    | _ => exact hallows.elim
  ends h d hd hmore := by
    refine ⟨0, d, rfl, le_refl 0, fun _ => ?_, hd⟩
    simpa [writeTransfer] using hmore
  breaks h d code hd hcode := by
    refine ⟨code, d, rfl, ?_, ?_, hd⟩ <;> omega

/-- At the start nothing has been written. -/
theorem writtenSoFar_start (fd : ℤ) (buf : List UInt8) (len : UInt32) :
    Stands (WrittenSoFar buf len) (WrittenSoFar buf len) (WriteReturns buf len) []
      (connWriteFrom fd buf len) := by
  refine (writeRule fd buf len).whileLoop ⟨rfl, ?_, rfl, rfl⟩
  exact Nat.zero_add len.toNat

/-! ## What has been moved -/

/-- The first `k` bytes of the stream have been taken from it and are what is in the buffer
now, where the rest is as it was; all `len` of them if the code is 0. -/
def ReadsExactly (buf : List UInt8) (len : UInt32) (stream rest : List UInt8)
    (result : Result Moving) : Prop :=
  ∃ code d k, result = .ok (code, d) ∧ code ≤ 0 ∧ k ≤ len.toNat ∧ (code = 0 → k = len.toNat) ∧
    (stream.take k).length = k ∧ rest = stream.drop k ∧ d.buf = stream.take k ++ buf.drop k

/-- The first `k` bytes of the buffer have been written; all `len` of them if the code is 0. -/
def WritesExactly (buf : List UInt8) (len : UInt32) (written : List UInt8)
    (result : Result Moving) : Prop :=
  ∃ code d k, result = .ok (code, d) ∧ code ≤ 0 ∧ k ≤ len.toNat ∧ (code = 0 → k = len.toNat) ∧
    written.length = k ∧ written = buf.take k ∧ d.buf = buf

/-- A read that returns has taken exactly its bytes from the stream. -/
theorem ReadReturns.exactly {buf : List UInt8} {len : UInt32} {h : History}
    {result : Result Moving} (hr : ReadReturns buf len h result) (rest : List UInt8) :
    ReadsExactly buf len (h.flatMap bytesRead ++ rest) rest result := by
  obtain ⟨code, d, rfl, hcode, hzero, hd⟩ := hr
  have hmissing := hd.missing
  have hcounts := hd.counts
  refine ⟨code, d, (h.flatMap bytesRead).length, rfl, hcode, by omega, ?_, ?_, ?_, ?_⟩
  · intro h0
    have hlen : d.len.toNat = 0 := by rw [hzero h0]; rfl
    omega
  · rw [List.take_left]
  · rw [List.drop_left]
  · rw [List.take_left]
    exact hd.stored

/-- A write that returns has handed over exactly its bytes. -/
theorem WriteReturns.exactly {buf : List UInt8} {len : UInt32} {h : History}
    {result : Result Moving} (hr : WriteReturns buf len h result) :
    WritesExactly buf len (h.flatMap bytesWritten) result := by
  obtain ⟨code, d, rfl, hcode, hzero, hd⟩ := hr
  have hmissing := hd.missing
  refine ⟨code, d, d.r.toNat, rfl, hcode, by omega, ?_, hd.counts.symm, hd.sent, hd.kept⟩
  intro h0
  have hlen : d.len.toNat = 0 := by rw [hzero h0]; rfl
  omega

/-- **Exact transfer.**  However the system answers, as long as it keeps to its contract,
`conn_read` has moved a beginning of the stream into the buffer when it returns, and
`conn_write` a beginning of the buffer onto the stream: all `len` bytes if they return 0. -/
theorem exact_transfer (fd : ℤ) (buf : List UInt8) (len : UInt32) (locals : Locals)
    (answers : List SysAnswer) :
    (∀ stream rest result,
      readTransfer.Permitted fd (connReadFrom fd buf len locals) answers →
      stream = (readTransfer.history fd (connReadFrom fd buf len locals) answers).flatMap
        bytesRead ++ rest →
      readTransfer.after fd (connReadFrom fd buf len locals) answers = .returned result →
        ReadsExactly buf len stream rest result) ∧
    (∀ result,
      writeTransfer.Permitted fd (connWriteFrom fd buf len) answers →
      writeTransfer.after fd (connWriteFrom fd buf len) answers = .returned result →
        WritesExactly buf len
          ((writeTransfer.history fd (connWriteFrom fd buf len) answers).flatMap bytesWritten)
          result) := by
  constructor
  · rintro stream rest result hpermitted rfl hreturned
    have hreturns := (readRule fd buf len).run_returned (readSoFar_start fd buf len locals)
      hpermitted hreturned
    exact hreturns.exactly rest
  · intro result hpermitted hreturned
    have hreturns := (writeRule fd buf len).run_returned (writtenSoFar_start fd buf len)
      hpermitted hreturned
    exact hreturns.exactly

/-- A signal in `select`, a short read, a signal in `read`, and the rest. -/
def samplePieces : List SysAnswer :=
  [.select (.failed .intr) ⟨0, 0⟩, .select (.ready {5} ∅ ∅) ⟨0, 0⟩,
    .data ⟨[1], by decide, by decide⟩, .select (.ready {5} ∅ ∅) ⟨0, 0⟩, .failed .again,
    .select (.ready {5} ∅ ∅) ⟨0, 0⟩, .failed .intr,
    .data ⟨[2, 3], by decide, by decide⟩]

/-- The same for `write`. -/
def sampleAccepted : List SysAnswer :=
  [.select (.ready ∅ {5} ∅) ⟨0, 0⟩, .accepted ⟨1, by decide, by decide⟩,
    .select (.ready ∅ {5} ∅) ⟨0, 0⟩, .failed .intr, .accepted ⟨2, by decide, by decide⟩]

/-- Three bytes are moved in two pieces with an interruption, in both directions. -/
theorem exact_transfer_in_two_pieces :
    ReadsExactly [7, 8, 9, 10] 3 [1, 2, 3, 4] [4] (.ok (0, ⟨3, 0, [1, 2, 3, 10]⟩)) ∧
      WritesExactly [7, 8, 9, 10] 3 [7, 8, 9] (.ok (0, ⟨3, 0, [7, 8, 9, 10]⟩)) := by
  constructor
  · refine (exact_transfer 5 [7, 8, 9, 10] 3 ⟨∅, ∅, ⟨0, 0⟩⟩ samplePieces).1 _ _ _ ?_ rfl rfl
    exact ⟨trivial, trivial, show 1 ≤ 3 by omega, trivial, trivial, trivial, trivial,
      show 2 ≤ 2 by omega, trivial⟩
  · refine (exact_transfer 5 [7, 8, 9, 10] 3 ⟨∅, ∅, ⟨0, 0⟩⟩ sampleAccepted).2 _ ?_ rfl
    exact ⟨trivial, show 1 ≤ 3 by omega, trivial, trivial, show 2 ≤ 2 by omega, trivial⟩

/-! ## The calls of a session -/

/-- **The contract of a session's reads.**  If `conn_read` has read everything it was asked
for, or all that was left of the stream, it has done what the session takes `connRead` for. -/
theorem connRead_of_readsExactly {c : Client} {buf rest : List UInt8} {len : UInt32} {code : ℤ}
    {d : Moving} (h : ReadsExactly buf len c.unread rest (.ok (code, d)))
    (hend : code = 0 ∨ rest = []) :
    ((connRead buf len.toNat).run c).val = d.buf ∧
      ((connRead buf len.toNat).run c).state.unread = rest := by
  obtain ⟨code', d', k, hresult, -, hk, hzero, hlength, hrest, hbuf⟩ := h
  cases hresult
  have htake : c.unread.take len.toNat = c.unread.take k ∧ c.unread.drop len.toNat = rest := by
    rcases hend with h0 | hnil
    · rw [hrest, hzero h0]
      exact ⟨rfl, rfl⟩
    · have hwhole : c.unread.length ≤ k := List.drop_eq_nil_iff.mp (hrest.symm.trans hnil)
      rw [List.take_of_length_le (by omega), List.take_of_length_le hwhole, hnil,
        List.drop_eq_nil_of_le (by omega)]
      exact ⟨rfl, rfl⟩
  rw [run_connRead]
  refine ⟨?_, ?_⟩
  · show overlay (c.unread.take len.toNat) buf = d.buf
    rw [htake.1, overlay, hlength, hbuf]
  · exact htake.2

/-- **The contract of a session's writes.**  `conn_write` that returns 0 has written what
`connWrite` is taken to write. -/
theorem connWrite_of_writesExactly {data written : List UInt8} {len : UInt32} {d : Moving}
    (h : WritesExactly data len written (.ok (0, d))) (hlen : len.toNat = data.length)
    (c : Client) : ((connWrite data).run c).effects = [.write written] := by
  obtain ⟨code, d', k, hresult, -, -, hzero, -, hwritten, -⟩ := h
  cases hresult
  have hall : written = data := by
    rw [hwritten, hzero rfl, hlen, List.take_length]
  rw [run_connWrite, hall]

end MirrorLink.Analysis
