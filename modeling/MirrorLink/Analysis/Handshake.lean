import MirrorLink.Analysis.Doworks
import MirrorLink.Interface.ServerHandshake
import Mathlib.Data.List.GetD

/-!
# The handshake accepts its grammar

Each phase has two lemmas: what it does on a stream that begins with its part of the
grammar, and that a phase whose reads complete either found its part of the grammar or
returns having written nothing.  Composed along the phases they give the two directions of
`handshake_grammar`.
-/

set_option autoImplicit false

namespace MirrorLink.Analysis

open MirrorLink.Library MirrorLink.Program Effectful

/-- **A read that completes** has taken the first bytes of the stream, and what follows it
goes on with them. -/
theorem complete_connRead_bind {α : Type} (c : Client) (buf : List UInt8) (n : ℕ)
    (f : List UInt8 → Session α) (hbuf : buf.length ≤ n)
    (h : Complete ((connRead buf n >>= f).run c).effects) :
    ∃ bytes more, c.unread = bytes ++ more ∧ bytes.length = n ∧
      (connRead buf n >>= f).run c =
        ((f bytes).run { c with unread := more }).after [.read buf.length n 0] ∧
      Complete ((f bytes).run { c with unread := more }).effects := by
  rw [effects_bind, run_connRead, complete_append, complete_read,
    Client.readCode_eq_zero_iff] at h
  have hlen : (c.unread.take n).length = n := List.length_take_of_le h.1.1
  have hread := run_connRead_append c buf (List.take_append_drop n c.unread).symm hlen hbuf
  have hrest := h.2
  rw [← run_connRead, hread] at hrest
  exact ⟨c.unread.take n, c.unread.drop n, (List.take_append_drop n c.unread).symm, hlen,
    run_bind_of hread f, hrest⟩

/-! ## Protocol version -/

/-- A known version is read, and written back. -/
theorem run_version (v : RfbVersion) (c : Client) (more : List UInt8)
    (hu : c.unread = v.bytes ++ more) :
    protocolVersionHandshake.run c = ⟨some v.digit, { c.draw 12 with unread := more },
      [.read 12 12 0, .write v.bytes]⟩ := by
  have hread := run_connRead_append (c.draw 12) (c.indeterminate 12) hu v.length_bytes
    (Client.length_indeterminate _ _).le
  have hknown : ¬ (v.bytes ≠ version37 ∧ v.bytes ≠ version38) := by
    cases v <;> simp [RfbVersion.bytes]
  unfold protocolVersionHandshake
  rw [run_uninitialised_bind, run_bind_of hread, if_neg hknown, run_bind_of (run_connWrite _ _),
    Client.length_indeterminate]
  cases v <;> rfl

/-- A known version is accepted. -/
theorem version_accepts (v : RfbVersion) (c : Client) (more : List UInt8)
    (hu : c.unread = v.bytes ++ more) :
    let o := protocolVersionHandshake.run c
    o.val = some v.digit ∧ o.state.unread = more ∧ o.state.session = c.session ∧
      writes o.effects = [v.bytes] := by
  rw [run_version v c more hu]
  exact ⟨rfl, rfl, rfl, rfl⟩

/-- A version handshake whose reads complete has found a version or writes nothing. -/
theorem version_complete (c : Client)
    (h : Complete (protocolVersionHandshake.run c).effects) :
    (∃ (v : RfbVersion) (more : List UInt8), c.unread = v.bytes ++ more) ∨
      ((protocolVersionHandshake.run c).val = none ∧
        writes (protocolVersionHandshake.run c).effects = []) := by
  unfold protocolVersionHandshake at h ⊢
  rw [run_uninitialised_bind] at h ⊢
  obtain ⟨bytes, more, hu, -, ho, -⟩ := complete_connRead_bind (c.draw 12) _ 12 _
    (Client.length_indeterminate _ _).le h
  by_cases h37 : bytes = version37
  · exact .inl ⟨.v37, more, by rw [← Client.unread_draw c 12, hu, h37]; rfl⟩
  · by_cases h38 : bytes = version38
    · exact .inl ⟨.v38, more, by rw [← Client.unread_draw c 12, hu, h38]; rfl⟩
    · right
      rw [ho, if_pos ⟨h37, h38⟩]
      exact ⟨rfl, rfl⟩

/-! ## Security -/

/-- The flag says whether no security is among the types. -/
theorem securityFlag_eq (types : List UInt8) :
    securityFlag types = if 1 ∈ types then 1 else 0 := by
  have hfold : ∀ flag : UInt8, types.foldl (fun flag b => if b = 1 then 1 else flag) flag =
      if 1 ∈ types then 1 else flag := by
    induction types with
    | nil => intro flag; rfl
    | cons b types ih =>
      intro flag
      rw [List.foldl_cons, ih]
      by_cases hb : b = 1
      · simp [hb]
      · simp [hb, Ne.symm hb]
  exact hfold 0

/-- The types are read, and no security is chosen. -/
theorem run_security (types : List UInt8) (hlt : types.length < 256) (hnone : 1 ∈ types)
    (c : Client) (more : List UInt8)
    (hu : c.unread = UInt8.ofNat types.length :: types ++ more) :
    securityHandshake.run c = ⟨true, { c.draw types.length with unread := more },
      [.read 1 1 0, .read types.length types.length 0, .write [1]]⟩ := by
  have hnum : (UInt8.ofNat types.length).toNat = types.length := UInt8.toNat_ofNat_of_lt' hlt
  have hpos : UInt8.ofNat types.length ≠ 0 := by
    intro h0
    rw [h0] at hnum
    exact List.ne_nil_of_mem hnone (List.eq_nil_of_length_eq_zero hnum.symm)
  have hfirst := run_connRead_append (n := 1) c [0]
    (show c.unread = [UInt8.ofNat types.length] ++ (types ++ more) from hu) rfl le_rfl
  unfold securityHandshake
  rw [run_bind_of hfirst]
  simp only [List.getD_cons_zero, if_neg hpos, hnum]
  rw [run_uninitialised_bind,
    run_bind_of (run_connRead_append _ _ (show _ = types ++ more from rfl) rfl
      (Client.length_indeterminate _ _).le), securityFlag_eq, if_pos hnone, if_pos (by decide),
    run_bind_of (run_connWrite _ _), Client.length_indeterminate]
  rfl

/-- A list with no security in it is accepted. -/
theorem security_accepts (types : List UInt8) (hlt : types.length < 256) (hnone : 1 ∈ types)
    (c : Client) (more : List UInt8)
    (hu : c.unread = UInt8.ofNat types.length :: types ++ more) :
    let o := securityHandshake.run c
    o.val = true ∧ o.state.unread = more ∧ o.state.session = c.session ∧
      writes o.effects = [[1]] := by
  rw [run_security types hlt hnone c more hu]
  exact ⟨rfl, rfl, rfl, rfl⟩

/-- If every read is complete there was such a list, or it is refused in silence. -/
theorem security_complete (c : Client) (h : Complete (securityHandshake.run c).effects) :
    (∃ types more, types.length < 256 ∧ 1 ∈ types ∧
        c.unread = UInt8.ofNat types.length :: types ++ more) ∨
      ((securityHandshake.run c).val = false ∧ writes (securityHandshake.run c).effects = []) := by
  unfold securityHandshake at h ⊢
  obtain ⟨bytes, more, hu, hlen, ho, hrest⟩ := complete_connRead_bind c _ 1 _ le_rfl h
  obtain ⟨num, rfl⟩ := List.length_eq_one_iff.mp hlen
  simp only [List.getD_cons_zero] at ho hrest
  by_cases h0 : num = 0
  · right
    rw [ho, if_pos h0]
    exact ⟨rfl, rfl⟩
  · rw [if_neg h0] at ho hrest
    rw [run_uninitialised_bind] at ho hrest
    obtain ⟨types, more', hu', hlen', ho', -⟩ :=
      complete_connRead_bind _ _ _ _ (Client.length_indeterminate _ _).le hrest
    by_cases hnone : 1 ∈ types
    · left
      have hnum := num.toNat_lt
      refine ⟨types, more', by omega, hnone, ?_⟩
      rw [hu, hlen', UInt8.ofNat_toNat]
      exact congrArg (num :: ·) hu'
    · right
      rw [ho, ho', securityFlag_eq, if_neg hnone, if_neg (by decide)]
      exact ⟨rfl, rfl⟩

/-! ## Security result -/

/-- The result of the version is accepted. -/
theorem result_accepts (v : RfbVersion) (c : Client) (more : List UInt8)
    (hu : c.unread = v.securityResult ++ more) :
    let o := (securityResultHandshake v.digit).run c
    o.val = true ∧ o.state.unread = more ∧ o.state.session = c.session ∧
      writes o.effects = [] := by
  intro o
  have ho : o = (securityResultHandshake v.digit).run c := rfl
  unfold securityResultHandshake at ho
  cases v with
  | v37 =>
    rw [if_neg (by decide)] at ho
    rw [ho]
    exact ⟨rfl, hu, rfl, rfl⟩
  | v38 =>
    rw [if_pos (show RfbVersion.v38.digit = 8 from rfl), run_uninitialised_bind,
      run_bind_of (run_connRead_append (n := 4) (c.draw 4) _ hu rfl
        (Client.length_indeterminate _ _).le), if_neg (by decide), if_neg (by decide)] at ho
    rw [ho]
    exact ⟨rfl, rfl, rfl, rfl⟩

/-- Only four zeros make a zero. -/
theorem le32_eq_zero {b0 b1 b2 b3 : UInt8} (h : le32 b0 b1 b2 b3 = 0) :
    b0 = 0 ∧ b1 = 0 ∧ b2 = 0 ∧ b3 = 0 := by
  have hbytes := be32Bytes_be32 b3 b2 b1 b0
  rw [show be32 b3 b2 b1 b0 = 0 from h] at hbytes
  have hzero : be32Bytes 0 = [0, 0, 0, 0] := by decide
  rw [hzero] at hbytes
  simp only [List.cons.injEq] at hbytes
  obtain ⟨h3, h2, h1, h0, -⟩ := hbytes
  exact ⟨h0.symm, h1.symm, h2.symm, h3.symm⟩

/-- If every read is complete there was such a result, or it is refused in silence. -/
theorem result_complete (v : RfbVersion) (c : Client)
    (h : Complete ((securityResultHandshake v.digit).run c).effects) :
    (∃ more, c.unread = v.securityResult ++ more) ∨
      (((securityResultHandshake v.digit).run c).val = false ∧
        writes ((securityResultHandshake v.digit).run c).effects = []) := by
  cases v with
  | v37 => exact .inl ⟨c.unread, rfl⟩
  | v38 =>
    unfold securityResultHandshake at h ⊢
    rw [if_pos (show RfbVersion.v38.digit = 8 from rfl), run_uninitialised_bind] at h ⊢
    obtain ⟨bytes, more, hu, hlen, ho, -⟩ := complete_connRead_bind (c.draw 4) _ 4 _
      (Client.length_indeterminate _ _).le h
    obtain ⟨b0, b1, b2, b3, rfl⟩ := List.length_eq_four.mp hlen
    simp only [List.getD_cons_zero, List.getD_cons_succ] at ho
    by_cases h1 : le32 b0 b1 b2 b3 = 1
    · right
      rw [ho, if_pos h1]
      exact ⟨rfl, rfl⟩
    · by_cases h0 : le32 b0 b1 b2 b3 = 0
      · left
        obtain ⟨rfl, rfl, rfl, rfl⟩ := le32_eq_zero h0
        exact ⟨more, hu⟩
      · right
        rw [ho, if_neg h1, if_pos h0]
        exact ⟨rfl, rfl⟩

/-! ## ServerInit -/

/-- The length of the name stands at the end of the header. -/
theorem nameLength_header (m : ServerInit) :
    be32 (m.header.getD 20 0) (m.header.getD 21 0) (m.header.getD 22 0) (m.header.getD 23 0) =
      m.nameLength := by
  have htail : ∀ i, m.header.getD (20 + i) 0 = (be32Bytes m.nameLength).getD i 0 := by
    intro i
    rw [ServerInit.header, List.getD_append_right _ _ _ _ (by simp)]
    congr 1
    simp
  have h0 := htail 0
  have h1 := htail 1
  have h2 := htail 2
  have h3 := htail 3
  rw [Nat.add_zero] at h0
  rw [h0, h1, h2, h3]
  exact be32_bytes m.nameLength

/-- Growing the buffer leaves what is in it. -/
theorem getD_append_full (bytes : List UInt8) (n i : ℕ) (h : i < bytes.length) :
    ((Buffer.full bytes).append n).buf.getD i 0 = bytes.getD i 0 := by
  have htake := (Buffer.full bytes).take_append n
  have hi := congrArg (fun l => l.getD i 0) htake
  simp only [List.getD_eq_getElem?_getD, Buffer.len_full, Buffer.buf_full] at hi ⊢
  rwa [List.getElem?_take_of_lt h, List.getElem?_take_of_lt h] at hi

/-- What the phase does with a whole header and whatever comes after it. -/
theorem run_initializationMessages (m : ServerInit) (c : Client) (more : List UInt8)
    (hu : c.unread = m.header ++ more) :
    let o := initializationMessages.run c
    o.state.unread = more.drop m.nameLength.toNat ∧
      o.state.session = { c.session with rfbWidth := m.width, rfbHeight := m.height } ∧
      writes o.effects = [[0]] ∧ (Complete o.effects ↔ m.nameLength.toNat ≤ more.length) := by
  have hwidth : be16 (m.header.getD 0 0) (m.header.getD 1 0) = m.width := be16_bytes m.width
  have hheight : be16 (m.header.getD 2 0) (m.header.getD 3 0) = m.height := be16_bytes m.height
  intro o
  have ho : o = initializationMessages.run c := rfl
  unfold initializationMessages at ho
  rw [run_bind_of (run_connWrite _ _), run_bind_of (run_connRead_append (n := 24) c _ hu
    m.length_header (by simp [Buffer.init]))] at ho
  have hkeep := getD_append_full m.header m.nameLength.toNat
  rw [ServerInit.length_header] at hkeep
  simp only [Buffer.buf_full, nameLength_header, hkeep 0 (by omega), hkeep 1 (by omega),
    hkeep 2 (by omega), hkeep 3 (by omega), hwidth, hheight] at ho
  rw [run_bind_of (run_connRead _ _ _), run_modifySession] at ho
  rw [ho]
  refine ⟨rfl, rfl, rfl, ?_⟩
  simp [Client.readCode_eq_zero_iff]

/-- Every 24 bytes are the header of some server. -/
theorem exists_header (bytes : List UInt8) (h : bytes.length = 24) :
    ∃ (width height : UInt16) (format : Block 16) (nameLength : UInt32),
      bytes = be16Bytes width ++ be16Bytes height ++ format.val ++ be32Bytes nameLength := by
  obtain ⟨w1, w0, h1, h0, hfront⟩ := List.length_eq_four.mp
    (show (bytes.take 4).length = 4 by rw [List.length_take]; omega)
  obtain ⟨l3, l2, l1, l0, hback⟩ := List.length_eq_four.mp
    (show (bytes.drop 20).length = 4 by rw [List.length_drop]; omega)
  have hformat : ((bytes.drop 4).take 16).length = 16 := by
    rw [List.length_take, List.length_drop]
    omega
  refine ⟨be16 w1 w0, be16 h1 h0, ⟨(bytes.drop 4).take 16, hformat⟩, be32 l3 l2 l1 l0, ?_⟩
  rw [be16Bytes_be16, be16Bytes_be16, be32Bytes_be32, ← hback]
  calc bytes = bytes.take 4 ++ ((bytes.drop 4).take 16 ++ (bytes.drop 4).drop 16) := by
        rw [List.take_append_drop, List.take_append_drop]
    _ = [w1, w0] ++ [h1, h0] ++ (bytes.drop 4).take 16 ++ bytes.drop 20 := by
        rw [hfront, List.drop_drop]
        simp

/-- If every read is complete there was a whole `ServerInit`. -/
theorem init_complete (c : Client) (h : Complete (initializationMessages.run c).effects) :
    ∃ (m : ServerInit) (more : List UInt8), c.unread = m.bytes ++ more := by
  have h24 : 24 ≤ c.unread.length := by
    unfold initializationMessages at h
    rw [run_bind_of (run_connWrite _ _), run_bind_of (run_connRead _ _ _)] at h
    simp only [Outcome.effects_after, complete_append, complete_read,
      Client.readCode_eq_zero_iff] at h
    exact h.2.1.1
  obtain ⟨width, height, format, nameLength, hheader⟩ :=
    exists_header (c.unread.take 24) (List.length_take_of_le h24)
  -- the header decides how many bytes the name has to have
  let m₀ : ServerInit := ⟨width, height, format, nameLength, Block.zero _⟩
  have hu : c.unread = m₀.header ++ c.unread.drop 24 := by
    have htake : c.unread.take 24 = m₀.header := hheader
    rw [← htake, List.take_append_drop]
  have hname := (run_initializationMessages m₀ c _ hu).2.2.2.mp h
  let name : Block nameLength.toNat :=
    ⟨(c.unread.drop 24).take nameLength.toNat, List.length_take_of_le hname⟩
  let m : ServerInit := ⟨width, height, format, nameLength, name⟩
  refine ⟨m, (c.unread.drop 24).drop nameLength.toNat, ?_⟩
  calc c.unread = m₀.header ++ c.unread.drop 24 := hu
    _ = m.header ++ (name.val ++ (c.unread.drop 24).drop nameLength.toNat) := by
        rw [List.take_append_drop]
        rfl
    _ = m.bytes ++ (c.unread.drop 24).drop nameLength.toNat := by
        rw [ServerInit.bytes, List.append_assoc]

/-! ## The whole handshake -/

/-- The client after the first assignment of the task. -/
def cleared (c : Client) : Client := { c with session := { c.session with status := 0 } }

/-- The handshake is its four phases, in a client whose members are cleared. -/
theorem run_vncHandshake (c : Client) :
    vncHandshake.run c =
      (protocolVersionHandshake >>= fun accepted =>
        match accepted with
        | none => pure false
        | some version => do
          if ← securityHandshake then do
            if ← securityResultHandshake version then do
              initializationMessages
              connWrite setEncodings
              return true
            else return false
          else return false).run (cleared c) := rfl

/-- **A handshake by the grammar is accepted.** -/
theorem handshake_accepts (m : ServerHandshake) (c : Client) (rest : List UInt8)
    (hu : c.unread = m.bytes ++ rest) :
    let o := vncHandshake.run c
    o.val = true ∧ o.state.unread = rest ∧
      o.state.session =
        { c.session with rfbWidth := m.init.width, rfbHeight := m.init.height, status := 0 } ∧
      writes o.effects = [m.version.bytes, [1], [0], setEncodings] := by
  have hstream : (cleared c).unread = m.version.bytes ++ (UInt8.ofNat m.types.length :: m.types ++
      (m.version.securityResult ++ (m.init.header ++ (m.init.name.val ++ rest)))) := by
    show c.unread = _
    rw [hu, ServerHandshake.bytes, ServerInit.bytes]
    simp only [List.append_assoc, List.cons_append]
  intro o
  have ho : o = vncHandshake.run c := rfl
  rw [run_vncHandshake] at ho
  obtain ⟨hval, hunread, hsession, hwrites⟩ := version_accepts _ _ _ hstream
  rw [run_bind_of (Outcome.eq_of_val hval)] at ho
  obtain ⟨hval', hunread', hsession', hwrites'⟩ :=
    security_accepts _ m.types_lt m.offers_none _ _ hunread
  simp only [run_bind_of (Outcome.eq_of_val hval'), if_true] at ho
  obtain ⟨hval'', hunread'', hsession'', hwrites''⟩ := result_accepts _ _ _ hunread'
  simp only [run_bind_of (Outcome.eq_of_val hval''), if_true] at ho
  obtain ⟨hinit, hsize, hzero, -⟩ := run_initializationMessages _ _ _ hunread''
  rw [ho]
  refine ⟨rfl, ?_, ?_, ?_⟩
  · simp only [Outcome.state_after, state_bind, run_connWrite, run_pure, hinit]
    exact List.drop_left' m.init.name.length_val
  · simp only [Outcome.state_after, state_bind, run_connWrite, run_pure, hsize, hsession'',
      hsession', hsession]
    rfl
  · simp only [Outcome.effects_after, effects_bind, run_connWrite, run_pure, writes_append, hzero,
      hwrites'', hwrites', hwrites]
    rfl

/-- What can have been written when the task returns from the handshake. -/
def RejectedWrites (ws : List (List UInt8)) : Prop :=
  ws = [] ∨ ∃ v : RfbVersion, ws = [v.bytes] ∨ ws = [v.bytes, [1]]

/-- A handshake whose reads complete has found its grammar, or it returns with the version
and the security type written at most. -/
theorem handshake_complete (c : Client) (h : Complete (vncHandshake.run c).effects) :
    (∃ (m : ServerHandshake) (rest : List UInt8), c.unread = m.bytes ++ rest) ∨
      ((vncHandshake.run c).val = false ∧
        RejectedWrites (writes (vncHandshake.run c).effects)) := by
  rw [run_vncHandshake] at h ⊢
  have hversion := h
  rw [effects_bind, complete_append] at hversion
  rcases version_complete _ hversion.1 with ⟨v, more, hu⟩ | ⟨hval, hwrites⟩
  · obtain ⟨hval, hunread, -, hwrites⟩ := version_accepts v _ more hu
    rw [run_bind_of (Outcome.eq_of_val hval)] at h ⊢
    simp only [Outcome.effects_after, Outcome.val_after, complete_append, writes_append,
      hwrites] at h ⊢
    have hsecurity := h.2
    rw [effects_bind, complete_append] at hsecurity
    rcases security_complete _ hsecurity.1 with ⟨types, more', hlt, hnone, hu'⟩ | ⟨hval', hwrites'⟩
    · obtain ⟨hval', hunread', -, hwrites'⟩ := security_accepts types hlt hnone _ more' hu'
      simp only [run_bind_of (Outcome.eq_of_val hval'), if_true, Outcome.effects_after,
        Outcome.val_after, complete_append, writes_append, hwrites'] at h ⊢
      have hresult := h.2.2
      rw [effects_bind, complete_append] at hresult
      rcases result_complete v _ hresult.1 with ⟨more'', hu''⟩ | ⟨hval'', hwrites''⟩
      · obtain ⟨hval'', hunread'', -, -⟩ := result_accepts v _ more'' hu''
        simp only [run_bind_of (Outcome.eq_of_val hval''), if_true, Outcome.effects_after,
          complete_append, effects_bind] at h
        obtain ⟨init, rest, hinit⟩ := init_complete _ h.2.2.2.1
        left
        refine ⟨⟨v, types, hlt, hnone, init⟩, rest, ?_⟩
        show (cleared c).unread = _
        have htypes : UInt8.ofNat types.length :: types ++ more' = more := by
          rw [← hunread, hu']
        rw [hu, ← htypes, ← hunread', hu'', ← hunread'', hinit, ServerHandshake.bytes]
        simp only [List.append_assoc, List.cons_append]
      · right
        rw [run_bind_of (Outcome.eq_of_val hval'')]
        refine ⟨rfl, .inr ⟨v, .inr ?_⟩⟩
        simp [hwrites'']
    · right
      rw [run_bind_of (Outcome.eq_of_val hval')]
      refine ⟨rfl, .inr ⟨v, .inl ?_⟩⟩
      simp [hwrites']
  · right
    rw [run_bind_of (Outcome.eq_of_val hval)]
    refine ⟨rfl, .inl ?_⟩
    simp [hwrites]

/-- What the handshake promises on a stream. -/
structure HandshakeGrammar (c : Client) : Prop where
  /-- The message loop is reached exactly from the streams that begin with a handshake. -/
  reaches_iff : (vncHandshake.run c).val = true ↔
    ∃ (m : ServerHandshake) (rest : List UInt8), c.unread = m.bytes ++ rest
  /-- Of such a stream it has consumed the handshake, 12+1+n+(4 if 3.8)+24+L bytes, it has
  answered each phase, and it has taken the size from ServerInit. -/
  accepted : ∀ (m : ServerHandshake) (rest : List UInt8), c.unread = m.bytes ++ rest →
    let o := vncHandshake.run c
    m.bytes.length = 12 + 1 + m.types.length + (if m.version = .v38 then 4 else 0) + 24 +
        m.init.nameLength.toNat ∧
      o.state.unread = rest ∧
      writes o.effects = [m.version.bytes, [1], [0], setEncodings] ∧
      o.state.session.rfbWidth = m.init.width ∧ o.state.session.rfbHeight = m.init.height
  /-- On every other stream it returns with the version and the security type written at
  most. -/
  rejected : (vncHandshake.run c).val = false → RejectedWrites (writes (vncHandshake.run c).effects)

/-- **The handshake accepts exactly its grammar**, on every stream on which its reads
complete. -/
theorem handshake_grammar (c : Client) (hread : Complete (vncHandshake.run c).effects) :
    HandshakeGrammar c where
  reaches_iff := by
    constructor
    · intro hval
      rcases handshake_complete c hread with h | ⟨hreturned, -⟩
      · exact h
      · rw [hval] at hreturned
        contradiction
    · rintro ⟨m, rest, hu⟩
      exact (handshake_accepts m c rest hu).1
  accepted := by
    intro m rest hu o
    obtain ⟨-, hunread, hsession, hwrites⟩ := handshake_accepts m c rest hu
    exact ⟨m.length_bytes, hunread, hwrites, by rw [hsession], by rw [hsession]⟩
  rejected := by
    intro hval
    rcases handshake_complete c hread with ⟨m, rest, hu⟩ | ⟨-, hwrites⟩
    · rw [(handshake_accepts m c rest hu).1] at hval
      contradiction
    · exact hwrites

/-! ## Streams that may end before -/

/-- A fetch fills its array. -/
theorem length_fetched (c : Client) (n : ℕ) : (c.fetched n).length = n := by
  unfold Client.fetched
  rw [length_overlay, Client.length_indeterminate]
  rw [List.length_take, Client.length_indeterminate]
  exact Nat.min_le_left _ _

/-- The version that is accepted is the one that is read. -/
theorem val_version_iff (c : Client) (d : UInt8) :
    (protocolVersionHandshake.run c).val = some d ↔
      ∃ v : RfbVersion, v.digit = d ∧ c.fetched 12 = v.bytes := by
  have hval : (protocolVersionHandshake.run c).val =
      if c.fetched 12 ≠ version37 ∧ c.fetched 12 ≠ version38 then none
      else some ((c.fetched 12).getD 10 0 - 48) := by
    have hfetched : ((connRead (c.indeterminate 12) 12).run (c.draw 12)).val = c.fetched 12 := rfl
    unfold protocolVersionHandshake
    rw [run_uninitialised_bind, val_bind, run_ite, hfetched]
    split_ifs <;> rfl
  rw [hval]
  constructor
  · intro h
    split_ifs at h with hunknown
    cases h
    by_cases h37 : c.fetched 12 = version37
    · refine ⟨.v37, ?_, h37⟩
      rw [h37]
      rfl
    · have h38 : c.fetched 12 = version38 := by
        by_contra h38
        exact hunknown ⟨h37, h38⟩
      refine ⟨.v38, ?_, h38⟩
      rw [h38]
      rfl
  · rintro ⟨v, rfl, hv⟩
    rw [hv]
    cases v <;> rfl

/-- The version takes twelve bytes. -/
theorem state_version (c : Client) :
    (protocolVersionHandshake.run c).state = c.afterFetch 12 := by
  unfold protocolVersionHandshake
  rw [run_uninitialised_bind, state_bind, run_ite]
  split <;> rfl

/-- The number of security types, also where it has not come. -/
theorem getD_readNum (c : Client) :
    (overlay (c.unread.take 1) [0]).getD 0 0 = c.unread.headD 0 := by
  cases c.unread <;> rfl

/-- Security is accepted exactly if a type that is looked at is one. -/
theorem val_security_iff (c : Client) :
    (securityHandshake.run c).val = true ↔
      1 ∈ (c.skip 1).fetched (c.unread.headD 0).toNat := by
  unfold securityHandshake
  rw [val_bind, run_connRead]
  simp only [getD_readNum]
  by_cases hnum : c.unread.headD 0 = 0
  · rw [if_pos hnum, hnum]
    constructor
    · intro h
      cases h
    · intro h
      have hnil : (c.skip 1).fetched (0 : UInt8).toNat = [] :=
        List.eq_nil_of_length_eq_zero (length_fetched _ _)
      rw [hnil] at h
      cases h
  · rw [if_neg hnum, run_uninitialised_bind, val_bind, run_connRead]
    show ((if securityFlag ((c.skip 1).fetched _) ≠ 0 then _ else _ : Session Bool).run _).val =
      true ↔ _
    rw [securityFlag_eq]
    by_cases hnone : 1 ∈ (c.skip 1).fetched (c.unread.headD 0).toNat
    · rw [if_pos hnone]
      exact iff_of_true rfl hnone
    · rw [if_neg hnone]
      refine iff_of_false ?_ hnone
      intro h
      cases h

/-- The types are taken with their number. -/
theorem state_security (c : Client) (h : (securityHandshake.run c).val = true) :
    (securityHandshake.run c).state = (c.skip 1).afterFetch (c.unread.headD 0).toNat := by
  unfold securityHandshake at h ⊢
  rw [val_bind, run_connRead] at h
  rw [state_bind, run_connRead]
  simp only [getD_readNum] at h ⊢
  by_cases hnum : c.unread.headD 0 = 0
  · rw [if_pos hnum] at h
    cases h
  · rw [if_neg hnum, run_uninitialised_bind, state_bind, run_ite]
    split <;> rfl

/-- Before version 3.8 there is no result to look at. -/
theorem val_result_iff (v : RfbVersion) (c : Client) :
    ((securityResultHandshake v.digit).run c).val = true ↔
      (v = .v38 → c.fetched 4 = [0, 0, 0, 0]) := by
  unfold securityResultHandshake
  cases v with
  | v37 =>
    rw [if_neg (by decide)]
    refine iff_of_true rfl ?_
    intro h
    cases h
  | v38 =>
    rw [if_pos (show RfbVersion.v38.digit = 8 from rfl), run_uninitialised_bind, val_bind,
      run_connRead, forall_prop_of_true rfl]
    obtain ⟨b0, b1, b2, b3, hbytes⟩ := List.length_eq_four.mp (length_fetched c 4)
    have hread : overlay ((c.draw 4).unread.take 4) (c.indeterminate 4) = [b0, b1, b2, b3] := hbytes
    rw [hread, hbytes]
    simp only [List.getD_cons_zero, List.getD_cons_succ]
    constructor
    · intro h
      by_cases hzero : le32 b0 b1 b2 b3 = 0
      · obtain ⟨rfl, rfl, rfl, rfl⟩ := le32_eq_zero hzero
        rfl
      · by_cases hone : le32 b0 b1 b2 b3 = 1
        · rw [if_pos hone] at h
          cases h
        · rw [if_neg hone, if_pos hzero] at h
          cases h
    · intro h
      cases h
      rfl

/-- **When the message loop is reached**, on every stream. -/
theorem val_vncHandshake_iff (c : Client) :
    (vncHandshake.run c).val = true ↔ FindsHandshake c := by
  rw [run_vncHandshake, val_bind, state_version]
  have hcleared : FindsHandshake (cleared c) ↔ FindsHandshake c := Iff.rfl
  rw [← hcleared]
  generalize cleared c = c
  constructor
  · intro h
    cases hversion : (protocolVersionHandshake.run c).val with
    | none =>
      rw [hversion] at h
      cases h
    | some d =>
      obtain ⟨v, rfl, hv⟩ := (val_version_iff c d).mp hversion
      rw [hversion] at h
      simp only [val_bind, run_ite] at h
      by_cases hsecurity : (securityHandshake.run (c.afterFetch 12)).val = true
      · rw [if_pos hsecurity, val_bind, run_ite, state_security _ hsecurity] at h
        refine ⟨v, hv, (val_security_iff _).mp hsecurity, (val_result_iff v _).mp ?_⟩
        by_contra hresult
        rw [if_neg hresult] at h
        cases h
      · rw [if_neg hsecurity] at h
        cases h
  · rintro ⟨v, hv, htypes, hzero⟩
    have hsecurity := (val_security_iff (c.afterFetch 12)).mpr htypes
    have hresult := (val_result_iff v _).mpr hzero
    rw [← state_security _ hsecurity] at hresult
    rw [(val_version_iff c v.digit).mpr ⟨v, rfl, hv⟩]
    simp only [val_bind, hsecurity, if_true, hresult]
    rfl

/-- A version 3.8 server that also offers VNC authentication, with a desktop called `ml`. -/
theorem handshake_grammar_on_38 :
    HandshakeGrammar
      { session := ⟨0, 0, Block.zero 12, Block.zero 28, 7⟩
        unread := version38 ++ [2, 2, 1] ++ [0, 0, 0, 0] ++ [3, 32, 1, 224] ++
          List.replicate 16 0 ++ [0, 0, 0, 2, 109, 108]
        failure := .endOfFile
        residue := fun _ => 0 } :=
  handshake_grammar _ (by decide +kernel)

end MirrorLink.Analysis
