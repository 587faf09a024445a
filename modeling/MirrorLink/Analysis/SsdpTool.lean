import MirrorLink.Analysis.Locations
import MirrorLink.Program.SsdpTool

/-!
# The two copies of the search

The tool of `SSDP/ssdp.c` prints the words of an answer that names the application server in any
of its `ST` lines (`handleSsdp_eq`), the client takes the address of one that names it in the
last.  So over any datagrams the address the client comes to is the last one the tool prints with
the target of the application server, and what the tool prints with another target comes from
an answer that names both (`ssdp_tool`).

A datagram as long as the tool's array runs out of it, unless it has a zero.
-/

set_option autoImplicit false

namespace MirrorLink.Analysis

open MirrorLink.Library MirrorLink.Program

/-! ## One answer -/

section Answers

/-- Both copies read the same words. -/
theorem toolLine_resp (resp : ToolResp) (line : List UInt8) :
    (toolLine resp line).toSsdpResp = ssdpLine resp.toSsdpResp line := by
  unfold toolLine ssdpLine
  split_ifs <;> rfl

/-- The lines are gone through as in `UI/ssdp.cpp`. -/
theorem foldl_toolLine_resp (lines : List (List UInt8)) (resp : ToolResp) :
    (lines.foldl toolLine resp).toSsdpResp = lines.foldl ssdpLine resp.toSsdpResp := by
  induction lines generalizing resp with
  | nil => rfl
  | cons line lines ih => rw [List.foldl_cons, List.foldl_cons, ih, toolLine_resp]

/-- A line with the target is remembered. -/
theorem toolLine_of_st {line : List UInt8} (h : Occurs (ascii "ST: ") line) (resp : ToolResp) :
    toolLine resp line = { resp with
      st := scanWord "ST: %s" line resp.st
      found := if scanWord "ST: %s" line resp.st = tmTas then true else resp.found } :=
  if_pos h

/-- Another line leaves what is remembered. -/
theorem found_of_not_st {line : List UInt8} (h : ¬ Occurs (ascii "ST: ") line) (resp : ToolResp) :
    (toolLine resp line).found = resp.found := by
  have hline : toolLine resp line = if (strstr (ascii "Location: ") line).isSome then
      { resp with location := scanWord "Location: %s" line resp.location } else resp := if_neg h
  rw [hline]
  split_ifs <;> rfl

/-- A line that names the application server is not forgotten. -/
theorem toolLine_found {resp : ToolResp} (h : resp.st = tmTas → resp.found = true)
    (line : List UInt8) : (toolLine resp line).found = true ↔ resp.found = true ∨
      Occurs (ascii "ST: ") line ∧ headerWord (ascii "ST:") line = tmTas := by
  have htarget : tmTas ≠ [] := by decide
  by_cases hst : Occurs (ascii "ST: ") line
  · rw [toolLine_of_st hst, scanWord_header _ (ascii "ST:") _ _ rfl]
    by_cases hword : headerWord (ascii "ST:") line = []
    · simp only [hword, ↓reduceIte, htarget.symm, and_false, or_false]
      split_ifs with hold
      · simp [h hold]
      · rfl
    · simp only [if_neg hword]
      split_ifs with htas
      · simp [hst, htas]
      · simp [htas]
  · rw [found_of_not_st hst]
    simp [hst]

/-- Once the target is the one looked for, it has been found. -/
theorem toolLine_remembers {resp : ToolResp} (h : resp.st = tmTas → resp.found = true)
    (line : List UInt8) (hst : (toolLine resp line).st = tmTas) :
    (toolLine resp line).found = true := by
  unfold toolLine at hst ⊢
  split_ifs at hst ⊢ with hline hlocation
  · simp only at hst
    simp [hst]
  · exact h hst
  · exact h hst

/-- **It has been found** exactly if some line named it. -/
theorem foldl_toolLine_found (lines : List (List UInt8)) {resp : ToolResp}
    (h : resp.st = tmTas → resp.found = true) :
    (lines.foldl toolLine resp).found = true ↔ resp.found = true ∨
      ∃ line ∈ lines, Occurs (ascii "ST: ") line ∧ headerWord (ascii "ST:") line = tmTas := by
  induction lines generalizing resp with
  | nil => simp
  | cons line lines ih =>
    rw [List.foldl_cons, ih (toolLine_remembers h line), toolLine_found h, or_assoc]
    simp

/-- The targets are the words behind their name. -/
theorem mem_stWords {word text : List UInt8} : word ∈ stWords text ↔
    ∃ line ∈ tokens 10 text, Occurs (ascii "ST: ") line ∧ headerWord (ascii "ST:") line = word := by
  simp [stWords, and_assoc]

/-- **The tool** prints the words of the answers that name the application server anywhere. -/
theorem handleSsdp_eq (text : List UInt8) :
    handleSsdp text = if tmTas ∈ stWords text then some (parseSsdpResp text) else none := by
  have hfound : ((tokens 10 text).foldl toolLine ⟨⟨[], []⟩, false⟩).found = true ↔
      tmTas ∈ stWords text := by
    rw [foldl_toolLine_found _ (by decide), mem_stWords]
    simp
  have hresp := foldl_toolLine_resp (tokens 10 text) ⟨⟨[], []⟩, false⟩
  unfold handleSsdp
  simp only [hfound, hresp]
  rfl

/-- The word that stays is one of the words. -/
theorem lastWord_nil_mem {words : List (List UInt8)} (h : lastWord [] words ≠ []) :
    lastWord [] words ∈ words := by
  unfold lastWord at h ⊢
  cases hlast : (words.filter (· ≠ [])).getLast? with
  | none =>
    rw [hlast] at h
    exact absurd rfl h
  | some found => exact List.mem_of_mem_filter (List.mem_of_getLast? hlast)

/-- Of an answer that names the application server last, both copies take the address. -/
theorem handleSsdp_of_st {text : List UInt8} (h : (parseSsdpResp text).st = tmTas) :
    handleSsdp text = some (parseSsdpResp text) := by
  have htarget : tmTas ≠ [] := by decide
  rw [handleSsdp_eq, if_pos]
  rw [parseSsdpResp_eq] at h
  replace h : lastWord [] (stWords text) = tmTas := h
  rw [← h] at htarget ⊢
  exact lastWord_nil_mem htarget

/-- What is printed with another target comes from an answer that names both. -/
theorem names_both_of_handleSsdp {text : List UInt8} {resp : SsdpResp}
    (h : handleSsdp text = some resp) : resp = parseSsdpResp text ∧ tmTas ∈ stWords text ∧
      resp.st ∈ stWords text := by
  have htarget : tmTas ≠ [] := by decide
  rw [handleSsdp_eq] at h
  split_ifs at h with hmem
  cases h
  refine ⟨rfl, hmem, ?_⟩
  rw [parseSsdpResp_eq]
  apply lastWord_nil_mem
  intro hnil
  exact htarget ((lastWord_eq_nil_iff _).mp hnil _ hmem)

end Answers

/-! ## Several answers -/

/-- What the tool prints of several answers. -/
def printedOf (texts : List (List UInt8)) : List SsdpResp := texts.filterMap handleSsdp

/-- The last address that is printed with the target of the application server. -/
def lastServer (resps : List SsdpResp) : Option (List UInt8) :=
  ((resps.filter fun resp => resp.st = tmTas).getLast?).map SsdpResp.location

/-- The last server is that of the last answer, or the one before. -/
theorem lastServer_concat (resps : List SsdpResp) (resp : SsdpResp) :
    lastServer (resps ++ [resp]) =
      if resp.st = tmTas then some resp.location else lastServer resps := by
  unfold lastServer
  split_ifs with hst <;> simp [hst]

/-- **The client** comes to the last of these addresses. -/
theorem tmApplicationServer_handleAll (context : Context) (texts : List (List UInt8)) :
    (handleAll context texts).tmApplicationServer =
      (lastServer (printedOf texts)).getD context.tmApplicationServer := by
  induction texts using List.reverseRecOn with
  | nil => rfl
  | append_singleton texts text ih =>
    have hserver := location_handleSsdpResp (handleAll context texts) text .applicationServer
    have hst : (parseSsdpResp text).st = lastWord [] (stWords text) := by rw [parseSsdpResp_eq]
    have hlocation : (parseSsdpResp text).location = lastWord [] (locationWords text) := by
      rw [parseSsdpResp_eq]
    simp only [Service.location, Service.urn, ← hst, ← hlocation] at hserver
    rw [handleAll_concat, hserver, printedOf, List.filterMap_append, ← printedOf, ih]
    by_cases htas : (parseSsdpResp text).st = tmTas
    · rw [if_pos htas, List.filterMap_cons, handleSsdp_of_st htas]
      simp [lastServer_concat, htas]
    · rw [if_neg htas, List.filterMap_cons, handleSsdp_eq]
      by_cases hmem : tmTas ∈ stWords text
      · simp [hmem, lastServer_concat, htas]
      · simp [hmem]

/-! ## A run -/

/-- A datagram fills the array of the tool. -/
def Fills (datagram : ReadData) : Prop := datagram.bytes.length = 1024 ∧ 0 ∉ datagram.bytes

/-- What `main` receives in its five turns. -/
def receivedBy (recvfrom : ℕ → Option ReadData) : List ReadData :=
  [4, 3, 2, 1, 0].filterMap recvfrom

/-- The buffer has a zero unless the datagram fills it. -/
theorem zero_mem_toolMessage (datagram : ReadData) :
    0 ∈ toolMessage datagram ↔ ¬ Fills datagram := by
  have hle := datagram.length_le
  unfold toolMessage overlay Fills
  rw [List.drop_replicate, List.mem_append, List.mem_replicate]
  constructor
  · rintro (hmem | ⟨hroom, -⟩) ⟨hlength, hzero⟩
    · exact hzero hmem
    · omega
  · intro h
    by_cases hzero : 0 ∈ datagram.bytes
    · exact .inl hzero
    · refine .inr ⟨fun hfull => h ⟨?_, hzero⟩, rfl⟩
      omega

/-- What the tool reads of a datagram is up to its first zero, and no more. -/
theorem cstring_toolMessage (datagram : ReadData) :
    cstring (toolMessage datagram) = cstring datagram.bytes := by
  unfold toolMessage overlay
  rw [List.drop_replicate]
  by_cases hzero : 0 ∈ datagram.bytes
  · exact cstring_append_of_mem hzero _
  · rw [cstring_append_zeros _ _ hzero, cstring_eq_self hzero]

/-- What is done in one turn. -/
def turnEffects : Option ReadData → List ToolEffect
  | none => [.receivedNothing]
  | some datagram => .printedMessage (cstring datagram.bytes) ::
      (handleSsdp (cstring datagram.bytes)).toList.map .printedResp

/-- A datagram that fills the buffer is read past its end. -/
theorem toolTurn_of_fills {datagram : ReadData} (h : Fills datagram) :
    toolTurn (some datagram) = .error .outsideArray :=
  if_neg fun hzero => (zero_mem_toolMessage datagram).mp hzero h

/-- Any other is handled. -/
theorem toolTurn_of_not_fills {received : Option ReadData}
    (h : ∀ datagram, received = some datagram → ¬ Fills datagram) :
    toolTurn received = .ok (turnEffects received) := by
  cases received with
  | none => rfl
  | some datagram =>
    refine (if_pos ((zero_mem_toolMessage datagram).mpr (h datagram rfl))).trans ?_
    rw [cstring_toolMessage datagram]
    rfl

/-- The numbers that `wait` has in the loop. -/
def waits : ℕ → List ℕ
  | 0 => []
  | wait + 1 => wait :: waits wait

/-- **The loop** runs out of its array at the first datagram that fills it, and otherwise does in
each turn what the datagram of the turn says. -/
theorem toolLoop_eq (recvfrom : ℕ → Option ReadData) (n : ℕ) :
    ((∃ datagram ∈ (waits n).filterMap recvfrom, Fills datagram) ∧
        toolLoop recvfrom n = .error .outsideArray) ∨
      (∀ datagram ∈ (waits n).filterMap recvfrom, ¬ Fills datagram) ∧
        toolLoop recvfrom n = .ok ((waits n).flatMap fun wait => turnEffects (recvfrom wait)) := by
  induction n with
  | zero => exact .inr ⟨by simp [waits], rfl⟩
  | succ n ih =>
    by_cases hfills : ∃ datagram, recvfrom n = some datagram ∧ Fills datagram
    · obtain ⟨datagram, hdatagram, hfills⟩ := hfills
      refine .inl ⟨⟨datagram, ?_, hfills⟩, ?_⟩
      · simp [waits, hdatagram]
      · rw [toolLoop, hdatagram, toolTurn_of_fills hfills]
        rfl
    · have hnot : ∀ datagram, recvfrom n = some datagram → ¬ Fills datagram := by
        simpa using hfills
      rw [toolLoop, toolTurn_of_not_fills hnot, waits]
      rcases ih with ⟨⟨datagram, hmem, hfills⟩, hrest⟩ | ⟨hnone, hrest⟩
      · refine .inl ⟨⟨datagram, ?_, hfills⟩, ?_⟩
        · simp only [List.mem_filterMap, List.mem_cons] at hmem ⊢
          obtain ⟨wait, hwait, hdatagram⟩ := hmem
          exact ⟨wait, .inr hwait, hdatagram⟩
        · rw [hrest]
          rfl
      · refine .inr ⟨?_, ?_⟩
        · intro datagram hmem
          rw [List.mem_filterMap] at hmem
          obtain ⟨wait, hwait, hdatagram⟩ := hmem
          rcases List.mem_cons.mp hwait with rfl | hwait
          · exact hnot datagram hdatagram
          · exact hnone datagram (List.mem_filterMap.mpr ⟨wait, hwait, hdatagram⟩)
        · rw [hrest]
          rfl

/-- What is printed of the answers. -/
def printedResps (effects : List ToolEffect) : List SsdpResp :=
  effects.filterMap fun
    | .printedResp resp => some resp
    | _ => none

/-- The messages that are sent. -/
def sentMessages (effects : List ToolEffect) : List (List UInt8) :=
  effects.filterMap fun
    | .sent message => some message
    | _ => none

/-- A turn prints what the datagram says, and sends nothing. -/
theorem turnEffects_spec (received : Option ReadData) :
    printedResps (turnEffects received) =
        printedOf ((received.toList.map fun datagram => cstring datagram.bytes)) ∧
      sentMessages (turnEffects received) = [] := by
  cases received with
  | none => exact ⟨rfl, rfl⟩
  | some datagram =>
    cases hresp : handleSsdp (cstring datagram.bytes) <;>
      simp [turnEffects, printedResps, sentMessages, printedOf, hresp]

/-- So do all turns. -/
theorem flatMap_turnEffects (recvfrom : ℕ → Option ReadData) (numbers : List ℕ) :
    printedResps (numbers.flatMap fun wait => turnEffects (recvfrom wait)) =
        printedOf ((numbers.filterMap recvfrom).map fun datagram => cstring datagram.bytes) ∧
      sentMessages (numbers.flatMap fun wait => turnEffects (recvfrom wait)) = [] := by
  induction numbers with
  | nil => exact ⟨rfl, rfl⟩
  | cons wait numbers ih =>
    obtain ⟨hprinted, hsent⟩ := turnEffects_spec (recvfrom wait)
    rw [List.flatMap_cons, printedResps, sentMessages, List.filterMap_append,
      List.filterMap_append, ← printedResps, ← printedResps, ← sentMessages, ← sentMessages,
      hprinted, hsent, ih.1, ih.2, List.filterMap_cons]
    refine ⟨?_, rfl⟩
    cases recvfrom wait with
    | none => rfl
    | some datagram =>
      rw [List.map_cons, printedOf, printedOf, printedOf, ← List.filterMap_append]
      rfl

/-- The searches that the tool sends first. -/
def searchEffects : List ToolEffect :=
  [.sent (createSsdp tmTas), .sent (createSsdp tmTcp), .sent (createSsdp tmTsd)]

/-- All that the tool does, over the datagrams of its loop. -/
def toolEffects (recvfrom : ℕ → Option ReadData) : List ToolEffect :=
  searchEffects ++ (waits 5).flatMap fun wait => turnEffects (recvfrom wait)

/-- The tool searches, and then listens. -/
theorem ssdpMain_eq (recvfrom : ℕ → Option ReadData) :
    ssdpMain true recvfrom = toolLoop recvfrom 5 >>= fun effects =>
      pure (searchEffects ++ effects) := rfl

/-- It sends its searches, and nothing else. -/
theorem sentMessages_toolEffects (recvfrom : ℕ → Option ReadData) :
    sentMessages (toolEffects recvfrom) = searchTargets.map createSsdpMessage := by
  obtain ⟨-, hsent⟩ := flatMap_turnEffects recvfrom (waits 5)
  have hsplit : sentMessages (toolEffects recvfrom) = searchTargets.map createSsdpMessage ++
      sentMessages ((waits 5).flatMap fun wait => turnEffects (recvfrom wait)) := rfl
  rw [hsplit, hsent, List.append_nil]

/-- It prints what it finds in its datagrams. -/
theorem printedResps_toolEffects (recvfrom : ℕ → Option ReadData) :
    printedResps (toolEffects recvfrom) =
      printedOf ((receivedBy recvfrom).map fun datagram => cstring datagram.bytes) :=
  (flatMap_turnEffects recvfrom (waits 5)).1

/-- **The tool and the client.**  The tool runs out of its array exactly when one of the five
datagrams fills it.  Otherwise it sends the searches of the client, and over the texts of the
datagrams the client comes to the last address the tool prints with the target of the application
server.  The tool prints the words that the client reads, and with another target only those of
an answer that names it as well as the application server. -/
theorem ssdp_tool (recvfrom : ℕ → Option ReadData) :
    ((∃ fault, ssdpMain true recvfrom = .error fault) ↔
      ∃ datagram ∈ receivedBy recvfrom, Fills datagram) ∧
    ∀ effects, ssdpMain true recvfrom = .ok effects →
      let texts := (receivedBy recvfrom).map fun datagram => cstring datagram.bytes
      sentMessages effects = searchTargets.map createSsdpMessage ∧
      (∀ context : Context, (handleAll context texts).tmApplicationServer =
        (lastServer (printedResps effects)).getD context.tmApplicationServer) ∧
      ∀ resp ∈ printedResps effects, ∃ text ∈ texts, resp = parseSsdpResp text ∧
        tmTas ∈ stWords text ∧ resp.st ∈ stWords text := by
  rw [ssdpMain_eq]
  rcases toolLoop_eq recvfrom 5 with ⟨hfills, hloop⟩ | ⟨hnone, hloop⟩
  · rw [hloop]
    exact ⟨⟨fun _ => hfills, fun _ => ⟨_, rfl⟩⟩, fun _ => nofun⟩
  · rw [hloop]
    refine ⟨⟨fun ⟨_, h⟩ => (nomatch h), fun ⟨datagram, hmem, hfills⟩ =>
      absurd hfills (hnone datagram hmem)⟩, ?_⟩
    rintro effects ⟨⟩
    have hall := printedResps_toolEffects recvfrom
    refine ⟨sentMessages_toolEffects recvfrom, fun context => ?_, fun resp hresp => ?_⟩
    · show _ = (lastServer (printedResps (toolEffects recvfrom))).getD _
      rw [hall, tmApplicationServer_handleAll]
    · replace hresp : resp ∈ printedResps (toolEffects recvfrom) := hresp
      rw [hall] at hresp
      obtain ⟨text, htext, hresp⟩ := List.mem_filterMap.mp hresp
      exact ⟨text, htext, names_both_of_handleSsdp hresp⟩

end MirrorLink.Analysis
