import MirrorLink.Program.Ssdp

/-!
# The addresses found so far

An answer overwrites the address of the service it names, also when it has no address to
write there: the local array `location` is then still empty.  `locations_kept_iff` says for
which answers nothing is lost.
-/

set_option autoImplicit false

namespace MirrorLink.Analysis

open MirrorLink.Library MirrorLink.Program

/-! ## Services -/

/-- The services whose addresses a `Context` holds. -/
inductive Service where
  | applicationServer
  | clientProfile
  | serverDevice
  deriving DecidableEq, Repr

namespace Service

/-- The search target of the service. -/
def urn : Service → List UInt8
  | applicationServer => tmTas
  | clientProfile => tmTcp
  | serverDevice => tmTsd

/-- The address of the service, empty if none has been found. -/
def location (context : Context) : Service → List UInt8
  | applicationServer => context.tmApplicationServer
  | clientProfile => context.tmClientProfile
  | serverDevice => context.tmServerDevice

end Service

/-- The context after `handle_ssdp_resp` has been called for each of several answers. -/
def handleAll (context : Context) (datagrams : List (List UInt8)) : Context :=
  datagrams.foldl handleSsdpResp context

/-! ## What an answer says -/

/-- The word behind a header's name at the beginning of a line; empty if there is none. -/
def headerWord (name line : List UInt8) : List UInt8 :=
  if name <+: line then firstWord (line.drop name.length) else []

/-- The word stands in the line. -/
def Occurs (word line : List UInt8) : Prop := (strstr word line).isSome = true

instance (word line : List UInt8) : Decidable (Occurs word line) :=
  inferInstanceAs (Decidable (_ = true))

/-- The targets the lines of an answer name, in order. -/
def stWords (datagram : List UInt8) : List (List UInt8) :=
  ((tokens 10 datagram).filter (Occurs (ascii "ST: "))).map (headerWord (ascii "ST:"))

/-- The addresses the lines of an answer name, in order. -/
def locationWords (datagram : List UInt8) : List (List UInt8) :=
  ((tokens 10 datagram).filter fun line =>
    ¬ Occurs (ascii "ST: ") line ∧ Occurs (ascii "Location: ") line).map
      (headerWord (ascii "Location:"))

/-- The last of several words that is not empty, or `word` if there is none. -/
def lastWord (word : List UInt8) (words : List (List UInt8)) : List UInt8 :=
  ((words.filter (· ≠ [])).getLast?).getD word

/-- The answer names the service and no address. -/
def AnswersWithoutLocation (s : Service) (datagram : List UInt8) : Prop :=
  lastWord [] (stWords datagram) = s.urn ∧ ∀ word ∈ locationWords datagram, word = []

/-- Some line of the answer has a value for `Location`. -/
def CarriesLocation (datagram : List UInt8) : Prop :=
  ∃ line ∈ tokens 10 datagram, headerWord (ascii "Location:") line ≠ []

/-- No address is ever lost, and an answer without an address changes none. -/
structure KeepsLocations (context : Context) (datagrams : List (List UInt8)) : Prop where
  kept : ∀ before during after s, datagrams = before ++ during ++ after →
    Service.location (handleAll context before) s ≠ [] →
      Service.location (handleAll context (before ++ during)) s ≠ []
  unchanged : ∀ before datagram after s, datagrams = before ++ datagram :: after →
    ¬ CarriesLocation datagram →
      Service.location (handleAll context (before ++ [datagram])) s =
        Service.location (handleAll context before) s

/-! ## What `handle_ssdp_resp` reads -/

/-- A word that is not empty replaces the one before it. -/
theorem lastWord_cons (word w : List UInt8) (words : List (List UInt8)) :
    lastWord word (w :: words) = lastWord (if w = [] then word else w) words := by
  unfold lastWord
  by_cases hw : w = []
  · rw [List.filter_cons_of_neg (by simp [hw]), if_pos hw]
  · rw [List.filter_cons_of_pos (by simp [hw]), if_neg hw, List.getLast?_cons]
    rfl

/-- The words of two parts are gone through one after the other. -/
theorem lastWord_append (word : List UInt8) (before words : List (List UInt8)) :
    lastWord word (before ++ words) = lastWord (lastWord word before) words := by
  induction before generalizing word with
  | nil => rfl
  | cons w before ih => rw [List.cons_append, lastWord_cons, lastWord_cons, ih]

/-- The word to begin with does not matter if there is another one. -/
theorem lastWord_eq (word : List UInt8) (words : List (List UInt8))
    (h : lastWord [] words ≠ []) : lastWord word words = lastWord [] words := by
  induction words with
  | nil => exact absurd rfl h
  | cons w words ih =>
    rw [lastWord_cons] at h
    rw [lastWord_cons, lastWord_cons]
    by_cases hw : w = []
    · rw [if_pos hw] at h
      rw [if_pos hw, if_pos hw]
      exact ih h
    · rw [if_neg hw, if_neg hw]

/-- Only empty words leave nothing. -/
theorem lastWord_eq_nil_iff (words : List (List UInt8)) :
    lastWord [] words = [] ↔ ∀ word ∈ words, word = [] := by
  induction words with
  | nil => simp [lastWord]
  | cons w words ih =>
    rw [lastWord_cons, List.forall_mem_cons]
    by_cases hw : w = []
    · rw [if_pos hw, ih]
      exact ⟨fun h => ⟨hw, h⟩, And.right⟩
    · rw [if_neg hw]
      constructor
      · intro h
        unfold lastWord at h
        rcases hlast : (words.filter (· ≠ [])).getLast? with _ | found
        · rw [hlast] at h
          exact absurd h hw
        · rw [hlast] at h
          have hmem := List.mem_of_getLast? hlast
          rw [List.mem_filter] at hmem
          have hne : found ≠ [] := by simpa using hmem.2
          exact absurd h hne
      · intro h
        exact absurd h.1 hw

/-- `sscanf` with a header's format reads the header's word. -/
theorem scanWord_header (format : String) (name line word : List UInt8)
    (hformat : directives format.toList = name.map .char ++ [.space, .word true]) :
    scanWord format line word =
      if headerWord name line = [] then word else headerWord name line := by
  unfold scanWord headerWord
  rw [hformat]
  by_cases hname : name <+: line
  · obtain ⟨rest, rfl⟩ := hname
    rw [sscanf_chars, sscanf_word, if_pos (List.prefix_append _ _), List.drop_left]
    by_cases hword : firstWord rest = []
    · simp only [if_pos hword]
    · simp only [if_neg hword]
  · rw [sscanf_chars_of_not_begin _ _ _ hname, if_neg hname]
    rfl

/-- Going through the lines keeps the last word of each of two headers. -/
theorem foldl_ssdpLine (lines : List (List UInt8)) (resp : SsdpResp) :
    lines.foldl ssdpLine resp =
      ⟨lastWord resp.st ((lines.filter (Occurs (ascii "ST: "))).map (headerWord (ascii "ST:"))),
        lastWord resp.location ((lines.filter fun line =>
          ¬ Occurs (ascii "ST: ") line ∧ Occurs (ascii "Location: ") line).map
            (headerWord (ascii "Location:")))⟩ := by
  induction lines generalizing resp with
  | nil => rfl
  | cons line lines ih =>
    rw [List.foldl_cons, ih]
    by_cases hst : Occurs (ascii "ST: ") line
    · have hline : ssdpLine resp line = { resp with st := scanWord "ST: %s" line resp.st } :=
        if_pos hst
      rw [hline, scanWord_header _ (ascii "ST:") _ _ rfl, List.filter_cons_of_pos (by simpa),
        List.map_cons, lastWord_cons, List.filter_cons_of_neg (by simp [hst])]
    · rw [List.filter_cons_of_neg (by simpa)]
      by_cases hlocation : Occurs (ascii "Location: ") line
      · have hline : ssdpLine resp line =
            { resp with location := scanWord "Location: %s" line resp.location } :=
          (if_neg hst).trans (if_pos hlocation)
        rw [hline, scanWord_header _ (ascii "Location:") _ _ rfl,
          List.filter_cons_of_pos (by simp [hst, hlocation]), List.map_cons, lastWord_cons]
      · have hline : ssdpLine resp line = resp :=
          (if_neg hst).trans (if_neg hlocation)
        rw [hline, List.filter_cons_of_neg (by simp [hlocation])]

/-- **A datagram** is read as the last words of its headers. -/
theorem parseSsdpResp_eq (datagram : List UInt8) :
    parseSsdpResp datagram =
      ⟨lastWord [] (stWords datagram), lastWord [] (locationWords datagram)⟩ :=
  foldl_ssdpLine _ _

/-- The services of two parts. -/
theorem stWords_append (datagram rest : List UInt8) :
    stWords (datagram ++ 10 :: rest) = stWords datagram ++ stWords rest := by
  rw [stWords, tokens_append, List.filter_append, List.map_append]
  rfl

/-- The locations of two parts. -/
theorem locationWords_append (datagram rest : List UInt8) :
    locationWords (datagram ++ 10 :: rest) = locationWords datagram ++ locationWords rest := by
  rw [locationWords, tokens_append, List.filter_append, List.map_append]
  rfl

/-! ## What fits -/

/-- A word is shorter than its line by the name of the header. -/
theorem length_headerWord_le (name line : List UInt8) :
    (headerWord name line).length ≤ line.length - name.length := by
  unfold headerWord firstWord
  split
  · apply (List.takeWhile_prefix _).length_le.trans
    apply (List.dropWhile_suffix _).length_le.trans
    exact List.length_drop.le
  · exact Nat.zero_le _

/-- The word that stays is one of the words. -/
theorem length_lastWord_le {words : List (List UInt8)} {n : ℕ}
    (h : ∀ word ∈ words, word.length ≤ n) : (lastWord [] words).length ≤ n := by
  unfold lastWord
  cases hlast : (words.filter (· ≠ [])).getLast? with
  | none => exact Nat.zero_le n
  | some found => exact h found (List.mem_of_mem_filter (List.mem_of_getLast? hlast))

/-- **The local arrays.**  `st` and `location` have 1024 bytes each, and so has an answer
without its terminator; no word of it is too long for them. -/
theorem parseSsdpResp_fits {datagram : List UInt8} (h : datagram.length ≤ 1024) :
    (parseSsdpResp datagram).st.length < 1024 ∧
      (parseSsdpResp datagram).location.length < 1024 := by
  have hword : ∀ name : List UInt8, 0 < name.length → ∀ line ∈ tokens 10 datagram,
      (headerWord name line).length ≤ 1023 := by
    intro name hname line hline
    have hle := length_headerWord_le name line
    have hline' := (infix_of_mem_tokens hline).length_le
    omega
  rw [parseSsdpResp_eq]
  refine ⟨Nat.lt_succ_of_le (length_lastWord_le ?_), Nat.lt_succ_of_le (length_lastWord_le ?_)⟩
  · intro word hmem
    obtain ⟨line, hline, rfl⟩ := List.mem_map.mp hmem
    have hname : 0 < (ascii "ST:").length := by decide
    exact hword (ascii "ST:") hname line (List.mem_of_mem_filter hline)
  · intro word hmem
    obtain ⟨line, hline, rfl⟩ := List.mem_map.mp hmem
    have hname : 0 < (ascii "Location:").length := by decide
    exact hword (ascii "Location:") hname line (List.mem_of_mem_filter hline)

/-! ## One answer -/

/-- **One answer.**  The service it names gets the address it names. -/
theorem location_handleSsdpResp (context : Context) (datagram : List UInt8) (s : Service) :
    s.location (handleSsdpResp context datagram) =
      if lastWord [] (stWords datagram) = s.urn then lastWord [] (locationWords datagram)
      else s.location context := by
  have htt : tmTas ≠ tmTcp := by decide
  have htd : tmTas ≠ tmTsd := by decide
  have hcd : tmTcp ≠ tmTsd := by decide
  unfold handleSsdpResp
  rw [parseSsdpResp_eq]
  cases s with
  | applicationServer =>
    simp only [Service.location, Service.urn]
    split_ifs <;> simp_all
  | clientProfile =>
    simp only [Service.location, Service.urn]
    split_ifs <;> simp_all
  | serverDevice =>
    simp only [Service.location, Service.urn]
    split_ifs <;> simp_all

/-! ## Runs -/

/-- The last datagram is handled after the others. -/
theorem handleAll_concat (context : Context) (before : List (List UInt8))
    (datagram : List UInt8) :
    handleAll context (before ++ [datagram]) =
      handleSsdpResp (handleAll context before) datagram := by
  rw [handleAll, List.foldl_append]
  rfl

/-- An answer without a location clears the one that is kept. -/
theorem location_of_answersWithoutLocation {s : Service} {datagram : List UInt8}
    (h : AnswersWithoutLocation s datagram) (context : Context) :
    s.location (handleSsdpResp context datagram) = [] := by
  rw [location_handleSsdpResp, if_pos h.1]
  exact (lastWord_eq_nil_iff _).mpr h.2

/-- An answer that is no bare answer for the service leaves its address, or finds one. -/
theorem location_step {s : Service} {context : Context} {datagram : List UInt8}
    (hbare : ¬ AnswersWithoutLocation s datagram) (hne : s.location context ≠ []) :
    s.location (handleSsdpResp context datagram) ≠ [] := by
  rw [location_handleSsdpResp]
  by_cases hst : lastWord [] (stWords datagram) = s.urn
  · rw [if_pos hst]
    intro hnil
    exact hbare ⟨hst, (lastWord_eq_nil_iff _).mp hnil⟩
  · rw [if_neg hst]
    exact hne

/-- Without a location every such word is empty. -/
theorem locationWords_of_not_carriesLocation {datagram : List UInt8}
    (h : ¬ CarriesLocation datagram) : ∀ word ∈ locationWords datagram, word = [] := by
  intro word hword
  rw [locationWords, List.mem_map] at hword
  obtain ⟨line, hline, rfl⟩ := hword
  by_contra hne
  exact h ⟨line, (List.mem_filter.mp hline).1, hne⟩

/-- Once an address has been found it is kept, as long as no bare answer for the service
follows. -/
theorem location_run {s : Service} {context : Context} (during : List (List UInt8))
    (hbare : ∀ before datagram after, during = before ++ datagram :: after →
      AnswersWithoutLocation s datagram → s.location (handleAll context before) = [])
    (hne : s.location context ≠ []) : s.location (handleAll context during) ≠ [] := by
  induction during using List.reverseRecOn with
  | nil => exact hne
  | append_singleton during datagram ih =>
    have hkept : s.location (handleAll context during) ≠ [] := by
      apply ih
      intro before d after hsplit
      exact hbare before d (after ++ [datagram]) (by rw [hsplit, List.append_assoc]; rfl)
    rw [handleAll_concat]
    apply location_step _ hkept
    intro hanswers
    exact hkept (hbare during datagram [] rfl hanswers)

/-- **Found addresses.**  Nothing is lost exactly if every answer that names a service and no
address comes before an address of that service has been found. -/
theorem locations_kept_iff (context : Context) (datagrams : List (List UInt8)) :
    KeepsLocations context datagrams ↔
      ∀ before datagram after s, datagrams = before ++ datagram :: after →
        AnswersWithoutLocation s datagram →
          Service.location (handleAll context before) s = [] := by
  constructor
  · intro hkeeps before datagram after s hsplit hanswers
    by_contra hne
    apply hkeeps.kept before [datagram] after s (by rw [hsplit, List.append_assoc]; rfl) hne
    rw [handleAll_concat]
    exact location_of_answersWithoutLocation hanswers _
  · intro hbare
    refine ⟨?_, ?_⟩
    · intro before during after s hsplit hne
      rw [handleAll, List.foldl_append]
      apply location_run during _ hne
      intro inner datagram rest hinner hanswers
      have h := hbare (before ++ inner) datagram (rest ++ after) s
        (by rw [hsplit, hinner, List.append_assoc, List.append_assoc, List.append_assoc]; rfl)
        hanswers
      rw [handleAll, List.foldl_append] at h
      exact h
    · intro before datagram after s hsplit hcarries
      rw [handleAll_concat, location_handleSsdpResp]
      by_cases hst : lastWord [] (stWords datagram) = s.urn
      · have hwords := locationWords_of_not_carriesLocation hcarries
        rw [if_pos hst, (lastWord_eq_nil_iff _).mpr hwords]
        exact (hbare before datagram after s hsplit ⟨hst, hwords⟩).symm
      · rw [if_neg hst]

/-- The answer of a device that spells the header `LOCATION`. -/
def upperCaseAnswer : List UInt8 :=
  ascii "HTTP/1.1 200 OK\r\nST: urn:schemas-upnp-org:device:TmServerDevice:1\r\n" ++
    ascii "LOCATION: http://192.168.42.129:8080/d.xml\r\n\r\n"

/-- Not every run keeps the locations. -/
theorem locations_kept_fails :
    ¬ ∀ (context : Context) (datagrams : List (List UInt8)),
      KeepsLocations context datagrams := by
  intro h
  have hkeeps := h ⟨0, [], [], [], ascii "http://192.168.42.129:8080/d.xml", false⟩
    [upperCaseAnswer]
  exact hkeeps.kept [] [upperCaseAnswer] [] .serverDevice rfl (by decide) (by decide +kernel)

end MirrorLink.Analysis
