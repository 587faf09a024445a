import MirrorLink.Analysis.Locations
import MirrorLink.Interface.SearchResponse
import MirrorLink.Library.LastWrite

/-!
# Answers are updates

An answer that is well formed writes the address it gives into the member of the `Context` that
belongs to the target it answers.  It makes no difference where in the text the two lines stand,
nor what else there is: a line is read only where it begins.
-/

set_option autoImplicit false

namespace MirrorLink.Analysis

open MirrorLink.Library MirrorLink.Program

/-! ## Lines -/

/-- The words behind a header's name, of those lines of a text that are looked at. -/
def headerWords (name : List UInt8) (looked : List UInt8 → Bool) (text : List UInt8) :
    List (List UInt8) := ((tokens 10 text).filter looked).map (headerWord name)

/-- The words of a header in two parts. -/
theorem headerWords_append (name : List UInt8) (looked : List UInt8 → Bool)
    (text rest : List UInt8) : headerWords name looked (text ++ 10 :: rest) =
      headerWords name looked text ++ headerWords name looked rest := by
  rw [headerWords, tokens_append, List.filter_append, List.map_append]
  rfl

/-- The word of one line counts if the line is looked at. -/
theorem lastWord_headerWords_line (name : List UInt8) (looked : List UInt8 → Bool)
    {line : List UInt8} (hline : 10 ∉ line) (word : List UInt8) :
    lastWord word (headerWords name looked line) =
      if looked line = true ∧ headerWord name line ≠ [] then headerWord name line else word := by
  have hsplit : line.splitOn 10 = [line] := by
    refine List.splitOnP_eq_singleton fun b hb => ?_
    rw [beq_eq_false_iff_ne]
    rintro rfl
    exact hline hb
  by_cases hempty : line = []
  · have hnil : headerWord name line = [] := by
      rw [hempty, headerWord, firstWord]
      split <;> simp
    rw [if_neg fun h => h.2 hnil, headerWords, tokens, hsplit, hempty]
    rfl
  · have htokens : tokens 10 line = [line] := by
      rw [tokens, hsplit]
      simp [hempty]
    rw [headerWords, htokens, List.filter_singleton]
    cases looked line with
    | false => rfl
    | true =>
      show lastWord word [headerWord name line] = _
      rw [lastWord_cons]
      by_cases hword : headerWord name line = []
      · simp [hword, lastWord]
      · simp [hword, lastWord]

/-- A line that begins otherwise gives no word. -/
theorem headerWord_of_not_prefix {name line : List UInt8} (h : ¬ name <+: line) :
    headerWord name line = [] := if_neg h

/-- A header's name that a line begins with stands before the CR at its end. -/
theorem begins_of_ending {name line ending : List UInt8} (hname : 13 ∉ name)
    (hending : ending = [] ∨ ending = [13]) (h : name <+: line ++ ending) : name <+: line := by
  rcases hending with rfl | rfl
  · rwa [List.append_nil] at h
  · rcases List.prefix_concat_iff.mp h with heq | hbegin
    · rw [heq] at hname
      exact absurd (List.mem_append_right _ List.mem_cons_self) hname
    · exact hbegin

section Lines

variable {name value : List UInt8} {looked : List UInt8 → Bool} {reads : List UInt8 → Prop}

/-- What a line with a header's name says: whether it is looked at, and the word in it. -/
def SaysValue (name value : List UInt8) (looked : List UInt8 → Bool) (reads : List UInt8 → Prop)
    (line : List UInt8) : Prop :=
  name <+: line → ∀ ending, ending = [] ∨ ending = [13] →
    (looked (line ++ ending) = true ↔ reads line) ∧
      (reads line → headerWord name (line ++ ending) = value)

variable [DecidablePred reads]

/-- The words of one line. -/
theorem lastWord_line (hname : 13 ∉ name) (hvalue : value ≠ []) {line ending : List UInt8}
    (hline : 10 ∉ line) (hending : ending = [] ∨ ending = [13])
    (hread : SaysValue name value looked reads line) (word : List UInt8) :
    lastWord word (headerWords name looked (line ++ ending)) =
      if name <+: line ∧ reads line then value else word := by
  have hten : 10 ∉ line ++ ending := by
    rcases hending with rfl | rfl
    · simpa using hline
    · simp [hline]
  rw [lastWord_headerWords_line name looked hten]
  by_cases hbegin : name <+: line
  · obtain ⟨hlooked, hword⟩ := hread hbegin ending hending
    by_cases hreads : reads line
    · rw [hword hreads, if_pos ⟨hlooked.mpr hreads, hvalue⟩, if_pos ⟨hbegin, hreads⟩]
    · rw [if_neg fun h => hreads (hlooked.mp h.1), if_neg fun h => hreads h.2]
  · have hnil : headerWord name (line ++ ending) = [] :=
      headerWord_of_not_prefix fun h => hbegin (begins_of_ending hname hending h)
    rw [if_neg fun h => h.2 hnil, if_neg fun h => hbegin h.1]

/-- **The words of a text**: the value, if some line is read. -/
theorem lastWord_headerWords (hname : 13 ∉ name) (hvalue : value ≠ [])
    {lines : List (List UInt8)} {text : List UInt8} (hlines : HasLines lines text)
    (hread : ∀ line ∈ lines, SaysValue name value looked reads line) (word : List UInt8) :
    lastWord word (headerWords name looked text) =
      if ∃ line ∈ lines, name <+: line ∧ reads line then value else word := by
  induction hlines generalizing word with
  | last hline =>
    have hone := lastWord_line hname hvalue hline (.inl rfl) (hread _ List.mem_cons_self) word
    rw [List.append_nil] at hone
    simpa using hone
  | @lf line text lines hline _ ih =>
    have hone := lastWord_line hname hvalue hline (.inl rfl) (hread _ List.mem_cons_self) word
    rw [List.append_nil] at hone
    rw [headerWords_append, lastWord_append, hone,
      ih fun l hl => hread l (List.mem_cons_of_mem _ hl)]
    simp only [List.mem_cons, exists_eq_or_imp]
    by_cases hline : name <+: line ∧ reads line
    · simp [hline]
    · simp [hline]
  | @crlf line text lines hline _ ih =>
    have hone := lastWord_line hname hvalue hline (.inr rfl) (hread _ List.mem_cons_self) word
    have htext : line ++ 13 :: 10 :: text = (line ++ [13]) ++ 10 :: text := by simp
    rw [htext, headerWords_append, lastWord_append, hone,
      ih fun l hl => hread l (List.mem_cons_of_mem _ hl)]
    simp only [List.mem_cons, exists_eq_or_imp]
    by_cases hline : name <+: line ∧ reads line
    · simp [hline]
    · simp [hline]

end Lines

/-! ## One answer -/

/-- The text of another header's line has no `ST: ` in it. -/
theorem not_occurs_st {location ending : List UInt8} (hlocation : ∀ b ∈ location, isSpace b = false)
    (hending : ending = [] ∨ ending = [13]) :
    ¬ Occurs (ascii "ST: ") (ascii "Location: " ++ location ++ ending) := by
  have hst : ascii "ST: " = 83 :: [84, 58, 32] := by decide
  have hname : (83 : UInt8) ∉ ascii "Location: " := by decide
  unfold Occurs
  rw [List.append_assoc, hst, strstr_skip _ _ _ _ hname]
  intro hsome
  obtain ⟨found, hfound⟩ := Option.isSome_iff_exists.mp hsome
  -- the blank would have to stand in the address or its line's end
  have hblank : (32 : UInt8) ∈ location ++ ending := by
    have hmem : (32 : UInt8) ∈ found := (prefix_of_strstr hfound).subset (by decide)
    exact (strstr_suffix hfound).subset hmem
  rcases List.mem_append.mp hblank with h | h
  · exact absurd (hlocation 32 h) (by decide)
  · rcases hending with rfl | rfl
    · cases h
    · exact absurd (List.mem_singleton.mp h) (by decide)

/-- A word at the beginning occurs. -/
theorem occurs_of_begin {word line : List UInt8} (h : word <+: line) : Occurs word line := by
  rw [Occurs, strstr_begin _ _ h]
  rfl

/-- The word in a header's line, with one blank behind the colon. -/
theorem headerWord_line {name word ending : List UInt8} (hword : IsWord word)
    (hending : ending = [] ∨ ending = [13]) :
    headerWord name (name ++ ([32] ++ (word ++ ending))) = word := by
  rw [headerWord, if_pos (List.prefix_append _ _), List.drop_left]
  refine firstWord_word (by decide +kernel) hword.1 hword.2 ?_
  intro b hb
  rcases hending with rfl | rfl
  · cases hb
  · cases hb
    rfl

/-- **The one line of a header**, with one blank behind the colon, gives the word that is read. -/
theorem lastWord_header {name word text : List UInt8} {lines : List (List UInt8)}
    {looked : List UInt8 → Bool} (hname : 13 ∉ name) (hword : IsWord word)
    (hlines : HasLines lines text)
    (honly : (lines.filter fun line => name <+: line) = [name ++ 32 :: word])
    (hlooked : ∀ ending, ending = [] ∨ ending = [13] →
      looked (name ++ 32 :: word ++ ending) = true) :
    lastWord [] (headerWords name looked text) = word := by
  have hread : ∀ line ∈ lines, SaysValue name word looked (fun _ => True) line := by
    intro line hline hbegin ending hending
    have hmem : line ∈ lines.filter fun line => name <+: line :=
      List.mem_filter.mpr ⟨hline, decide_eq_true hbegin⟩
    rw [honly, List.mem_singleton] at hmem
    rw [hmem]
    refine ⟨iff_of_true (hlooked ending hending) trivial, fun _ => ?_⟩
    rw [List.append_assoc]
    exact headerWord_line hword hending
  have hfound : ∃ line ∈ lines, name <+: line ∧ True := by
    have hmem : name ++ 32 :: word ∈ lines.filter fun line => name <+: line := by
      rw [honly]
      exact List.mem_cons_self
    obtain ⟨hline, hbegin⟩ := List.mem_filter.mp hmem
    exact ⟨_, hline, of_decide_eq_true hbegin, trivial⟩
  exact (lastWord_headerWords hname hword.1 hlines hread []).trans (if_pos hfound)

variable (r : SearchResponse)

/-- The name that is searched for has a blank behind the one that is scanned. -/
theorem ascii_st : ascii "ST: " = ascii "ST:" ++ [32] := by decide

/-- So has the name of the location. -/
theorem ascii_location : ascii "Location: " = ascii "Location:" ++ [32] := by decide

/-- **What an answer says**: its target and its address. -/
theorem lastWord_stWords : lastWord [] (stWords r.text) = r.st := by
  have honly := r.st_line
  rw [ascii_st, List.append_assoc, List.singleton_append] at honly
  refine lastWord_header (by decide) r.st_word r.hasLines honly fun ending _ => ?_
  refine decide_eq_true (occurs_of_begin ⟨r.st ++ ending, ?_⟩)
  rw [ascii_st]
  simp

/-- The location that stays is the one of the answer. -/
theorem lastWord_locationWords : lastWord [] (locationWords r.text) = r.location := by
  have honly := r.location_line
  rw [ascii_location, List.append_assoc, List.singleton_append] at honly
  refine lastWord_header (by decide) r.location_word r.hasLines honly fun ending hending => ?_
  have hsplit : ascii "Location:" ++ 32 :: r.location ++ ending =
      ascii "Location: " ++ r.location ++ ending := by
    rw [ascii_location]
    simp
  rw [hsplit]
  refine decide_eq_true ⟨not_occurs_st r.location_word.2 hending, occurs_of_begin ?_⟩
  exact ⟨r.location ++ ending, (List.append_assoc _ _ _).symm⟩

/-- The update an answer makes. -/
theorem location_searchResponse (context : Context) (s : Service) :
    s.location (handleSsdpResp context r.text) =
      if r.st = s.urn then r.location else s.location context := by
  rw [location_handleSsdpResp, lastWord_stWords, lastWord_locationWords]

/-! ## Sequences of answers -/

/-- A context is known by its addresses and what answers do not change. -/
theorem context_ext {c c' : Context} (hlocation : ∀ s : Service, s.location c = s.location c')
    (hstate : c.serverState = c'.serverState) (hclients : c.remoteClients = c'.remoteClients)
    (hserver : c.mServer = c'.mServer) : c = c' := by
  obtain ⟨state, clients, app, profile, device, server⟩ := c
  obtain ⟨state', clients', app', profile', device', server'⟩ := c'
  have happ := hlocation .applicationServer
  have hprofile := hlocation .clientProfile
  have hdevice := hlocation .serverDevice
  simp only [Service.location] at happ hprofile hdevice
  simp only at hstate hclients hserver
  rw [happ, hprofile, hdevice, hstate, hclients, hserver]

/-- Answers change neither the state nor the clients nor the server. -/
theorem handleAll_frame (context : Context) (texts : List (List UInt8)) :
    (handleAll context texts).serverState = context.serverState ∧
      (handleAll context texts).remoteClients = context.remoteClients ∧
      (handleAll context texts).mServer = context.mServer := by
  induction texts using List.reverseRecOn with
  | nil => exact ⟨rfl, rfl, rfl⟩
  | append_singleton texts text ih =>
    obtain ⟨hstate, hclients, hserver⟩ := handleSsdpResp_frame (handleAll context texts) text
    rw [handleAll_concat]
    exact ⟨hstate.trans ih.1, hclients.trans ih.2.1, hserver.trans ih.2.2⟩

/-- Two ways to handle answers end in the same context if they make the same updates. -/
theorem handleAll_congr {texts texts' : List (List UInt8)} {context : Context}
    (h : ∀ s : Service,
      s.location (handleAll context texts) = s.location (handleAll context texts')) :
    handleAll context texts = handleAll context texts' := by
  obtain ⟨hstate, hclients, hserver⟩ := handleAll_frame context texts
  obtain ⟨hstate', hclients', hserver'⟩ := handleAll_frame context texts'
  exact context_ext h (hstate.trans hstate'.symm) (hclients.trans hclients'.symm)
    (hserver.trans hserver'.symm)

/-- An answer for no service changes nothing. -/
theorem handleSsdpResp_of_other (context : Context) {text : List UInt8}
    (h : ∀ s : Service, lastWord [] (stWords text) ≠ s.urn) :
    handleSsdpResp context text = context := by
  suffices hsame : handleAll context [text] = handleAll context [] from hsame
  refine handleAll_congr fun s => ?_
  show s.location (handleSsdpResp context text) = s.location context
  rw [location_handleSsdpResp, if_neg (h s)]

/-- What an answer writes into the address of a service. -/
def serviceWrite (s : Service) (r : SearchResponse) : Option (List UInt8) :=
  if r.st = s.urn then some r.location else none

/-- **A sequence of answers** leaves the last address that was given for a service. -/
theorem location_handleAll (context : Context) (rs : List SearchResponse) (s : Service) :
    s.location (handleAll context (rs.map SearchResponse.text)) =
      (lastWrite (serviceWrite s) rs).getD (s.location context) := by
  rw [handleAll, List.foldl_map]
  refine foldl_lastWrite s.location _ (serviceWrite s) (fun context r => ?_) rs context
  rw [location_searchResponse, serviceWrite]
  split <;> rfl

/-- Answers are updates of which the last one counts. -/
structure LastWriterWins (context : Context) : Prop where
  last : ∀ (rs : List SearchResponse) (s : Service),
    s.location (handleAll context (rs.map SearchResponse.text)) =
      (((rs.filter fun r => r.st = s.urn).getLast?).map SearchResponse.location).getD
        (s.location context)
  frame : ∀ rs : List SearchResponse,
    (handleAll context (rs.map SearchResponse.text)).serverState = context.serverState ∧
      (handleAll context (rs.map SearchResponse.text)).remoteClients = context.remoteClients ∧
      (handleAll context (rs.map SearchResponse.text)).mServer = context.mServer
  /-- Answers for different targets commute. -/
  commute : ∀ r r' : SearchResponse, r.st ≠ r'.st →
    handleSsdpResp (handleSsdpResp context r.text) r'.text =
      handleSsdpResp (handleSsdpResp context r'.text) r.text
  /-- The order of the lines makes no difference. -/
  line_order : ∀ r r' : SearchResponse, r.lines.Perm r'.lines →
    handleSsdpResp context r.text = handleSsdpResp context r'.text
  /-- An answer for another target changes nothing. -/
  unrecognised : ∀ r : SearchResponse, (∀ s : Service, r.st ≠ s.urn) →
    handleSsdpResp context r.text = context

/-- Answers with the same lines say the same. -/
theorem says_of_perm {r r' : SearchResponse} (h : r.lines.Perm r'.lines) :
    r.st = r'.st ∧ r.location = r'.location := by
  have hst := h.filter fun line => ascii "ST:" <+: line
  have hlocation := h.filter fun line => ascii "Location:" <+: line
  rw [r.st_line, r'.st_line, List.perm_singleton, List.singleton_inj] at hst
  rw [r.location_line, r'.location_line, List.perm_singleton, List.singleton_inj] at hlocation
  exact ⟨List.append_cancel_left hst, List.append_cancel_left hlocation⟩

/-- **Answers to a search** are independent updates, for every context. -/
theorem last_writer_wins (context : Context) : LastWriterWins context := by
  refine ⟨fun rs s => ?_, fun rs => handleAll_frame context _, fun r r' hne => ?_,
    fun r r' hperm => ?_, fun r hother => ?_⟩
  · have hsome : (fun r : SearchResponse => some r.location) = some ∘ SearchResponse.location := rfl
    rw [location_handleAll]
    unfold serviceWrite
    rw [lastWrite_ite, hsome, List.filterMap_eq_map, List.getLast?_map]
  · suffices hsame : handleAll context [r.text, r'.text] = handleAll context [r'.text, r.text] from
      hsame
    refine handleAll_congr fun s => ?_
    show s.location (handleSsdpResp (handleSsdpResp context r.text) r'.text) =
      s.location (handleSsdpResp (handleSsdpResp context r'.text) r.text)
    simp only [location_searchResponse]
    by_cases hst : r.st = s.urn
    · have hother : r'.st ≠ s.urn := fun h => hne (hst.trans h.symm)
      simp only [if_pos hst, if_neg hother]
    · simp only [if_neg hst]
  · obtain ⟨hst, hlocation⟩ := says_of_perm hperm
    suffices hsame : handleAll context [r.text] = handleAll context [r'.text] from hsame
    refine handleAll_congr fun s => ?_
    show s.location (handleSsdpResp context r.text) = s.location (handleSsdpResp context r'.text)
    rw [location_searchResponse, location_searchResponse, hst, hlocation]
  · refine handleSsdpResp_of_other context fun s => ?_
    rw [lastWord_stWords]
    exact hother s

/-- An answer of a device, with the name of a header in another line. -/
def twoNamesAnswer : SearchResponse where
  text := ascii "HTTP/1.1 200 OK" ++ 13 :: 10 :: (ascii "HOST: a ST: b" ++ 10 ::
    (ascii "ST: urn:schemas-upnp-org:device:TmServerDevice:1" ++ 13 :: 10 ::
      (ascii "Location: http://192.168.42.129:8080/d.xml" ++ 13 :: 10 :: ([] ++ 13 :: 10 :: []))))
  lines := [ascii "HTTP/1.1 200 OK", ascii "HOST: a ST: b",
    ascii "ST: urn:schemas-upnp-org:device:TmServerDevice:1",
    ascii "Location: http://192.168.42.129:8080/d.xml", [], []]
  st := tmTsd
  location := ascii "http://192.168.42.129:8080/d.xml"
  hasLines := .crlf (by decide) (.lf (by decide) (.crlf (by decide) (.crlf (by decide)
    (.crlf (by decide) (.last (by decide))))))
  st_line := by decide +kernel
  location_line := by decide +kernel
  st_word := by decide +kernel
  location_word := by decide +kernel
  no_zero := by decide +kernel
  length_le := by decide +kernel

/-- An answer that names its service twice. -/
theorem last_writer_wins_of_answer :
    (handleAll Context.zero [twoNamesAnswer.text]).tmServerDevice =
      ascii "http://192.168.42.129:8080/d.xml" :=
  (last_writer_wins Context.zero).last [twoNamesAnswer] .serverDevice

end MirrorLink.Analysis
