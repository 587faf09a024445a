import MirrorLink.Analysis.SoapBody

/-!
# The arguments of a request, read back

What a listing is asked for with is pasted between two tags.  It is read back if it is plain
text, and otherwise not, since whatever is not text costs more characters than a number could
bring.  A client profile is never read back: it has an XML declaration in it.
-/

set_option autoImplicit false

namespace MirrorLink.Analysis

open MirrorLink.Library MirrorLink.Program

/-! ## The body -/

section Body

variable {server : RemoteServer} {stype : Fin 3} {name args : List UInt8}
  {action service : List Char} {attributes : List (List Char × List Char)}
  {arguments : List (List Char × List UInt8)}

/-- A request that is made has its address, and the envelope for its body. -/
theorem actionRequest_ok (hname : name.length ≤ 20) {rq : HttpReq}
    (h : actionRequest server stype name args = .ok rq) :
    (∃ path, (server.sinfo stype).curl = some path) ∧
      rq.body = some (envelopeBegin stype name ++ args ++ envelopeEnd name) := by
  cases hpath : (server.sinfo stype).curl with
  | none =>
    rw [actionRequest, hpath] at h
    cases h
  | some path =>
    obtain ⟨rq', hrq', -, -, hbody⟩ := actionRequest_eq server stype args hname hpath
    rw [hrq'] at h
    cases h
    exact ⟨⟨path, rfl⟩, hbody⟩

/-- A document of an action with these arguments pasted into it is read back. -/
def PastedReadsBack (action service : List Char) (args : List UInt8)
    (arguments : List (List Char × List UInt8)) : Prop :=
  ∃ inner root, utf8 inner = args ∧
    readXml (xmlDeclaration ++ soapBegin action service ++ (inner ++ soapEnd action)) = some root ∧
    Carries root action arguments

variable (h : SoapAction stype name action service attributes)

include h

/-- What is pasted reads back if the whole envelope does. -/
theorem pastedReadsBack_iff : PastedReadsBack action service args arguments ↔
    ∃ text root, utf8 text = envelopeBegin stype name ++ args ++ envelopeEnd name ∧
      readXml text = some root ∧ Carries root action arguments := by
  constructor
  · rintro ⟨inner, root, rfl, hread, hcarries⟩
    exact ⟨_, root, utf8_soap h inner, hread, hcarries⟩
  · rintro ⟨text, root, htext, hread, hcarries⟩
    rw [← h.begin_bytes, List.append_assoc] at htext
    obtain ⟨back, rfl, hback⟩ := utf8_prefix htext
    rw [← h.end_bytes] at hback
    obtain ⟨rest, hrest⟩ : ∃ rest, utf8 (soapEnd action) = 60 :: rest := by
      rw [soapEnd_eq, List.append_assoc, utf8_append]
      exact ⟨_, rfl⟩
    rw [hrest] at hback
    obtain ⟨inner, close, rfl, hinner, hclose⟩ := utf8_split (by decide) hback
    rw [← hrest] at hclose
    rw [utf8_injective hclose] at hread
    exact ⟨inner, root, hinner, hread, hcarries⟩

/-- **The body of a request**, whose arguments are formatted first. -/
theorem readsBack_iff (hname : name.length ≤ 20) (size : ℕ) :
    ReadsBack (sprintfInto size args >>= actionRequest server stype name) action arguments ↔
      args.length < size ∧ (∃ path, (server.sinfo stype).curl = some path) ∧
        PastedReadsBack action service args arguments := by
  rw [pastedReadsBack_iff h]
  constructor
  · rintro ⟨rq, body, text, root, hrq, hbody, htext, hread, hcarries⟩
    obtain ⟨line, hline, hrq⟩ := bind_eq_ok.mp hrq
    rw [sprintfInto] at hline
    split_ifs at hline with hfits
    cases hline
    obtain ⟨hpath, hrqBody⟩ := actionRequest_ok hname hrq
    rw [hrqBody] at hbody
    cases hbody
    exact ⟨hfits, hpath, text, root, htext, hread, hcarries⟩
  · rintro ⟨hfits, ⟨path, hpath⟩, text, root, htext, hread, hcarries⟩
    obtain ⟨rq, hrq, -, -, hbody⟩ := actionRequest_eq server stype args hname hpath
    have hline : sprintfInto size args = .ok args := if_pos hfits
    exact ⟨rq, _, text, root, bind_eq_ok.mpr ⟨args, hline, hrq⟩, hbody, htext, hread, hcarries⟩

end Body

/-! ## Two arguments -/

/-- A number in an element has no character of control. -/
theorem not_mem_elementText {name : List Char} {bytes : List UInt8} (hname : carriageReturn ∉ name)
    (h : IsNumeral bytes) : carriageReturn ∉ elementText name (asciiText bytes) := by
  have hnumber : carriageReturn ∉ asciiText bytes := not_mem_numeral h (.inl (by decide))
  have hopen : carriageReturn ≠ '<' := by decide
  have hslash : carriageReturn ≠ '/' := by decide
  have hclose : carriageReturn ≠ '>' := by decide
  simp [elementText, tagText, hname, hnumber, hopen, hslash, hclose]

section Arguments

variable {stype : Fin 3} {name : List UInt8} {action service : List Char}
  {attributes : List (List Char × List Char)} (h : SoapAction stype name action service attributes)

include h

/-- Two elements in the element of an action. -/
theorem run_arguments {first second text text' : List Char} (hfirst : IsElementName first)
    (hsecond : IsElementName second) (htext : ∀ c ∈ text, isTextChar c = true)
    (hend : ¬ cdataEnd <:+: text) (htext' : ∀ c ∈ text', isTextChar c = true)
    (hend' : ¬ cdataEnd <:+: text') :
    XmlReader.run ⟨.text 0, actionFrames action attributes [] [], none⟩
        (elementText first text ++ (elementText second text' ++ soapEnd action)) =
      some ⟨.text 0, [], some (soapDocument action attributes (text ++ text')
        [.mk first [] text [], .mk second [] text' []])⟩ := by
  rw [XmlReader.run_append, actionFrames, run_element 0 _ _ none hfirst htext hend,
    Option.bind_some, XmlReader.run_append, run_element 0 _ _ none hsecond htext' hend',
    Option.bind_some]
  exact run_soapEnd h 0 (text ++ text') [.mk first [] text [], .mk second [] text' []]

/-- **Numbers are read back**, whatever they are. -/
theorem pastedReadsBack_of_numerals {first second : List Char} {bytes bytes' : List UInt8}
    (hfirst : IsElementName first) (hsecond : IsElementName second)
    (hplain : carriageReturn ∉ first) (hplain' : carriageReturn ∉ second)
    (hbytes : IsNumeral bytes) (hbytes' : IsNumeral bytes') :
    PastedReadsBack action service
      (utf8 (elementText first (asciiText bytes) ++ elementText second (asciiText bytes')))
      [(first, bytes), (second, bytes')] := by
  have hinner : carriageReturn ∉ elementText first (asciiText bytes) ++
      elementText second (asciiText bytes') ++ soapEnd action := by
    simp only [List.mem_append, not_or]
    exact ⟨⟨not_mem_elementText hplain hbytes, not_mem_elementText hplain' hbytes'⟩, h.end_plain⟩
  refine ⟨_, soapDocument action attributes (asciiText bytes ++ asciiText bytes')
    [.mk first [] (asciiText bytes) [], .mk second [] (asciiText bytes') []], rfl, ?_, ?_⟩
  · rw [readXml_soap h, normalizeLineEnds, normalizeFrom_of_not_mem hinner, List.append_assoc,
      run_arguments h hfirst hsecond (isTextChar_numeral hbytes) (not_cdataEnd_numeral hbytes)
        (isTextChar_numeral hbytes') (not_cdataEnd_numeral hbytes')]
    rfl
  · rw [carries_soapDocument, List.map_cons, List.map_singleton]
    show [(first, utf8 (asciiText bytes)), (second, utf8 (asciiText bytes'))] = _
    rw [utf8_numeral hbytes, utf8_numeral hbytes']

/-- The closing tags weigh nothing. -/
theorem weight_run_soapEnd {r r' : XmlReader} (hbegin : r.mode.IsText)
    (hrun : r.run (soapEnd action) = some r') : r'.weight = r.weight := by
  rw [soapEnd, XmlReader.run_append, XmlReader.run_append] at hrun
  obtain ⟨s, hs, hlast⟩ := Option.bind_eq_some_iff.mp hrun
  obtain ⟨t, ht, hs⟩ := Option.bind_eq_some_iff.mp hs
  obtain ⟨htext, hweight⟩ := XmlReader.weight_run_tag hbegin h.closes ht
  obtain ⟨htext, hweight'⟩ := XmlReader.weight_run_tag htext isTag_bodyEnd hs
  obtain ⟨-, hweight''⟩ := XmlReader.weight_run_tag htext isTag_envelopeEnd hlast
  rw [hweight'', hweight', hweight]

end Arguments

/-- The document has the texts of all arguments. -/
theorem textLengths_le_of_carries {root : XmlElement} {action : List Char}
    {arguments : List (List Char × List UInt8)} (hfair : Fair root)
    (h : Carries root action arguments) :
    ∃ children : List XmlElement, children.map (fun e => (e.name, utf8 e.text)) = arguments ∧
      textLengths children ≤ root.text.length := by
  obtain ⟨-, body, element, hbody, -, helement, -, harguments⟩ := h
  have hbodyMem := List.mem_of_mem_head? hbody
  have helementMem := List.mem_of_mem_head? helement
  have hbodyFair := hfair.children body hbodyMem
  have helementFair := hbodyFair.children element helementMem
  refine ⟨element.children, harguments, ?_⟩
  calc textLengths element.children
      ≤ element.text.length := helementFair.le
    _ ≤ body.text.length := hbodyFair.child_le helementMem
    _ ≤ root.text.length := hfair.child_le hbodyMem

/-! ## Numbers as they are formatted -/

/-- `%d` is the number itself below 2³¹. -/
theorem decimalInt_eq_decimal_iff (n : UInt32) :
    decimalInt n = decimal n.toNat ↔ n.toNat < 2 ^ 31 := by
  constructor
  · intro h
    by_contra hlarge
    rw [decimalInt, if_neg hlarge] at h
    have hmem : (45 : UInt8) ∈ decimal n.toNat := by
      rw [← h]
      exact List.mem_cons_self
    exact absurd (isDigit_of_mem_decimal hmem) (by decide)
  · intro h
    rw [decimalInt, if_pos h]

/-- A number that is formatted as if it were signed has one character too many at most. -/
theorem length_decimalInt_le_succ (n : UInt32) :
    (decimalInt n).length ≤ (decimal n.toNat).length + 1 := by
  by_cases h : n.toNat < 2 ^ 31
  · rw [(decimalInt_eq_decimal_iff n).mpr h]
    exact Nat.le_succ _
  · have hlong : ¬ (decimal n.toNat).length ≤ 9 := by
      rw [length_decimal_le_iff (by decide)]
      omega
    have hshort := length_decimalInt_le n
    omega

/-! ## Asking for a listing -/

def filterName : List Char := "AppListingFilter".toList

def pidName : List Char := "ProfileID".toList

/-- The action, as a name of an element. -/
def listAction : List Char := "GetApplicationList".toList

def listService : List Char := "TmApplicationServer:1".toList

/-- The action of a listing. -/
theorem soapAction_list :
    SoapAction serviceTypeApp (ascii "GetApplicationList") listAction listService
      applicationService := soapAction_getApplicationList

/-- The name of the filter opens and closes an element. -/
theorem isElementName_filter : IsElementName filterName := by
  decide

/-- So does the name of the number. -/
theorem isElementName_pid : IsElementName pidName := by
  decide

/-- The name of the filter is printable. -/
theorem printable_filter : IsPrintable filterName := by
  decide

/-- So is the name of the number. -/
theorem printable_pid : IsPrintable pidName := by
  decide

/-- A name closes its element. -/
theorem printable_end {name : List Char} (h : IsPrintable name) : IsPrintable ('/' :: name) :=
  have hslash : IsPrintable ['/'] := by decide
  hslash.append h

/-- The tag of the filter, as it is formatted. -/
theorem utf8_filterTag : utf8 (tagText filterName) = ascii "<AppListingFilter>" := by
  apply utf8_eq_ascii _ printable_filter.tagText
  unfold filterName
  repeat rewrite [String.toList_ofList]
  rfl

/-- The tag of the number, as it is formatted. -/
theorem utf8_pidTag : utf8 (tagText pidName) = ascii "<ProfileID>" := by
  apply utf8_eq_ascii _ printable_pid.tagText
  unfold pidName
  repeat rewrite [String.toList_ofList]
  rfl

/-- And the tag behind it. -/
theorem utf8_pidEnd : utf8 (tagText ('/' :: pidName)) = ascii "</ProfileID>" := by
  apply utf8_eq_ascii _ (printable_end printable_pid).tagText
  unfold pidName
  repeat rewrite [String.toList_ofList]
  rfl

/-- The tags between the filter and the number. -/
theorem utf8_filterEnd : utf8 (tagText ('/' :: filterName)) ++ utf8 (tagText pidName) =
    ascii "</AppListingFilter><ProfileID>" := by
  rw [← utf8_append]
  apply utf8_eq_ascii _
    ((printable_end printable_filter).tagText.append printable_pid.tagText)
  unfold filterName pidName
  repeat rewrite [String.toList_ofList]
  rfl

/-- No section of character data ends between the filter and the number. -/
theorem quiet_filterEnd :
    quietFrom '<' ('/' :: filterName ++ ['>'] ++ tagText pidName) = true := by
  unfold filterName pidName
  repeat rewrite [String.toList_ofList]
  decide

/-- Nor behind the number. -/
theorem quiet_listEnd :
    quietFrom '<' ('/' :: pidName ++ ['>'] ++ soapEnd listAction) = true := by
  unfold pidName soapEnd listAction
  repeat rewrite [String.toList_ofList]
  decide

/-- What stands behind the filter, except for the first character. -/
def behindFilter (number : List Char) : List Char :=
  '/' :: filterName ++ ['>'] ++ (elementText pidName number ++ soapEnd listAction)

/-- The arguments of a listing, part by part. -/
theorem listArgs_eq (filter : List UInt8) (pid : UInt32) :
    listArgs filter pid = utf8 (tagText filterName) ++ (filter ++
      (utf8 (tagText ('/' :: filterName)) ++
        utf8 (elementText pidName (asciiText (decimalInt pid))))) := by
  rw [listArgs, elementText, utf8_append, utf8_append, utf8_numeral (isNumeral_decimalInt pid),
    utf8_filterTag, utf8_pidEnd, ← utf8_filterEnd]
  simp only [List.append_assoc]

/-- What is handed over has the filter in a slot. -/
theorem utf8_eq_listArgs_iff {inner : List Char} {filter : List UInt8} {pid : UInt32} :
    utf8 inner = listArgs filter pid ↔ ∃ text, utf8 text = filter ∧
      inner = tagText filterName ++ (text ++
        (tagText ('/' :: filterName) ++ elementText pidName (asciiText (decimalInt pid)))) := by
  rw [listArgs_eq, ← utf8_append]
  constructor
  · intro hinner
    obtain ⟨back, rfl, hback⟩ := utf8_prefix hinner
    obtain ⟨rest, hrest⟩ : ∃ rest, utf8 (tagText ('/' :: filterName) ++
        elementText pidName (asciiText (decimalInt pid))) = 60 :: rest := by
      rw [utf8_append]
      exact ⟨_, rfl⟩
    rw [hrest] at hback
    obtain ⟨text, close, rfl, htext, hclose⟩ := utf8_split (by decide) hback
    rw [← hrest] at hclose
    rw [utf8_injective hclose]
    exact ⟨text, htext, rfl⟩
  · rintro ⟨text, rfl, rfl⟩
    rw [utf8_append, utf8_append]

/-- No line ends behind the filter. -/
theorem behindFilter_plain (pid : UInt32) :
    carriageReturn ∉ '<' :: behindFilter (asciiText (decimalInt pid)) := by
  have hnumber : carriageReturn ∉ elementText pidName (asciiText (decimalInt pid)) :=
    not_mem_elementText printable_pid.plain (isNumeral_decimalInt pid)
  have hback := soapAction_list.end_plain
  rw [behindFilter, ← List.cons_append, List.mem_append, not_or, List.mem_append, not_or]
  exact ⟨(printable_end printable_filter).tagText.plain, hnumber, hback⟩

/-- The elements that are open in the filter. -/
def filterFrames : List XmlFrame :=
  ⟨filterName, [], [], []⟩ :: actionFrames listAction applicationService [] []

/-- The envelope is read up to the filter. -/
theorem readXml_list (text : List Char) (pid : UInt32) :
    readXml (xmlDeclaration ++ soapBegin listAction listService ++ (tagText filterName ++ (text ++
        (tagText ('/' :: filterName) ++ elementText pidName (asciiText (decimalInt pid)))) ++
          soapEnd listAction)) =
      (XmlReader.run ⟨.text 0, filterFrames, none⟩
        (normalizeLineEnds text ++ '<' :: behindFilter (asciiText (decimalInt pid)))).bind
          XmlReader.finish := by
  have hinner : tagText filterName ++ (text ++ (tagText ('/' :: filterName) ++
      elementText pidName (asciiText (decimalInt pid)))) ++ soapEnd listAction =
        tagText filterName ++ (text ++ '<' :: behindFilter (asciiText (decimalInt pid))) := by
    simp only [behindFilter, tagText, List.append_assoc, List.cons_append]
  have hslot : normalizeLineEnds (text ++ '<' :: behindFilter (asciiText (decimalInt pid))) =
      normalizeLineEnds text ++ '<' :: behindFilter (asciiText (decimalInt pid)) :=
    normalizeFrom_append text (behindFilter_plain pid) (by simp [lineFeed]) false
  rw [hinner, readXml_soap soapAction_list, normalizeLineEnds_append printable_filter.tagText.plain,
    hslot,
    XmlReader.run_append, actionFrames, run_opens _ _ _ _ isElementName_filter.1,
    Option.bind_some]
  rfl

/-! ## What fills the slot -/

/-- No section of character data ends behind the filter. -/
theorem quietFrom_behindFilter (pid : UInt32) :
    quietFrom '<' (behindFilter (asciiText (decimalInt pid))) = true := by
  have hnumber : '>' ∉ asciiText (decimalInt pid) :=
    not_mem_numeral (isNumeral_decimalInt pid) (.inr (by decide))
  have hsplit : behindFilter (asciiText (decimalInt pid)) =
      ('/' :: filterName ++ ['>'] ++ tagText pidName) ++ (asciiText (decimalInt pid) ++
        ('<' :: ('/' :: pidName ++ ['>'] ++ soapEnd listAction))) := by
    simp only [behindFilter, elementText, tagText, List.append_assoc, List.cons_append]
  rw [hsplit, quietFrom_append _ ('/' :: filterName ++ ['>'] ++ tagText pidName),
    quiet_filterEnd, quietFrom_append, quietFrom_of_not_mem hnumber, quietFrom,
    quiet_listEnd]
  rfl

/-- What is behind the filter brings the number. -/
theorem weight_run_behindFilter (pid : UInt32) (r r' : XmlReader) (hbegin : r.mode.IsText)
    (hrun : r.run ('<' :: behindFilter (asciiText (decimalInt pid))) = some r') :
    r'.weight ≤ r.weight + (decimalInt pid).length := by
  have hsplit : '<' :: behindFilter (asciiText (decimalInt pid)) =
      tagText ('/' :: filterName) ++
        (elementText pidName (asciiText (decimalInt pid)) ++ soapEnd listAction) := rfl
  rw [hsplit, XmlReader.run_append] at hrun
  obtain ⟨s, hs, hrun⟩ := Option.bind_eq_some_iff.mp hrun
  rw [XmlReader.run_append] at hrun
  obtain ⟨t, ht, hrun⟩ := Option.bind_eq_some_iff.mp hrun
  obtain ⟨htext, hweight⟩ := XmlReader.weight_run_tag hbegin isElementName_filter.2 hs
  obtain ⟨htext, hnumber⟩ := XmlReader.weight_run_element htext isElementName_pid
    (isTextChar_numeral (isNumeral_decimalInt pid)) ht
  have hlength : (asciiText (decimalInt pid)).length = (decimalInt pid).length :=
    List.length_map _
  have hend := weight_run_soapEnd soapAction_list htext hrun
  omega

/-- **What is read back is plain text.** -/
theorem plain_of_carries {text : List Char} {pid : UInt32} {root : XmlElement}
    (hread : readXml (xmlDeclaration ++ soapBegin listAction listService ++ (tagText filterName ++
      (text ++ (tagText ('/' :: filterName) ++
        elementText pidName (asciiText (decimalInt pid)))) ++ soapEnd listAction)) = some root)
    (hcarries : Carries root listAction
      [(filterName, utf8 text), (pidName, decimal pid.toNat)]) :
    (∀ c ∈ normalizeLineEnds text, isTextChar c = true) ∧
      ¬ cdataEnd <:+: normalizeLineEnds text := by
  have hfair := fair_of_readXml hread
  rw [readXml_list] at hread
  obtain ⟨r, hrun, hfinish⟩ := Option.bind_eq_some_iff.mp hread
  obtain ⟨children, hchildren, hle⟩ := textLengths_le_of_carries hfair hcarries
  have htexts : children.map (fun e => e.text) = [text, asciiText (decimal pid.toNat)] := by
    have hbytes := congrArg (List.map Prod.snd) hchildren
    rw [List.map_map] at hbytes
    apply List.map_injective_iff.mpr fun _ _ => utf8_injective
    rw [List.map_map, List.map_cons, List.map_singleton, utf8_numeral (isNumeral_decimal _)]
    exact hbytes
  have hsum : textLengths children = text.length + (decimal pid.toNat).length := by
    have hlengths := congrArg (fun texts => (texts.map List.length).sum) htexts
    simpa [textLengths, asciiText, Function.comp_def] using hlengths
  have hnormal : (normalizeLineEnds text).length ≤ text.length :=
    length_normalizeFrom_le false text
  have hnumber := length_decimalInt_le_succ pid
  have hbegin : XmlReader.weight ⟨.text 0, filterFrames, none⟩ = 0 := rfl
  have hlong : XmlReader.weight ⟨.text 0, filterFrames, none⟩ + (normalizeLineEnds text).length +
      (decimalInt pid).length < root.text.length + 2 := by
    omega
  exact plain_of_finish (quietFrom_behindFilter pid) (weight_run_behindFilter pid) hrun hfinish
    hlong

/-- A slot of plain text is read to the end. -/
theorem run_filter {text : List Char} (pid : UInt32) (htext : ∀ c ∈ text, isTextChar c = true)
    (hend : ¬ cdataEnd <:+: text) :
    XmlReader.run ⟨.text 0, filterFrames, none⟩
        (text ++ '<' :: behindFilter (asciiText (decimalInt pid))) =
      some ⟨.text 0, [], some (soapDocument listAction applicationService
        (text ++ asciiText (decimalInt pid)) [.mk filterName [] text [],
          .mk pidName [] (asciiText (decimalInt pid)) []])⟩ := by
  have hnumber := isNumeral_decimalInt pid
  have hrun := run_arguments soapAction_list isElementName_filter isElementName_pid htext
    hend (isTextChar_numeral hnumber) (not_cdataEnd_numeral hnumber)
  rw [elementText, List.append_assoc, List.append_assoc, XmlReader.run_append, actionFrames,
    run_opens _ _ _ _ isElementName_filter.1, Option.bind_some] at hrun
  exact hrun

/-- **What is asked for reads back** exactly if it is plain text, and the number an `int`. -/
theorem pastedReadsBack_list_iff (filter : List UInt8) (pid : UInt32) :
    PastedReadsBack listAction listService (listArgs filter pid)
        [(filterName, filter), (pidName, decimal pid.toNat)] ↔
      PlainText filter ∧ pid.toNat < 2 ^ 31 := by
  constructor
  · rintro ⟨inner, root, hinner, hread, hcarries⟩
    obtain ⟨text, rfl, rfl⟩ := utf8_eq_listArgs_iff.mp hinner
    obtain ⟨hplain, hend⟩ := plain_of_carries hread hcarries
    rw [readXml_list, run_filter pid hplain hend] at hread
    cases hread
    rw [carries_soapDocument] at hcarries
    have htexts := congrArg (List.map Prod.snd) hcarries
    obtain ⟨hfilter, hpid⟩ : utf8 (normalizeLineEnds text) = utf8 text ∧
        utf8 (asciiText (decimalInt pid)) = decimal pid.toNat := by
      simpa [XmlElement.text] using htexts
    have htext : normalizeLineEnds text = text := utf8_injective hfilter
    rw [htext] at hplain hend
    rw [utf8_numeral (isNumeral_decimalInt pid), decimalInt_eq_decimal_iff] at hpid
    refine ⟨⟨text, rfl, ?_, hend, fun c hc => isTextChar_iff.mp (hplain c hc)⟩, hpid⟩
    rw [← htext]
    exact not_mem_normalizeFrom false text
  · rintro ⟨⟨text, rfl, hreturn, hend, hplain⟩, hpid⟩
    have htext : normalizeLineEnds text = text := normalizeFrom_of_not_mem hreturn
    have hchars : ∀ c ∈ text, isTextChar c = true := fun c hc => isTextChar_iff.mpr (hplain c hc)
    refine ⟨_, soapDocument listAction applicationService (text ++ asciiText (decimalInt pid))
      [.mk filterName [] text [], .mk pidName [] (asciiText (decimalInt pid)) []],
      utf8_eq_listArgs_iff.mpr ⟨text, rfl, rfl⟩, ?_, ?_⟩
    · rw [readXml_list, htext, run_filter pid hchars hend]
      rfl
    · rw [carries_soapDocument, List.map_cons, List.map_singleton]
      have hnumber : utf8 (asciiText (decimalInt pid)) = decimal pid.toNat := by
        rw [utf8_numeral (isNumeral_decimalInt pid), (decimalInt_eq_decimal_iff pid).mpr hpid]
      show [(filterName, utf8 text), (pidName, utf8 (asciiText (decimalInt pid)))] = _
      rw [hnumber]

/-- **When a filter and a profile id are read back.** -/
theorem list_readsBack_iff (server : RemoteServer) (pid : UInt32) (filter : List UInt8) :
    ReadsBack (applicationListRequest server pid filter) listAction
        [(filterName, filter), (pidName, decimal pid.toNat)] ↔
      (∃ path, (server.sinfo serviceTypeApp).curl = some path) ∧ PlainText filter ∧
        filter.length + (decimalInt pid).length < 40 ∧ pid.toNat < 2 ^ 31 := by
  have hfits : (listArgs filter pid).length < 100 ↔
      filter.length + (decimalInt pid).length < 40 := by
    rw [length_listArgs]
    omega
  have hbody : ReadsBack (applicationListRequest server pid filter) listAction
      [(filterName, filter), (pidName, decimal pid.toNat)] ↔ _ :=
    readsBack_iff soapAction_list (by decide) 100
  rw [hbody, hfits, pastedReadsBack_list_iff]
  constructor
  · rintro ⟨hshort, hpath, hplain, hpid⟩
    exact ⟨hpath, hplain, hshort, hpid⟩
  · rintro ⟨hpath, hplain, hshort, hpid⟩
    exact ⟨hshort, hpath, hplain, hpid⟩

/-! ## The client profile -/

def profileAction : List Char := "SetClientProfile".toList

def profileService : List Char := "TmClientProfile:1".toList

/-- The action of a client profile. -/
theorem soapAction_profile :
    SoapAction serviceTypeClp (ascii "SetClientProfile") profileAction profileService
      profileAttributes := soapAction_setClientProfile

def profileName : List Char := "ClientProfile".toList

/-- The XML declaration in the profile, as a tag. -/
def profileDeclaration : List Char := '?' :: "xml version=\"1.0\" encoding=\"UTF-8\"?".toList

/-- The name of the profile is printable. -/
theorem printable_profile : IsPrintable profileName := by
  decide

/-- So is the declaration in it. -/
theorem printable_profileDeclaration : IsPrintable profileDeclaration := by
  unfold profileDeclaration
  repeat rewrite [String.toList_ofList]
  decide

/-- The tag of the profile, as it is formatted. -/
theorem utf8_profileTag : utf8 (tagText profileName) = ascii "<ClientProfile>" := by
  apply utf8_eq_ascii _ printable_profile.tagText
  unfold profileName
  repeat rewrite [String.toList_ofList]
  rfl

/-- The declaration, as it is formatted. -/
theorem utf8_profileDeclaration : utf8 (tagText profileDeclaration) =
    ascii "<?xml version=\"1.0\" encoding=\"UTF-8\"?>" := by
  apply utf8_eq_ascii _ printable_profileDeclaration.tagText
  unfold profileDeclaration
  repeat rewrite [String.toList_ofList]
  rfl

/-- The name of the profile opens an element. -/
theorem isTag_profile : IsTag profileName (.opens profileName [] false) := by
  decide

/-- The declaration ends with its own bracket. -/
theorem notMem_profileDeclaration :
    '>' ∉ "xml version=\"1.0\" encoding=\"UTF-8\"?".toList := by
  repeat rewrite [String.toList_ofList]
  decide

/-- But it does not stand at the beginning of the document. -/
theorem malformed_profileDeclaration : markupOf profileDeclaration = .malformed := by
  unfold profileDeclaration
  repeat rewrite [String.toList_ofList]
  decide

/-- The profile begins with its tag and the declaration. -/
theorem profile_begins :
    utf8 (tagText profileName ++ tagText profileDeclaration) <+: clientProfile := by
  rw [utf8_append, utf8_profileTag, utf8_profileDeclaration, clientProfile,
    List.flatMap_cons, List.flatMap_cons, ← List.append_assoc]
  exact List.prefix_append _ _

/-- The declaration is refused in a document. -/
theorem run_profileDeclaration (brackets : ℕ) (frames : List XmlFrame)
    (root : Option XmlElement) :
    XmlReader.run ⟨.text brackets, frames, root⟩ (tagText profileDeclaration) = none :=
  run_malformed brackets frames root (.inr rfl)
    (fun c hc => printable_profileDeclaration.legal c (List.mem_cons_of_mem _ hc))
    notMem_profileDeclaration malformed_profileDeclaration

/-- No arguments are read back from a profile. -/
theorem not_pastedReadsBack_profile (pid : UInt32) (arguments : List (List Char × List UInt8)) :
    ¬ PastedReadsBack profileAction profileService (profileId pid ++ clientProfile) arguments := by
  rintro ⟨inner, root, hinner, hread, -⟩
  have hnumber := isNumeral_decimalInt pid
  have hpid : profileId pid = utf8 (elementText pidName (asciiText (decimalInt pid))) := by
    rw [elementText, utf8_append, utf8_append, utf8_numeral hnumber,
      utf8_pidTag, utf8_pidEnd, profileId]
  obtain ⟨rest, hrest⟩ := profile_begins
  rw [hpid, ← hrest, ← List.append_assoc, ← utf8_append] at hinner
  obtain ⟨back, rfl, -⟩ := utf8_prefix hinner
  have hplain : carriageReturn ∉ elementText pidName (asciiText (decimalInt pid)) ++
      (tagText profileName ++ tagText profileDeclaration) := by
    rw [List.mem_append, not_or]
    exact ⟨not_mem_elementText printable_pid.plain hnumber,
      (printable_profile.tagText.append printable_profileDeclaration.tagText).plain⟩
  have hrun : XmlReader.run ⟨.text 0, actionFrames profileAction profileAttributes [] [], none⟩
      (elementText pidName (asciiText (decimalInt pid)) ++
        (tagText profileName ++ tagText profileDeclaration)) = none := by
    rw [XmlReader.run_append, actionFrames, run_element 0 _ _ none isElementName_pid
      (isTextChar_numeral hnumber) (not_cdataEnd_numeral hnumber), Option.bind_some,
      XmlReader.run_append, run_opens _ _ _ _ isTag_profile, Option.bind_some,
      run_profileDeclaration]
  rw [readXml_soap soapAction_profile, List.append_assoc, normalizeLineEnds_append hplain,
    XmlReader.run_append, hrun, Option.bind_none, Option.bind_none] at hread
  cases hread

/-- **A client profile is never read back.** -/
theorem not_profile_readsBack (server : RemoteServer) (pid : UInt32)
    (arguments : List (List Char × List UInt8)) :
    ¬ ReadsBack (clientProfileRequest server pid) profileAction arguments := by
  rintro ⟨rq, body, text, root, hrq, hbody, htext, hread, hcarries⟩
  obtain ⟨buf, hbuf, hrq⟩ := bind_eq_ok.mp hrq
  rw [sprintfInto] at hbuf
  split_ifs at hbuf
  cases hbuf
  dsimp only at hrq
  rw [getD_strAppend, getD_strAppend] at hrq
  have hrqBody := (actionRequest_ok (by decide) hrq).2
  rw [hrqBody] at hbody
  cases hbody
  refine not_pastedReadsBack_profile pid arguments ?_
  exact (pastedReadsBack_iff soapAction_profile).mpr ⟨text, root, htext, hread, hcarries⟩

/-! ## Both requests -/

/-- **What is asked for is read back** if the filter is plain text, everything fits and the
profile id is not negative when it is formatted; a client profile never is. -/
theorem soap_arguments_iff (server : RemoteServer) (pid : UInt32) (filter : List UInt8)
    (arguments : List (List Char × List UInt8)) :
    (ReadsBack (applicationListRequest server pid filter) "GetApplicationList".toList
        [("AppListingFilter".toList, filter), ("ProfileID".toList, decimal pid.toNat)] ↔
      (∃ path, (server.sinfo serviceTypeApp).curl = some path) ∧ PlainText filter ∧
        filter.length + (decimalInt pid).length < 40 ∧ pid.toNat < 2 ^ 31) ∧
    ¬ ReadsBack (clientProfileRequest server pid) "SetClientProfile".toList arguments :=
  ⟨list_readsBack_iff server pid filter, not_profile_readsBack server pid arguments⟩

/-- A server with the path of its services. -/
def soapServer : RemoteServer :=
  { RemoteServer.zero (ascii "192.168.42.129") 8080 with
    sinfo := fun _ => ⟨none, some (ascii "/c"), none⟩ }

/-- A filter with an ampersand in it, and any client profile. -/
theorem soap_arguments_fails :
    ¬ ReadsBack (applicationListRequest soapServer 1 (ascii "a&b")) "GetApplicationList".toList
        [("AppListingFilter".toList, ascii "a&b"), ("ProfileID".toList, decimal 1)] ∧
      ∀ arguments, ¬ ReadsBack (clientProfileRequest soapServer 1) "SetClientProfile".toList
        arguments := by
  refine ⟨?_, not_profile_readsBack soapServer 1⟩
  intro h
  obtain ⟨-, ⟨text, htext, -, -, hplain⟩, -⟩ :=
    (list_readsBack_iff soapServer 1 (ascii "a&b")).mp h
  have hamp : utf8 "a&b".toList = ascii "a&b" := by decide
  rw [← hamp] at htext
  rw [utf8_injective htext] at hplain
  exact (hplain '&' (by decide)).2.2 rfl

end MirrorLink.Analysis
