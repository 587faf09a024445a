import MirrorLink.Analysis.Launch

/-!
# The address of a session

One `sscanf` fills both fields of the server, from the left.  It sets them together when the
text is the address of a session whose port is in range, and it leaves both alone when there is
no host.  When there is a host and no port, `vnc_ip` has been written already: then nothing has
changed only if it was that host before (`launch_reply_iff`).
-/

set_option autoImplicit false

namespace MirrorLink.Analysis

open MirrorLink.Library MirrorLink.Program

/-! ## Texts of addresses -/

/-- The text names a host; `rest` is what follows it. -/
structure NamesHost (uri ip rest : List UInt8) : Prop where
  eq : uri = ascii "VNC://" ++ (ip ++ rest)
  ne_nil : ip ≠ []
  no_colon : 58 ∉ ip
  ends : rest.head? = none ∨ rest.head? = some 58

/-- No port can be read there. -/
def Portless (rest : List UInt8) : Prop := ∀ text, rest = 58 :: text → ¬ HasNumber text

variable {uri ip rest : List UInt8}

/-- The host that an address names is what is read of it. -/
theorem NamesHost.takeWhile_eq (h : NamesHost uri ip rest) :
    (uri.drop 6).takeWhile (· ≠ 58) = ip := by
  have hlength : (ascii "VNC://").length = 6 := rfl
  have hkeep : ∀ b ∈ ip, decide (b ≠ 58) = true :=
    fun b hb => decide_eq_true fun h58 => h.no_colon (h58 ▸ hb)
  rw [h.eq, List.drop_left' hlength, List.takeWhile_append_of_pos hkeep]
  rcases h.ends with hend | hend
  · rw [List.head?_eq_none_iff.mp hend]
    simp
  · obtain ⟨text, rfl⟩ := List.head?_eq_some_iff.mp hend
    simp

/-- The host and what follows it are found, and the port is read behind the colon. -/
theorem NamesHost.scanVncUri_eq (h : NamesHost uri ip rest) :
    scanVncUri uri = (some ip, scanShort rest.tail) := by
  have hbegin : ascii "VNC://" <+: uri := ⟨ip ++ rest, h.eq.symm⟩
  have hlength : (ascii "VNC://" ++ ip).length = 6 + ip.length := by
    rw [List.length_append]
    rfl
  have hrest : uri.drop (6 + ip.length) = rest := by
    rw [h.eq, ← List.append_assoc]
    exact List.drop_left' hlength
  unfold scanVncUri
  rw [if_pos hbegin]
  simp only [h.takeWhile_eq, if_neg h.ne_nil, hrest]
  rcases h.ends with hend | hend
  · rw [List.head?_eq_none_iff.mp hend]
    rfl
  · obtain ⟨text, rfl⟩ := List.head?_eq_some_iff.mp hend
    rfl

/-- A host that is read is named. -/
theorem exists_namesHost (h : (scanVncUri uri).1 = some ip) : ∃ rest, NamesHost uri ip rest := by
  obtain ⟨⟨after, rfl⟩, hne, hip⟩ := scanVncUri_fst_iff.mp h
  have hlength : (ascii "VNC://").length = 6 := rfl
  rw [List.drop_left' hlength] at hip
  have hsplit := List.takeWhile_append_dropWhile (p := fun b => decide (b ≠ 58)) (l := after)
  refine ⟨after.dropWhile (· ≠ 58), ?_, hne, ?_, ?_⟩
  · rw [← hip, hsplit]
  · intro hcolon
    rw [← hip] at hcolon
    exact absurd (List.mem_takeWhile_imp hcolon) (by decide)
  · generalize hafter : after.dropWhile (fun b => decide (b ≠ 58)) = rest
    cases rest with
    | nil => exact .inl rfl
    | cons b rest =>
      have hstop := List.head?_dropWhile_not (fun b => decide (b ≠ 58)) after
      rw [hafter] at hstop
      simpa using hstop

/-- Without a port `sscanf` reads the host only. -/
theorem portless_iff (h : NamesHost uri ip rest) :
    Portless rest ↔ scanShort rest.tail = none := by
  rw [scanShort_eq_none_iff]
  constructor
  · rintro hport
    rcases h.ends with hend | hend
    · rw [List.head?_eq_none_iff.mp hend, ← scanShort_eq_none_iff]
      rfl
    · obtain ⟨text, rfl⟩ := List.head?_eq_some_iff.mp hend
      exact hport text rfl
  · rintro hnumber text rfl
    exact hnumber

/-! ## The reply -/

/-- Both fields are set from the address and success is returned, or both are as they were and
it is not. -/
def AllOrNothing (parse : Option (List UInt8) → Option Element) (server : RemoteServer)
    (content : Option (List UInt8)) (uri : List UInt8) : Prop :=
  ∃ code server', launchApplicationParse parse server content = .ok (code, server') ∧
    ((code = 0 ∧ server'.vncPort ≠ 0 ∧ IsVncUri uri server'.vncIp server'.vncPort) ∨
      (code ≠ 0 ∧ server'.vncIp = server.vncIp ∧ server'.vncPort = server.vncPort))

/-- The text is an address that fits, whose port is in range; or it names no host; or the host
is the one that is stored already, and no port can be read behind it. -/
def SettlesUri (server : RemoteServer) (uri : List UInt8) : Prop :=
  (∃ ip port, IsVncUri uri ip port ∧ port ≠ 0 ∧ ip.length < 32) ∨
    (∀ ip rest, ¬ NamesHost uri ip rest) ∨
      ∃ rest, NamesHost uri server.vncIp rest ∧ server.vncIp.length < 32 ∧ Portless rest

variable {parse : Option (List UInt8) → Option Element} {server : RemoteServer}
  {content : Option (List UInt8)} {e : Element}

/-- The handler on a text that names no host. -/
theorem launchApplicationParse_hostless (hat : elementAt appUriPath (parse content) = some e)
    (h : ∀ ip rest, ¬ NamesHost e.content ip rest) :
    launchApplicationParse parse server content = .ok (1, server) := by
  have hip : (scanVncUri e.content).1 = none := by
    by_contra hsome
    obtain ⟨ip, hip⟩ := Option.ne_none_iff_exists'.mp hsome
    obtain ⟨rest, hhost⟩ := exists_namesHost hip
    exact h ip rest hhost
  rw [launchApplicationParse_eq server hat, hip, scanVncUri_snd_none hip]
  rfl

/-- The handler on a text that names a host: it is stored first, and then the port. -/
theorem launchApplicationParse_host (hat : elementAt appUriPath (parse content) = some e)
    (h : NamesHost e.content ip rest) (hlt : ip.length < 32) :
    launchApplicationParse parse server content =
      (scanShort rest.tail).elim (.ok (1, { server with vncIp := ip }))
        fun port => .ok (0, { server with vncIp := ip, vncPort := port }) := by
  rw [launchApplicationParse_eq server hat, h.scanVncUri_eq, storeVncIp_eq server ip hlt]
  rfl

/-- A host that is too long is no success and no failure. -/
theorem launchApplicationParse_host_ok {r : UInt8 × RemoteServer}
    (hat : elementAt appUriPath (parse content) = some e) (h : NamesHost e.content ip rest)
    (hrun : launchApplicationParse parse server content = .ok r) : ip.length < 32 := by
  rw [launchApplicationParse_eq server hat, h.scanVncUri_eq] at hrun
  obtain ⟨stored, hstore, -⟩ := bind_eq_ok.mp hrun
  obtain ⟨text, hsprintf, -⟩ := bind_eq_ok.mp hstore
  unfold sprintfInto at hsprintf
  split_ifs at hsprintf with hlt
  exact hlt

/-- **The reply to a launch** changes both fields or none exactly if its text settles them. -/
theorem launch_reply_iff (hat : elementAt appUriPath (parse content) = some e) :
    AllOrNothing parse server content e.content ↔ SettlesUri server e.content := by
  constructor
  · rintro ⟨code, server', hrun, h⟩
    by_cases hhost : ∀ ip rest, ¬ NamesHost e.content ip rest
    · exact .inr (.inl hhost)
    · obtain ⟨ip, rest, hhost⟩ : ∃ ip rest, NamesHost e.content ip rest := by
        simpa only [not_forall, not_not] using hhost
      have hlt := launchApplicationParse_host_ok hat hhost hrun
      rw [launchApplicationParse_host hat hhost hlt] at hrun
      cases hport : scanShort rest.tail with
      | none =>
        rw [hport] at hrun
        cases hrun
        rcases h with ⟨hcode, -⟩ | ⟨-, hsame, -⟩
        · cases hcode
        · refine .inr (.inr ⟨rest, ?_, ?_, (portless_iff hhost).mpr hport⟩)
          · rw [← hsame]
            exact hhost
          · rw [← hsame]
            exact hlt
      | some port =>
        rw [hport] at hrun
        cases hrun
        rcases h with ⟨-, hzero, huri⟩ | ⟨hcode, -⟩
        · exact .inl ⟨ip, port, huri, hzero, hlt⟩
        · exact absurd rfl hcode
  · rintro (⟨ip, port, huri, hzero, hlt⟩ | hhost | ⟨rest, hhost, hlt, hport⟩)
    · refine ⟨0, { server with vncIp := ip, vncPort := port }, ?_, .inl ⟨rfl, hzero, huri⟩⟩
      rw [launchApplicationParse_eq server hat, scanVncUri_of_isVncUri huri,
        storeVncIp_eq server ip hlt]
      rfl
    · exact ⟨1, server, launchApplicationParse_hostless hat hhost, .inr ⟨by decide, rfl, rfl⟩⟩
    · refine ⟨1, server, ?_, .inr ⟨by decide, rfl, rfl⟩⟩
      rw [launchApplicationParse_host hat hhost hlt, (portless_iff hhost).mp hport]
      rfl

/-- A response with an address. -/
def launchResponse (uri : List UInt8) : Element :=
  .mk (ascii "Envelope") [] [.mk (ascii "Body") []
    [.mk (ascii "LaunchApplicationResponse") [] [.mk (ascii "AppURI") uri []]]]

/-- An address with its port is stored whole. -/
theorem launch_reply_of_address :
    AllOrNothing (fun _ => some (launchResponse (ascii "VNC://10.0.0.5:5901"))) launchedServer
      none (ascii "VNC://10.0.0.5:5901") :=
  (launch_reply_iff (e := .mk (ascii "AppURI") (ascii "VNC://10.0.0.5:5901") []) rfl).mpr
    (.inl ⟨ascii "10.0.0.5", 5901, ⟨ascii "5901", by decide +kernel⟩, by decide, by decide⟩)

/-- An address without a port. -/
theorem launch_reply_fails :
    ¬ ∀ (parse : Option (List UInt8) → Option Element) (server : RemoteServer)
      (content : Option (List UInt8)) (e : Element),
      elementAt appUriPath (parse content) = some e →
        AllOrNothing parse server content e.content := by
  intro h
  obtain ⟨code, server', hrun, hall⟩ :=
    h (fun _ => some (launchResponse (ascii "VNC://10.0.0.5"))) launchedServer none _ rfl
  have hparse : launchApplicationParse (fun _ => some (launchResponse (ascii "VNC://10.0.0.5")))
      launchedServer none = .ok (1, { launchedServer with vncIp := ascii "10.0.0.5" }) := rfl
  rw [hparse] at hrun
  cases hrun
  rcases hall with ⟨hcode, -⟩ | ⟨-, hsame, -⟩
  · cases hcode
  · exact absurd hsame (by decide +kernel)

end MirrorLink.Analysis
