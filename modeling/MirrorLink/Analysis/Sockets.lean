import MirrorLink.Analysis.Termination
import MirrorLink.Analysis.Uninitialised
import MirrorLink.Program.Descriptors

/-!
# Descriptors are closed or held

A description, an action and the request of a launch close what they open.  A session that
ends and a search socket that cannot be bound leave theirs open (`sockets_settle_iff`).
-/

set_option autoImplicit false

namespace MirrorLink.Analysis

open MirrorLink.Library MirrorLink.Program Effectful

/-! ## What closes its own -/

/-- If it returns, it has closed what it has opened, and has changed nothing else. -/
def ClosesOwn {α : Type} (x : Descriptors (Option α)) : Prop :=
  ∀ p, (x.run p).val.isSome = true →
    (x.run p).state = p ∧ Settles p.held (x.run p).effects p.held

/-- Returning opens nothing. -/
theorem closesOwn_pure {α : Type} (a : Option α) : ClosesOwn (pure a : Descriptors (Option α)) := by
  intro p _
  exact ⟨rfl, Settles.nil p.held⟩

/-- What is made of a value opens nothing. -/
theorem ClosesOwn.bind {α β : Type} {x : Descriptors (Option α)}
    {f : Option α → Descriptors (Option β)} (hx : ClosesOwn x) (hnone : f none = pure none)
    (hsome : ∀ a, ∃ b, f (some a) = pure b) : ClosesOwn (x >>= f) := by
  intro p hval
  rw [run_bind] at hval ⊢
  cases ha : (x.run p).val with
  | none =>
    rw [ha, hnone] at hval
    cases hval
  | some a =>
    obtain ⟨b, hb⟩ := hsome a
    obtain ⟨hstate, hsettles⟩ := hx p (by rw [ha]; rfl)
    rw [hb]
    refine ⟨hstate, ?_⟩
    rw [run_pure, List.append_nil]
    exact hsettles

/-- `conn_open` closes its descriptor or returns it. -/
theorem connOpen_cases (o : ConnOpening) (p : Process) :
    ((∀ fd, o.socket = some fd → o.connects = false) ∧
        ∃ entries, (connOpen o).run p = ⟨-1, p, entries⟩ ∧ ∀ held, Settles held entries held) ∨
      ∃ fd : ℕ, o.socket = some fd ∧ o.connects = true ∧
        (connOpen o).run p = ⟨fd, p, [.opened fd]⟩ := by
  cases hsocket : o.socket with
  | none =>
    refine .inl ⟨?_, [], ?_, Settles.nil⟩
    · intro fd h
      cases h
    · rw [connOpen, hsocket]
      rfl
  | some fd =>
    cases hconnects : o.connects with
    | true =>
      refine .inr ⟨fd, rfl, rfl, ?_⟩
      rw [connOpen, hsocket]
      simp only [hconnects, if_true]
      rfl
    | false =>
      refine .inl ⟨fun _ _ => rfl, [.opened fd, .closed fd], ?_, ?_⟩
      · rw [connOpen, hsocket]
        simp only [hconnects]
        rfl
      · intro held
        exact Settles.opened_closed held _

/-- What a call opens or closes. -/
def ledgerOf : SysCall × SysAnswer → List (Entry ℤ)
  | (.socket, .socket (some fd)) => [.opened fd]
  | (.close fd, _) => [.closed fd]
  | _ => []

/-- A call that tries opens and closes nothing. -/
theorem Tries.ledgerOf_nil {fd : ℤ} {w : OpenWaits} (htries : Tries fd w) (ip : List UInt8)
    (port : UInt16) (answer : SysAnswer) : ledgerOf (openCall ip port w, answer) = [] := by
  cases htries <;> rfl

/-- While `conn_open` waits, the socket it holds is all that has been opened; what it returns
is what `connOpen` returns, with the same entries. -/
def OpenLedger (h : History) : Point OpenWaits ℤ → Prop
  | .waiting w => h.flatMap ledgerOf = (heldFds w).map .opened ∧ ∀ fd ∈ heldFds w, 0 ≤ fd
  | .returned code => ∃ o, ∀ p, (connOpen o).run p = ⟨code, p, h.flatMap ledgerOf⟩

/-- Each answer keeps the account of what is open. -/
theorem openLedger_step (ip : List UInt8) (port : UInt16) (locals : Locals) (h : History)
    (w : OpenWaits) (answer : SysAnswer) (hallowed : (openCall ip port w).Allows answer)
    (hI : OpenLedger h (.waiting w)) :
    OpenLedger (h ++ [(openCall ip port w, answer)]) (openStep locals w answer) := by
  obtain ⟨hledger, hnonneg⟩ := hI
  rcases openStep_cases locals hallowed with ⟨rfl, rfl, hstep⟩ | ⟨fd, rfl, rfl, hfd, hstep⟩ |
    ⟨fd, rfl, hstep⟩ | ⟨fd, htries, -, hstep⟩ | ⟨fd, htries, w', hstep, hheld, -⟩ <;>
    rw [hstep]
  · refine ⟨⟨none, .failed, .failed, none⟩, fun p => ?_⟩
    rw [History.flatMap_snoc, hledger]
    rfl
  · constructor
    · rw [History.flatMap_snoc, hledger]
      rfl
    · intro fd' hfd'
      rwa [List.mem_singleton.mp hfd']
  · lift fd to ℕ using hnonneg fd (List.mem_singleton_self _)
    refine ⟨⟨some fd, .failed, .failed, none⟩, fun p => ?_⟩
    rw [History.flatMap_snoc, hledger]
    rfl
  · rw [htries.held] at hledger hnonneg
    lift fd to ℕ using hnonneg fd (List.mem_singleton_self _)
    refine ⟨⟨some fd, .connected, .failed, none⟩, fun p => ?_⟩
    rw [History.flatMap_snoc, hledger, htries.ledgerOf_nil, List.append_nil]
    rfl
  · rw [htries.held, ← hheld] at hledger hnonneg
    refine ⟨?_, hnonneg⟩
    rw [History.flatMap_snoc, hledger, htries.ledgerOf_nil, List.append_nil]

/-- **Every run of `conn_open`** comes to what `connOpen` comes to. -/
theorem connOpen_of_run {ip : List UInt8} {port : UInt16} {locals : Locals}
    {answers : List SysAnswer} {code : ℤ}
    (hallowed : AllAllowed (openCall ip port) (openStep locals) SysCall.Allows connOpenStart
      answers)
    (hcode : Library.goOn (openStep locals) connOpenStart answers = .returned code) :
    ∃ o, ∀ p, (connOpen o).run p = ⟨code, p,
      (exchanges (openCall ip port) (openStep locals) connOpenStart answers).flatMap ledgerOf⟩ := by
  have hI := goOn_invariant (openCall ip port) (openStep locals) SysCall.Allows OpenLedger
    (openLedger_step ip port locals) connOpenStart [] answers ⟨rfl, by simp [heldFds]⟩ hallowed
  rwa [hcode, List.nil_append] at hI

/-- **`http_client_send`** closes what it opens. -/
theorem closesOwn_httpClientSendOn (ip : List UInt8) (port : UInt16) (req : HttpReq)
    (net : Network) : ClosesOwn (httpClientSendOn ip port req net) := by
  intro p hval
  unfold httpClientSendOn at hval ⊢
  rcases connOpen_cases net.opening p with ⟨-, entries, hopen, hsettles⟩ | ⟨fd, -, -, hopen⟩
  · rw [run_bind_of hopen] at hval ⊢
    refine ⟨rfl, ?_⟩
    rw [Outcome.effects_after]
    exact (hsettles p.held).trans (Settles.nil p.held)
  · rw [run_bind_of hopen] at hval ⊢
    have hnonneg : ¬ ((fd : ℤ) < 0) := by omega
    rw [if_neg hnonneg] at hval ⊢
    cases hsend : httpClientSend ip port req (some net.calls) with
    | none =>
      rw [hsend] at hval
      cases hval
    | some e => exact ⟨rfl, Settles.opened_closed p.held _⟩

/-- What returns goes on, and closes its own. -/
theorem closesOwn_onReturn {α β : Type} (x : Except Fault α) {f : α → Descriptors (Option β)}
    (hf : ∀ a, ClosesOwn (f a)) : ClosesOwn (onReturn x f) := by
  cases x with
  | error fault => exact closesOwn_pure none
  | ok a => exact hf a

/-- Creating a server closes its connection. -/
theorem closesOwn_remoteServerCreateOn (parse : Option (List UInt8) → Option Element)
    (ip : List UInt8) (port : UInt16) (path : List UInt8) (net : Network) :
    ClosesOwn (remoteServerCreateOn parse ip port path net) :=
  (closesOwn_httpClientSendOn _ _ _ net).bind rfl fun _ => ⟨_, rfl⟩

/-- So does an action. -/
theorem closesOwn_invokeActionOn {σ : Type} (server : RemoteServer) (stype : Fin 3)
    (action args : List UInt8) (handler : Option (List UInt8) → Except Fault (UInt8 × σ)) (s : σ)
    (net : Network) : ClosesOwn (invokeActionOn server stype action args handler s net) := by
  apply closesOwn_onReturn
  intro rq
  apply closesOwn_onReturn
  intro ip
  exact (closesOwn_httpClientSendOn _ _ _ net).bind rfl fun _ => ⟨_, rfl⟩

/-- So does asking for the list. -/
theorem closesOwn_getApplicationListOn (parse : Option (List UInt8) → Option Element)
    (server : RemoteServer) (apps : AppHeap) (pid : UInt32) (filter : List UInt8)
    (net : Network) :
    ClosesOwn (remoteServerGetApplicationListOn parse server apps pid filter net) := by
  apply closesOwn_onReturn
  intro args
  exact closesOwn_invokeActionOn _ _ _ _ _ _ _

/-- So does a launch. -/
theorem closesOwn_launchApplicationOn (parse : Option (List UInt8) → Option Element)
    (server : RemoteServer) (appid pid : UInt32) (net : Network) :
    ClosesOwn (remoteServerLaunchApplicationOn parse server appid pid net) := by
  apply closesOwn_onReturn
  intro args
  exact closesOwn_invokeActionOn _ _ _ _ _ _ _

/-- So does setting a profile. -/
theorem closesOwn_setClientProfileOn (server : RemoteServer) (pid : UInt32) (net : Network) :
    ClosesOwn (remoteServerSetClientProfileOn server pid net) := by
  apply closesOwn_onReturn
  intro buf
  exact closesOwn_invokeActionOn _ _ _ _ _ _ _

/-! ## What an activity loses -/

/-- The activity ends no session, and binds the search socket it has opened. -/
def Keeps (parse : Option (List UInt8) → Option Element) (p : Process) : Activity → Prop
  | .launch server appid net vnc peer =>
    (∃ server', ((remoteServerLaunchApplicationOn parse server appid 0 net).run p).val =
      some (0, server')) →
      ∀ fd, vnc.socket = some fd → vnc.connects = true → FindsHandshake peer
  | .doworks i => ∀ fd c, p.sessions[i]? = some (fd, c) → ¬ StartsByeBye c.unread
  | .openSsdp o => ∀ fd, o.socket = some fd → o.setsockopt = true → o.bind = true
  | _ => True

/-- The process is left with what it had and opened and has not closed, or has lost one
descriptor of that. -/
def SettlesOrLoses (keeps : Prop) (held : List ℤ) (entries : List (Entry ℤ)) (held' : List ℤ) :
    Prop :=
  (keeps ∧ Settles held entries held') ∨ (¬ keeps ∧ ∃ fd, Settles held entries (held' ++ [fd]))

/-- A session that goes on keeps its descriptor. -/
theorem held_set {p : Process} {i : ℕ} {fd : ℤ} {c : Client} (hi : p.sessions[i]? = some (fd, c))
    (c' : Client) : Process.held { p with sessions := p.sessions.set i (fd, c') } = p.held := by
  obtain ⟨hlt, hget⟩ := List.getElem?_eq_some_iff.mp hi
  have hlt' : i < (p.sessions.map Prod.fst).length := by
    rwa [List.length_map]
  have hfst : (p.sessions.map Prod.fst)[i] = fd := by
    rw [List.getElem_map, hget]
  have hsame : (p.sessions.map Prod.fst).set i fd = p.sessions.map Prod.fst := by
    rw [← hfst]
    exact List.set_getElem_self hlt'
  unfold Process.held
  rw [List.map_set, hsame]

/-- A session that ends loses its descriptor. -/
theorem held_eraseIdx {p : Process} {i : ℕ} {fd : ℤ} {c : Client}
    (hi : p.sessions[i]? = some (fd, c)) :
    p.held.Perm (Process.held { p with sessions := p.sessions.eraseIdx i } ++ [fd]) := by
  obtain ⟨hlt, hget⟩ := List.getElem?_eq_some_iff.mp hi
  have hperm := (List.getElem_cons_eraseIdx_perm hlt).map Prod.fst
  rw [hget, List.map_cons] at hperm
  unfold Process.held
  rw [List.append_assoc]
  apply List.Perm.append_left
  exact hperm.symm.trans (List.perm_append_singleton fd _).symm

/-- A session works without opening anything. -/
theorem settlesOrLoses_doworks (parse : Option (List UInt8) → Option Element) (i : ℕ)
    (p : Process) :
    SettlesOrLoses (Keeps parse p (.doworks i)) p.held [] (sessionDoworks i p).held := by
  unfold sessionDoworks
  cases hi : p.sessions[i]? with
  | none =>
    refine .inl ⟨?_, Settles.nil p.held⟩
    intro fd c h
    rw [hi] at h
    cases h
  | some session =>
    obtain ⟨fd, c⟩ := session
    have hkeeps : Keeps parse p (.doworks i) ↔ ¬ StartsByeBye c.unread := by
      constructor
      · intro h
        exact h fd c hi
      · intro h fd' c' hi'
        rw [hi] at hi'
        cases hi'
        exact h
    have hval : (vncSessionDoworks.run c).val = true ↔ ¬ StartsByeBye c.unread := by
      rw [← reading_eq_byeBye_iff, ← val_doworks]
      simp
    by_cases hbye : StartsByeBye c.unread
    · refine .inr ⟨fun h => hkeeps.mp h hbye, fd, ?_⟩
      have hends : ¬ (vncSessionDoworks.run c).val = true := fun h => hval.mp h hbye
      simp only [if_neg hends]
      exact (Settles.nil p.held).of_perm (held_eraseIdx hi)
    · refine .inl ⟨hkeeps.mpr hbye, ?_⟩
      simp only [if_pos (hval.mpr hbye)]
      rw [held_set hi]
      exact Settles.nil p.held

/-- A session that is started keeps its connection, or loses it. -/
theorem settlesOrLoses_processAppLaunched (vnc : ConnOpening) (peer : Client) (p : Process) :
    SettlesOrLoses
      (∀ fd, vnc.socket = some fd → vnc.connects = true → FindsHandshake peer)
      p.held ((processAppLaunched vnc peer).run p).effects
      ((processAppLaunched vnc peer).run p).state.held := by
  unfold processAppLaunched
  rcases connOpen_cases vnc p with ⟨hnone, entries, hopen, hsettles⟩ | ⟨fd, hfd, hconnects, hopen⟩
  · rw [run_bind_of hopen]
    refine .inl ⟨?_, ?_⟩
    · intro fd hfd hconnects
      rw [hnone fd hfd] at hconnects
      cases hconnects
    · exact (hsettles p.held).trans (Settles.nil p.held)
  · rw [run_bind_of hopen]
    have hnonneg : (fd : ℤ) ≥ 0 := Int.natCast_nonneg fd
    rw [if_pos hnonneg]
    have hopened : Settles p.held [.opened (fd : ℤ)] (p.held ++ [(fd : ℤ)]) := Settles.opened _ _
    unfold vncSessionTask
    by_cases hfinds : FindsHandshake peer
    · refine .inl ⟨fun _ _ _ => hfinds, ?_⟩
      simp only [if_pos ((val_vncHandshake_iff peer).mpr hfinds)]
      apply hopened.of_perm
      show ((p.context.remoteClients ++ p.sessions.map Prod.fst) ++ [(fd : ℤ)]).Perm
        (p.context.remoteClients ++ (p.sessions ++ [((fd : ℤ), (vncHandshake.run peer).state)]).map
          Prod.fst)
      rw [List.map_append, List.append_assoc]
      exact List.Perm.refl _
    · refine .inr ⟨fun h => hfinds (h fd hfd hconnects), fd, ?_⟩
      simp only [if_neg fun h => hfinds ((val_vncHandshake_iff peer).mp h)]
      exact hopened

/-- So does a launch with the session it starts. -/
theorem settlesOrLoses_launch (parse : Option (List UInt8) → Option Element)
    (server : RemoteServer) (appid : UInt32) (net : Network) (vnc : ConnOpening) (peer : Client)
    (p : Process) (hrun : ((onLaunchOn parse server appid net vnc peer).run p).val = true) :
    SettlesOrLoses (Keeps parse p (.launch server appid net vnc peer)) p.held
      ((onLaunchOn parse server appid net vnc peer).run p).effects
      ((onLaunchOn parse server appid net vnc peer).run p).state.held := by
  have hown := closesOwn_launchApplicationOn parse server appid 0 net p
  cases hval : ((remoteServerLaunchApplicationOn parse server appid 0 net).run p).val with
  | none =>
    unfold onLaunchOn at hrun
    rw [val_bind, hval] at hrun
    cases hrun
  | some result =>
    obtain ⟨ret, server'⟩ := result
    obtain ⟨hstate, hsettles⟩ := hown (by rw [hval]; rfl)
    unfold onLaunchOn
    rw [effects_bind, state_bind, hval, hstate]
    by_cases hret : ret = 0
    · subst hret
      simp only [if_true]
      rw [effects_bind, state_bind, run_pure, List.append_nil]
      have hkeeps : Keeps parse p (.launch server appid net vnc peer) ↔ ∀ fd,
          vnc.socket = some fd → vnc.connects = true → FindsHandshake peer := by
        constructor
        · intro h
          exact h ⟨server', hval⟩
        · intro h _
          exact h
      rcases settlesOrLoses_processAppLaunched vnc peer p with ⟨hgoes, h⟩ | ⟨hends, fd, h⟩
      · exact .inl ⟨hkeeps.mpr hgoes, hsettles.trans h⟩
      · exact .inr ⟨fun hk => hends (hkeeps.mp hk), fd, hsettles.trans h⟩
    · simp only [if_neg hret]
      refine .inl ⟨?_, ?_⟩
      · rintro ⟨server'', hzero⟩
        rw [hval] at hzero
        cases hzero
        exact absurd rfl hret
      · exact hsettles.trans (Settles.nil p.held)

/-- A search keeps its socket, or loses it. -/
theorem settlesOrLoses_openSsdp (parse : Option (List UInt8) → Option Element) (o : SsdpOpening)
    (p : Process) (hrun : ((openSsdpOn o).run p).val = true) :
    SettlesOrLoses (Keeps parse p (.openSsdp o)) p.held ((openSsdpOn o).run p).effects
      ((openSsdpOn o).run p).state.held := by
  unfold openSsdpOn at hrun ⊢
  cases hsocket : o.socket with
  | none =>
    rw [hsocket] at hrun
    cases hrun
  | some fd =>
    rw [hsocket] at hrun
    have hopened : Settles p.held [.opened (fd : ℤ)] (p.held ++ [(fd : ℤ)]) := Settles.opened _ _
    simp only [val_bind, effects_bind, state_bind, run_emit] at hrun ⊢
    cases hopt : o.setsockopt with
    | false => simp [hopt] at hrun
    | true =>
      cases hbind : o.bind with
      | false =>
        refine .inr ⟨?_, fd, ?_⟩
        · intro hkeeps
          have hbound := hkeeps fd hsocket hopt
          rw [hbind] at hbound
          cases hbound
        · simpa using hopened
      | true =>
        cases hmulticast : o.setsockoptMulticast with
        | false => simp [hopt, hbind, hmulticast] at hrun
        | true =>
          refine .inl ⟨fun _ _ _ => hbind, ?_⟩
          apply hopened.of_perm
          show ((p.context.remoteClients ++ p.sessions.map Prod.fst) ++ [(fd : ℤ)]).Perm
            ((p.context.remoteClients ++ [(fd : ℤ)]) ++ p.sessions.map Prod.fst)
          rw [List.append_assoc, List.append_assoc]
          exact List.perm_append_comm.append_left _

/-- **`remove_client`** closes the socket of the client it removes. -/
theorem settles_removeClientOn (sockFd : ℤ) (p : Process) :
    Settles p.held ((removeClientOn sockFd).run p).effects
      ((removeClientOn sockFd).run p).state.held := by
  unfold removeClientOn
  rw [run_gets_bind]
  by_cases hmem : sockFd ∈ p.context.remoteClients
  · rw [if_pos hmem]
    have hclosed : Settles p.held [.closed sockFd] (p.held.erase sockFd) :=
      Settles.closed sockFd (List.mem_append_left _ hmem)
    have herase : p.held.erase sockFd =
        p.context.remoteClients.erase sockFd ++ p.sessions.map Prod.fst :=
      List.erase_append_left _ hmem
    rw [herase] at hclosed
    exact hclosed
  · rw [if_neg hmem]
    exact Settles.nil p.held

/-- **One activity** keeps account of all descriptors, or loses one. -/
theorem settlesOrLoses_activity (parse : Option (List UInt8) → Option Element) (a : Activity)
    (p : Process) (hrun : ((a.run parse).run p).val = true) :
    SettlesOrLoses (Keeps parse p a) p.held ((a.run parse).run p).effects
      ((a.run parse).run p).state.held := by
  have hown : ∀ {α : Type} {x : Descriptors (Option α)}, ClosesOwn x →
      (((do let r ← x; pure r.isSome) : Descriptors Bool).run p).val = true →
      Settles p.held (((do let r ← x; pure r.isSome) : Descriptors Bool).run p).effects
        (((do let r ← x; pure r.isSome) : Descriptors Bool).run p).state.held := by
    intro α x hx hval
    obtain ⟨hstate, hsettles⟩ := hx p hval
    rw [effects_bind, state_bind, run_pure, List.append_nil]
    rw [hstate]
    exact hsettles
  cases a with
  | create ip port path net =>
    exact .inl ⟨trivial, hown (closesOwn_remoteServerCreateOn parse ip port path net) hrun⟩
  | getApplicationList server apps pid filter net =>
    refine .inl ⟨trivial, ?_⟩
    exact hown (closesOwn_getApplicationListOn parse server apps pid filter net) hrun
  | setClientProfile server pid net =>
    exact .inl ⟨trivial, hown (closesOwn_setClientProfileOn server pid net) hrun⟩
  | launch server appid net vnc peer =>
    exact settlesOrLoses_launch parse server appid net vnc peer p hrun
  | doworks i => exact settlesOrLoses_doworks parse i p
  | openSsdp o => exact settlesOrLoses_openSsdp parse o p hrun
  | removeClient sockFd =>
    refine .inl ⟨trivial, ?_⟩
    have h := settles_removeClientOn sockFd p
    unfold Activity.run
    rw [effects_bind, state_bind, run_pure, List.append_nil]
    exact h

/-- Where the program does not get beyond an activity, no session has ended and no search
socket has been left. -/
theorem keeps_of_stopped (parse : Option (List UInt8) → Option Element) (a : Activity)
    (p : Process) (hrun : ((a.run parse).run p).val = false) : Keeps parse p a := by
  cases a with
  | create ip port path net => trivial
  | getApplicationList server apps pid filter net => trivial
  | setClientProfile server pid net => trivial
  | launch server appid net vnc peer =>
    rintro ⟨server', hval⟩
    have hgoes : ((onLaunchOn parse server appid net vnc peer).run p).val = true := by
      unfold onLaunchOn
      rw [val_bind, hval]
      rfl
    exact absurd hrun (by rw [Activity.run, hgoes]; decide)
  | doworks i => cases hrun
  | openSsdp o =>
    intro fd hsocket hopt
    by_contra hbind
    have hreturns : ((openSsdpOn o).run p).val = true := by
      unfold openSsdpOn
      rw [hsocket]
      simp [hopt, hbind]
    exact absurd hrun (by rw [Activity.run, hreturns]; decide)
  | removeClient sockFd => trivial

/-! ## Runs -/

variable (parse : Option (List UInt8) → Option Element)

/-- Where a run stands. -/
def runFrom (as : List Activity) : Outcome Process (Entry ℤ) Bool :=
  (runActivities parse as).run Process.init

/-- In every state a run reaches, each descriptor that has been opened is closed or held,
each once. -/
def SocketsSettle (as : List Activity) : Prop :=
  ∀ before after, as = before ++ after → (runFrom parse before).val = true →
    Settles [] (runFrom parse before).effects (runFrom parse before).state.held

/-- Activities run one after the other while they may. -/
theorem run_runActivities_append (as bs : List Activity) (p : Process) :
    (runActivities parse (as ++ bs)).run p =
      (do
        let running ← runActivities parse as
        if running then runActivities parse bs else pure false).run p := by
  induction as generalizing p with
  | nil =>
    rw [List.nil_append, runActivities, run_bind]
    simp
  | cons a as ih =>
    rw [List.cons_append, runActivities, runActivities, run_bind]
    cases hval : ((a.run parse).run p).val with
    | true =>
      simp only [if_true]
      rw [ih]
      simp only [run_bind, hval, if_true, List.append_assoc]
    | false =>
      simp only [run_bind, hval]
      simp

/-- The last activity runs in what the others leave. -/
theorem runFrom_concat {before : List Activity} (a : Activity)
    (hval : (runFrom parse before).val = true) :
    runFrom parse (before ++ [a]) =
      ((a.run parse).run (runFrom parse before).state).after (runFrom parse before).effects := by
  unfold runFrom at hval ⊢
  rw [run_runActivities_append, run_bind, hval]
  simp only [if_true]
  have hone : ∀ p, (runActivities parse [a]).run p = (a.run parse).run p := by
    intro p
    rw [runActivities, run_bind]
    cases hrun : ((a.run parse).run p).val with
    | true =>
      simp only [if_true, runActivities, run_pure, List.append_nil]
      rw [← hrun]
    | false =>
      have hfalse : ¬ (false : Bool) = true := by decide
      rw [if_neg hfalse, run_pure, List.append_nil, ← hrun]
  rw [hone]
  rfl

/-- If all have run, the others have. -/
theorem runFrom_of_concat {before : List Activity} {a : Activity}
    (h : (runFrom parse (before ++ [a])).val = true) : (runFrom parse before).val = true := by
  by_contra hval
  unfold runFrom at h hval
  rw [run_runActivities_append, val_bind, if_neg hval] at h
  cases h

/-- What a run keeps account of before an activity that keeps it is accounted for after it. -/
theorem settles_runFrom {as : List Activity}
    (hkeeps : ∀ before a after, as = before ++ a :: after → (runFrom parse before).val = true →
      Keeps parse (runFrom parse before).state a) : SocketsSettle parse as := by
  intro before
  induction before using List.reverseRecOn with
  | nil =>
    intro _ _ _
    exact Settles.nil []
  | append_singleton before a ih =>
    intro after hsplit hval
    have hcons : as = before ++ a :: after := by
      rw [hsplit, List.append_assoc]
      rfl
    have hbefore := runFrom_of_concat parse hval
    have hsettles := ih (a :: after) hcons hbefore
    rw [runFrom_concat parse a hbefore] at hval ⊢
    rcases settlesOrLoses_activity parse a _ hval with ⟨-, hstep⟩ | ⟨hloses, -⟩
    · exact hsettles.trans hstep
    · exact absurd (hkeeps before a after hcons hbefore) hloses

/-- **Descriptors.**  In every state of a run each of them is closed or held, once, exactly if
no session of the run ends and no search socket is left unbound. -/
theorem sockets_settle_iff (as : List Activity) :
    SocketsSettle parse as ↔
      ∀ before a after, as = before ++ a :: after → (runFrom parse before).val = true →
        Keeps parse (runFrom parse before).state a := by
  constructor
  · intro hsettles before a after hsplit hbefore
    cases hrun : ((a.run parse).run (runFrom parse before).state).val with
    | false => exact keeps_of_stopped parse a _ hrun
    | true =>
      rcases settlesOrLoses_activity parse a _ hrun with ⟨hkeeps, -⟩ | ⟨-, fd, hloses⟩
      · exact hkeeps
      · have hsplit' : as = (before ++ [a]) ++ after := by
          rw [hsplit, List.append_assoc]
          rfl
        have hconcat := runFrom_concat parse a hbefore
        have hval : (runFrom parse (before ++ [a])).val = true := by
          rw [hconcat]
          exact hrun
        have hafter := hsettles (before ++ [a]) after hsplit' hval
        rw [hconcat] at hafter
        have hlost := (hsettles before (a :: after) hsplit hbefore).trans hloses
        -- the entries determine what is held, and the lost descriptor is not
        have hlength := (hafter.unique hlost).length_eq
        rw [List.length_append, List.length_singleton] at hlength
        exact absurd hlength (Nat.succ_ne_self _).symm
  · exact settles_runFrom parse

/-- A search socket that cannot be bound is left open. -/
theorem sockets_settle_fails :
    ¬ ∀ (parse : Option (List UInt8) → Option Element) (as : List Activity),
      SocketsSettle parse as := by
  intro h
  have hsettles := h (fun _ => none) [.openSsdp ⟨some 5, true, false, true⟩]
    [.openSsdp ⟨some 5, true, false, true⟩] [] rfl rfl
  have hlength := hsettles.length_eq
  exact absurd hlength (by decide)

end MirrorLink.Analysis
