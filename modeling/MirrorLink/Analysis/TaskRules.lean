import MirrorLink.Program.VncTask
import MirrorLink.Analysis.ExactTransfer

/-!
# A session that follows a task

`Follows h x y R` says of a program `x` over the system and of a session `y` that, started
with the blocks `h`, `x` uses no block that is not allocated, and that whenever it returns
there is what `y` returns for it: the two are related by `R`, which also speaks about the
blocks that are left, and `y` does what `x` has done (`Tracks`).  `y` is the session of any
client whose stream supplies what `x` has taken from the socket (`Feeds`), and whose residue
is what `x` has found in memory that was not initialized.

The rules: one for each call that both make, `follows_silent` for the calls that only `x`
makes, and `Follows.bind` and `follows_repeatM` for what is made of them.
-/

set_option autoImplicit false

namespace MirrorLink.Analysis

open MirrorLink.Library MirrorLink.Program Effectful

/-! ## What has gone over the connection -/

/-- How far a client's stream is read. -/
def askedFor (L : List Traffic) : ℕ := (L.map Traffic.asked).sum

/-- What is written. -/
def messages (L : List Traffic) : List (List UInt8) := L.filterMap Traffic.message

/-- A stream supplies what was taken: at each read its next bytes, or those that are left. -/
def Feeds : List UInt8 → List Traffic → Prop
  | _, [] => True
  | u, .read len bytes :: L => bytes = u.take len ∧ Feeds (u.drop len) L
  | u, .write _ _ :: L => Feeds u L

/-- Without traffic nothing is asked for. -/
@[simp] theorem askedFor_nil : askedFor [] = 0 := rfl

/-- What is asked for adds up. -/
@[simp] theorem askedFor_append (L L' : List Traffic) :
    askedFor (L ++ L') = askedFor L + askedFor L' := by
  simp [askedFor]

/-- Without traffic there are no messages. -/
@[simp] theorem messages_nil : messages [] = [] := rfl

/-- The messages follow each other. -/
@[simp] theorem messages_append (L L' : List Traffic) :
    messages (L ++ L') = messages L ++ messages L' := by
  simp [messages]

/-- A stream feeds the first part, and what it leaves the second. -/
theorem feeds_append {u : List UInt8} {L L' : List Traffic} :
    Feeds u (L ++ L') ↔ Feeds u L ∧ Feeds (u.drop (askedFor L)) L' := by
  induction L generalizing u with
  | nil => simp [Feeds]
  | cons e L ih =>
    cases e with
    | read len bytes =>
      have hdrop : (u.drop len).drop (askedFor L) = u.drop (askedFor (.read len bytes :: L)) := by
        rw [List.drop_drop]
        rfl
      rw [List.cons_append, Feeds, Feeds, ih, hdrop, and_assoc]
    | write data accepted =>
      have hdrop : u.drop (askedFor L) = u.drop (askedFor (.write data accepted :: L)) := by
        rw [show askedFor (.write data accepted :: L) = 0 + askedFor L from rfl, Nat.zero_add]
      rw [List.cons_append, Feeds, Feeds, ih, hdrop]

/-! ## Doing the same -/

/-- The client that is left when the session has come to `session`, `n` bytes have been asked
for and `m` have been found. -/
def clientAfter (c : Client) (session : VncSession) (n m : ℕ) : Client :=
  { c with
    session := session
    unread := c.unread.drop n
    residue := (c.draw m).residue }

/-- From the session in `w`, with a stream that supplies `L` and `found` in its memory, `y`
comes to the session in `w'`, returns `b`, and writes the messages in `L`; its reads are
complete if those in `L` are. -/
def Tracks {β : Type} (y : Session β) (w w' : VncWorld) (b : β) (L : List Traffic)
    (found : List UInt8) : Prop :=
  ∀ c : Client, c.session = w.session → Feeds c.unread L →
    c.indeterminate found.length = found →
      ∃ es, y.run c = ⟨b, clientAfter c w'.session (askedFor L) found.length, es⟩ ∧
        writes es = messages L ∧ (Complete es ↔ ∀ e ∈ L, Traffic.Whole e)

/-- What a task leaves when it returns. -/
def Leaves {α β : Type} (w : VncWorld) (y : Session β) (R : α → β → Blocks (List UInt8) → Prop)
    (a : α) (w' : VncWorld) : Prop :=
  ∃ b L found, R a b w'.blocks ∧ w'.log = w.log ++ L ∧ (∀ e ∈ L, Traffic.Possible e) ∧
    Tracks y w w' b L found

/-- Started with the blocks `h`, `x` goes nowhere wrong, and `y` does what it does. -/
def Follows {α β : Type} (fd : ℤ) (h : Blocks (List UInt8)) (x : VncTask α) (y : Session β)
    (R : α → β → Blocks (List UInt8) → Prop) : Prop :=
  ∀ w, w.blocks = h → (vncService fd).Ensures (Leaves w y R) x w

/-- The same value, and the blocks there were. -/
def Same {α : Type} (h : Blocks (List UInt8)) : α → α → Blocks (List UInt8) → Prop :=
  fun a b h' => a = b ∧ h' = h

/-- What was found in two arrays was found in each. -/
theorem indeterminate_append {c : Client} {found found' : List UInt8}
    (h : c.indeterminate (found ++ found').length = found ++ found') :
    c.indeterminate found.length = found ∧
      (c.draw found.length).indeterminate found'.length = found' := by
  rw [List.length_append, Client.indeterminate, List.range_add, List.map_append] at h
  have hlen : (List.map c.residue (List.range found.length)).length = found.length := by simp
  obtain ⟨h1, h2⟩ := List.append_inj h hlen
  refine ⟨h1, ?_⟩
  conv_rhs => rw [← h2, List.map_map]
  rfl

/-- Two parts that are tracked are tracked together. -/
theorem Tracks.bind {β γ : Type} {y : Session β} {g : β → Session γ} {w w' w'' : VncWorld}
    {b : β} {d : γ} {L L' : List Traffic} {found found' : List UInt8}
    (hy : Tracks y w w' b L found) (hg : Tracks (g b) w' w'' d L' found') :
    Tracks (y >>= g) w w'' d (L ++ L') (found ++ found') := by
  intro c hsession hfeeds hfound
  obtain ⟨hfeeds, hfeeds'⟩ := feeds_append.mp hfeeds
  obtain ⟨hfound, hfound'⟩ := indeterminate_append hfound
  obtain ⟨es, hrun, hwrites, hcomplete⟩ := hy c hsession hfeeds hfound
  obtain ⟨es', hrun', hwrites', hcomplete'⟩ := hg (clientAfter c w'.session _ _) rfl hfeeds' hfound'
  refine ⟨es ++ es', ?_, ?_, ?_⟩
  · rw [run_bind_of hrun, hrun']
    simp only [Outcome.after, clientAfter, Client.draw, List.drop_drop, askedFor_append,
      List.length_append, Nat.add_assoc]
  · rw [writes_append, messages_append, hwrites, hwrites']
  · rw [complete_append, hcomplete, hcomplete']
    simp only [List.mem_append, or_imp, forall_and]

/-! ## The rules -/

section Rules

variable {α β γ δ : Type} {fd : ℤ} {h : Blocks (List UInt8)}
  {R : α → β → Blocks (List UInt8) → Prop} {R' : γ → δ → Blocks (List UInt8) → Prop}

/-- A result that is related follows. -/
theorem follows_pure {a : α} {b : β} (hR : R a b h) :
    Follows fd h (pure a) (pure b : Session β) R := by
  intro w hw
  refine ⟨b, [], [], by rwa [hw], (List.append_nil _).symm, by simp, ?_⟩
  intro c hsession _ _
  refine ⟨[], ?_, rfl, by simp⟩
  simp [clientAfter, Client.draw, ← hsession]

/-- **Sequencing**: what is related in the middle is handed on. -/
theorem follows_bind {x : VncTask α} {y : Session β} {f : α → VncTask γ} {g : β → Session δ}
    (hx : Follows fd h x y R) (hf : ∀ a b h', R a b h' → Follows fd h' (f a) (g b) R') :
    Follows fd h (x >>= f) (y >>= g) R' := by
  intro w hw
  refine Service.ensures_bind.mpr ((hx w hw).mono ?_)
  rintro a w' ⟨b, L, found, hR, hlog, hL, htracks⟩
  refine (hf a b _ hR w' rfl).mono ?_
  rintro d w'' ⟨e, L', found', hR', hlog', hL', htracks'⟩
  refine ⟨e, L ++ L', found ++ found', hR', ?_, ?_, htracks.bind htracks'⟩
  · rw [hlog', hlog, List.append_assoc]
  · intro e he
    rcases List.mem_append.mp he with he | he
    · exact hL e he
    · exact hL' e he

/-- What only the task does in the end. -/
theorem follows_bind_pure {x : VncTask α} {y : Session β} {f : α → VncTask γ}
    {R' : γ → β → Blocks (List UInt8) → Prop} (hx : Follows fd h x y R)
    (hf : ∀ a b h', R a b h' → Follows fd h' (f a) (pure b : Session β) R') :
    Follows fd h (x >>= f) y R' := by
  have hpure : (y >>= pure) = y := by
    show Effectful.mk _ = _
    simp only [run_pure, List.append_nil]
  rw [← hpure]
  exact follows_bind hx hf

/-- What only the task does in the beginning. -/
theorem follows_bind_left {x : VncTask α} {b : β} {f : α → VncTask γ} {g : β → Session δ}
    (hx : Follows fd h x (pure b) R) (hf : ∀ a b h', R a b h' → Follows fd h' (f a) (g b) R') :
    Follows fd h (x >>= f) (g b) R' := by
  have hpure : (pure b >>= g) = g b := rfl
  rw [← hpure]
  exact follows_bind hx hf

/-- The relation may be weakened. -/
theorem Follows.mono {x : VncTask α} {y : Session β} {R₂ : α → β → Blocks (List UInt8) → Prop}
    (hx : Follows fd h x y R) (hR : ∀ a b h', R a b h' → R₂ a b h') : Follows fd h x y R₂ := by
  intro w hw
  refine (hx w hw).mono ?_
  rintro a w' ⟨b, L, found, hab, hrest⟩
  exact ⟨b, L, found, hR a b _ hab, hrest⟩

/-- A loop of the one follows a loop of the other, if an iteration does and leaves the blocks
as they are. -/
theorem follows_repeatM {body : α → VncTask α} {body' : α → Session α}
    (hbody : ∀ b, Follows fd h (body b) (body' b) (Same h)) (n : ℕ) (b : α) :
    Follows fd h (repeatM body n b) (repeatM body' n b) (Same h) := by
  induction n generalizing b with
  | zero => exact follows_pure ⟨rfl, rfl⟩
  | succ n ih =>
    rw [repeatM_succ, repeatM_succ]
    refine follows_bind (hbody b) ?_
    rintro a _ _ ⟨rfl, rfl⟩
    exact ih a

/-- Both take the same branch. -/
theorem follows_ite {x x' : VncTask α} {y y' : Session β} (p : Prop) [Decidable p]
    (hx : p → Follows fd h x y R) (hx' : ¬ p → Follows fd h x' y' R) :
    Follows fd h (if p then x else x') (if p then y else y') R := by
  by_cases hp : p
  · rw [if_pos hp, if_pos hp]
    exact hx hp
  · rw [if_neg hp, if_neg hp]
    exact hx' hp

/-- A call that only the task makes: it has nothing to do with the session. -/
theorem follows_silent {k : VncCall} {f : k.Answer → VncTask α} {y : Session β}
    (hallowed : ∀ w, w.blocks = h → k.Allowed w)
    (hserved : ∀ w answer w', w.blocks = h → k.Served fd w answer w' →
      w'.session = w.session ∧ w'.log = w.log ∧ Follows fd w'.blocks (f answer) y R) :
    Follows fd h (Interaction.call k >>= f) y R := by
  intro w hw
  refine Service.ensures_call_bind (hallowed w hw) fun answer w' hw' => ?_
  obtain ⟨hsession, hlog, hf⟩ := hserved w answer w' hw hw'
  refine (hf w' rfl).mono ?_
  rintro a w'' ⟨b, L, found, hR, hlog', hL, htracks⟩
  refine ⟨b, L, found, hR, by rw [hlog', hlog], hL, ?_⟩
  intro c hc
  exact htracks c (by rw [hc, hsession])

/-- A call that both make. -/
theorem follows_call {k : VncCall} {y : Session β} {R : k.Answer → β → Blocks (List UInt8) → Prop}
    (hallowed : ∀ w, w.blocks = h → k.Allowed w)
    (hserved : ∀ w answer w', w.blocks = h → k.Served fd w answer w' → Leaves w y R answer w') :
    Follows fd h (Interaction.call k) y R :=
  fun w hw => ⟨hallowed w hw, fun answer w' hw' => hserved w answer w' hw hw'⟩

end Rules

section Calls

variable {α β : Type} {fd : ℤ} {h : Blocks (List UInt8)}
  {R : α → β → Blocks (List UInt8) → Prop}

/-! ## The calls -/

/-- What a run of `conn_read` leaves in the buffer. -/
theorem ReadRun.filled {buf bytes filled : List UInt8} {len : UInt32}
    (hrun : ReadRun fd buf len bytes filled) :
    bytes.length ≤ len.toNat ∧ filled = overlay bytes buf := by
  obtain ⟨locals, answers, code, d, hpermitted, hreturned, rfl, rfl⟩ := hrun
  obtain ⟨_, _, hresult, -, -, hd⟩ := (readRule fd buf len).run_returned
    (readSoFar_start fd buf len locals) hpermitted hreturned
  cases hresult
  have hmissing := hd.missing
  have hcounts := hd.counts
  exact ⟨by omega, hd.stored⟩

/-- What a run of `conn_write` has written. -/
theorem WriteRun.accepted {data accepted : List UInt8} (hrun : WriteRun fd data accepted) :
    accepted <+: data := by
  obtain ⟨answers, result, hpermitted, hreturned, rfl⟩ := hrun
  obtain ⟨_, d, -, -, -, hd⟩ := (writeRule fd data _).run_returned
    (writtenSoFar_start fd data _) hpermitted hreturned
  rw [hd.sent]
  exact List.take_prefix _ _

/-- The session is the same. -/
theorem follows_session : Follows fd h VncTask.session (gets Client.session) (Same h) := by
  refine follows_call (fun _ _ => trivial) ?_
  rintro w _ _ rfl ⟨rfl, rfl⟩
  refine ⟨_, [], [], ⟨rfl, rfl⟩, (List.append_nil _).symm, by simp, ?_⟩
  intro c hsession _ _
  refine ⟨[], ?_, rfl, by simp⟩
  rw [run_gets, hsession]
  simp [clientAfter, Client.draw, ← hsession]

/-- It changes in the same way. -/
theorem follows_assign (f : VncSession → VncSession) :
    Follows fd h (VncTask.assign f) (modifySession f) (Same h) := by
  refine follows_call (fun _ _ => trivial) ?_
  rintro w ⟨⟩ _ rfl rfl
  refine ⟨(), [], [], ⟨rfl, rfl⟩, (List.append_nil _).symm, by simp, ?_⟩
  intro c hsession _ _
  refine ⟨[], ?_, rfl, by simp⟩
  rw [run_modifySession, hsession]
  simp [clientAfter, Client.draw]

/-- A copy into a member is a copy into a member. -/
theorem follows_memcpyMember (capacity : ℕ) (buf : List UInt8)
    (copy : VncSession → List UInt8 → VncSession) :
    Follows fd h (VncTask.assign fun s => copy s buf) (memcpyMember capacity buf copy)
      (Same h) := by
  refine follows_call (fun _ _ => trivial) ?_
  rintro w ⟨⟩ _ rfl rfl
  refine ⟨(), [], [], ⟨rfl, rfl⟩, (List.append_nil _).symm, by simp, ?_⟩
  intro c hsession _ _
  refine ⟨[.copy capacity buf.length], ?_, rfl, by simp⟩
  rw [run_memcpyMember, hsession]
  simp [clientAfter, Client.draw]

/-- An array that is declared has whatever was there. -/
theorem follows_indeterminate (n : ℕ) :
    Follows fd h (VncTask.indeterminate n) (uninitialised n) (Same h) := by
  refine follows_call (fun _ _ => trivial) ?_
  rintro w bytes _ rfl ⟨hn, rfl⟩
  refine ⟨bytes, [], bytes, ⟨rfl, rfl⟩, (List.append_nil _).symm, by simp, ?_⟩
  intro c hsession _ hfound
  refine ⟨[], ?_, rfl, by simp⟩
  rw [run_uninitialised, ← hn, hfound]
  simp [clientAfter, Client.draw, ← hsession]

/-- A product overflows in both or in neither. -/
theorem follows_product (n : ℕ) : Follows fd h (VncTask.product n) (intProduct n) (Same h) := by
  refine follows_call (fun _ _ => trivial) ?_
  rintro w _ w' rfl hserved
  obtain ⟨hn, rfl⟩ : n < 2 ^ 31 ∧ w' = w := hserved
  refine ⟨(), [], [], ⟨rfl, rfl⟩, (List.append_nil _).symm, by simp, ?_⟩
  intro c hsession _ _
  refine ⟨[], ?_, rfl, by simp⟩
  rw [intProduct, if_pos hn, run_pure]
  simp [clientAfter, Client.draw, ← hsession]

/-- A write is a write. -/
theorem follows_connWrite (data : List UInt8) :
    Follows fd h (VncTask.connWrite data) (connWrite data) (Same h) := by
  refine follows_call (fun _ _ => trivial) ?_
  rintro w _ _ rfl ⟨accepted, hrun, rfl⟩
  refine ⟨(), [.write data accepted], [], ⟨rfl, rfl⟩, rfl, ?_, ?_⟩
  · intro e he
    rw [List.mem_singleton.mp he]
    exact WriteRun.accepted hrun
  · intro c hsession _ _
    refine ⟨[.write data], ?_, rfl, by simp [Traffic.Whole]⟩
    rw [run_connWrite]
    simp [clientAfter, Client.draw, ← hsession, askedFor, Traffic.asked]

/-- A read that a stream supplies is one read of the session. -/
theorem tracks_read {y : Session β} {w w' : VncWorld} {b : β} {len : ℕ} {bytes : List UInt8}
    (capacity : ℕ) (hsession : w'.session = w.session)
    (hy : ∀ c : Client, bytes = c.unread.take len →
      y.run c = ⟨b, c.skip len, [.read capacity len (c.readCode len)]⟩) :
    Tracks y w w' b [.read len bytes] [] := by
  intro c hc hfeeds _
  obtain ⟨hbytes, -⟩ := hfeeds
  refine ⟨[.read capacity len (c.readCode len)], ?_, rfl, ?_⟩
  · rw [hy c hbytes]
    simp [clientAfter, Client.draw, Client.skip, ← hc, hsession, askedFor, Traffic.asked]
  · rw [complete_read, Client.readCode_eq_zero_iff]
    simp [Traffic.Whole, hbytes]

/-- A read into an array is a read. -/
theorem follows_connRead (buf : List UInt8) (len : UInt32) :
    Follows fd h (VncTask.connRead buf len) (connRead buf len.toNat) (Same h) := by
  refine follows_call (fun _ _ => trivial) ?_
  rintro w filled _ rfl ⟨bytes, hrun, rfl⟩
  obtain ⟨hlen, rfl⟩ := ReadRun.filled hrun
  refine ⟨_, [.read len.toNat bytes], [], ⟨rfl, rfl⟩, rfl, ?_, ?_⟩
  · intro e he
    rw [List.mem_singleton.mp he]
    exact hlen
  · apply tracks_read buf.length rfl
    rintro c rfl
    rw [run_connRead]

/-- A read into a local array that is not looked at. -/
theorem follows_connRead_freed (buf : List UInt8) (capacity : ℕ) (len : UInt32) :
    Follows fd h (VncTask.connRead buf len) (connReadFreed capacity len.toNat)
      (fun _ _ h' => h' = h) := by
  refine follows_call (fun _ _ => trivial) ?_
  rintro w filled _ rfl ⟨bytes, hrun, rfl⟩
  refine ⟨(), [.read len.toNat bytes], [], rfl, rfl, ?_, ?_⟩
  · intro e he
    rw [List.mem_singleton.mp he]
    exact (ReadRun.filled hrun).1
  · apply tracks_read capacity rfl
    intro c _
    rw [run_connReadFreed]

/-- A read into a block is a read into what the block has. -/
theorem follows_connReadAt {a : ℕ} {old : List UInt8} (ha : h a = some old) (offset : ℕ)
    {len : UInt32} {n : ℕ} (hn : len.toNat = n) :
    Follows fd h (VncTask.connReadAt a offset len) (connRead (old.drop offset) n)
      (fun _ buf h' =>
        buf.length = (old.drop offset).length ∧ h' = h.alloc a (old.take offset ++ buf)) := by
  subst hn
  refine follows_call ?_ ?_
  · rintro w rfl
    simp [VncCall.Allowed, ha]
  rintro w _ _ rfl ⟨_, bytes, filled, ha', hfits, hrun, rfl⟩
  rw [ha] at ha'
  cases ha'
  obtain ⟨hlen, rfl⟩ := ReadRun.filled hrun
  have hroom : bytes.length ≤ (old.drop offset).length := by
    rw [List.length_drop]
    omega
  refine ⟨_, [.read len.toNat bytes], [], ⟨length_overlay _ _ hroom, rfl⟩, rfl, ?_, ?_⟩
  · intro e he
    rw [List.mem_singleton.mp he]
    exact hlen
  · apply tracks_read (old.drop offset).length rfl
    rintro c rfl
    rw [run_connRead]

/-- And if the block is freed its contents do not matter. -/
theorem follows_connReadAt_freed {a : ℕ} {old : List UInt8} (ha : h a = some old) (offset : ℕ)
    {len : UInt32} {n : ℕ} (hn : len.toNat = n) (capacity : ℕ) :
    Follows fd h (VncTask.connReadAt a offset len) (connReadFreed capacity n)
      (fun _ _ h' => ∃ new, h' = h.alloc a new) := by
  subst hn
  refine follows_call ?_ ?_
  · rintro w rfl
    simp [VncCall.Allowed, ha]
  rintro w _ _ rfl ⟨_, bytes, filled, -, -, hrun, rfl⟩
  refine ⟨(), [.read len.toNat bytes], [], ⟨_, rfl⟩, rfl, ?_, ?_⟩
  · intro e he
    rw [List.mem_singleton.mp he]
    exact (ReadRun.filled hrun).1
  · apply tracks_read capacity rfl
    intro c _
    rw [run_connReadFreed]

/-! ### Memory -/

/-- A new block has whatever was there. -/
theorem follows_malloc {n : ℕ} {f : ℕ → VncTask α} {y : Session β}
    (hf : ∀ a bytes, h a = none → bytes.length = n → Follows fd (h.alloc a bytes) (f a) y R) :
    Follows fd h (VncTask.malloc n >>= f) y R := by
  refine follows_silent (fun _ _ => trivial) ?_
  rintro w a _ rfl ⟨ha, bytes, hn, rfl⟩
  exact ⟨rfl, rfl, hf a bytes ha hn⟩

/-- What was in a block that the session looks at. -/
theorem follows_malloc_drawn {n : ℕ} {f : ℕ → VncTask α} {g : List UInt8 → Session β}
    (hf : ∀ a bytes, h a = none → bytes.length = n →
      Follows fd (h.alloc a bytes) (f a) (g bytes) R) :
    Follows fd h (VncTask.malloc n >>= f) (uninitialised n >>= g) R := by
  have hcall : Follows fd h (VncTask.malloc n) (uninitialised n)
      (fun a bytes h' => h a = none ∧ bytes.length = n ∧ h' = h.alloc a bytes) := by
    refine follows_call (fun _ _ => trivial) ?_
    rintro w a _ rfl ⟨ha, bytes, hn, rfl⟩
    refine ⟨bytes, [], bytes, ⟨ha, hn, rfl⟩, (List.append_nil _).symm, by simp, ?_⟩
    intro c hsession _ hfound
    refine ⟨[], ?_, rfl, by simp⟩
    rw [run_uninitialised, ← hn, hfound]
    simp [clientAfter, Client.draw, ← hsession]
  refine follows_bind hcall ?_
  rintro a bytes _ ⟨ha, hn, rfl⟩
  exact hf a bytes ha hn

/-- A new block of zeros. -/
theorem follows_calloc {n : ℕ} {f : ℕ → VncTask α} {y : Session β}
    (hf : ∀ a, h a = none → Follows fd (h.alloc a (List.replicate n 0)) (f a) y R) :
    Follows fd h (VncTask.calloc n >>= f) y R := by
  refine follows_silent (fun _ _ => trivial) ?_
  rintro w a _ rfl ⟨ha, rfl⟩
  exact ⟨rfl, rfl, hf a ha⟩

/-- Freeing a block is nothing in the model. -/
theorem follows_free {a : ℕ} {f : Unit → VncTask α} {y : Session β} (ha : h a ≠ none)
    (hf : Follows fd (h.free a) (f ()) y R) : Follows fd h (VncTask.free a >>= f) y R := by
  refine follows_silent ?_ ?_
  · rintro w rfl
    exact ha
  · rintro w _ _ rfl rfl
    exact ⟨rfl, rfl, hf⟩

/-- Also at the end. -/
theorem follows_free_last {a : ℕ} (ha : h a ≠ none) :
    Follows fd h (VncTask.free a) (pure () : Session Unit) (fun _ _ h' => h' = h.free a) := by
  refine follows_call ?_ ?_
  · rintro w rfl
    exact ha
  · rintro w _ _ rfl rfl
    refine ⟨(), [], [], rfl, (List.append_nil _).symm, by simp, ?_⟩
    intro c hsession _ _
    refine ⟨[], ?_, rfl, by simp⟩
    simp [clientAfter, Client.draw, ← hsession]

/-- What is loaded is what the block has. -/
theorem follows_load {a : ℕ} {bytes : List UInt8} {f : List UInt8 → VncTask α} {y : Session β}
    (ha : h a = some bytes) (hf : Follows fd h (f bytes) y R) :
    Follows fd h (VncTask.load a >>= f) y R := by
  refine follows_silent ?_ ?_
  · rintro w rfl
    simp [VncCall.Allowed, ha]
  · rintro w found _ rfl ⟨hfound, rfl⟩
    rw [ha] at hfound
    cases hfound
    exact ⟨rfl, rfl, hf⟩

/-- A copy into a block is seen in the block. -/
theorem follows_memcpy {a : ℕ} {old bytes : List UInt8} {f : Unit → VncTask α} {y : Session β}
    (ha : h a = some old) (hf : Follows fd (h.alloc a (overlay bytes old)) (f ()) y R) :
    Follows fd h (VncTask.memcpy a bytes >>= f) y R := by
  refine follows_silent ?_ ?_
  · rintro w rfl
    simp [VncCall.Allowed, ha]
  · rintro w _ _ rfl ⟨_, ha', -, rfl⟩
    rw [ha] at ha'
    cases ha'
    exact ⟨rfl, rfl, hf⟩

end Calls

end MirrorLink.Analysis
