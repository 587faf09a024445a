import MirrorLink.Analysis.ConfigurationProtocol

/-!
# Framebuffer requests and framebuffer updates

From the message that takes the session to status 2 on, `outstanding c k` counts the
requests the first `k` calls have written less the updates they have read.  In status 2 a
call writes at most one request, and that in answer to an update that names a handled
encoding (`doworks_configured`).  An update that names none is read and not answered; so
exactly one request stays outstanding as long as no such update comes (`flow_control`).
-/

set_option autoImplicit false

namespace MirrorLink.Analysis

open MirrorLink.Library MirrorLink.Program

/-- The call after `i` others reads a framebuffer update. -/
def ReadsUpdate (c : Client) (i : ℕ) : Prop :=
  (loopAfter c i).running = true ∧ (loopAfter c i).state.reading = .update

instance (c : Client) (i : ℕ) : Decidable (ReadsUpdate c i) := by
  unfold ReadsUpdate
  infer_instance

/-- How many of the first `n` calls read a framebuffer update. -/
def updatesProcessed (c : Client) : ℕ → ℕ
  | 0 => 0
  | n + 1 => updatesProcessed c n + if ReadsUpdate c n then 1 else 0

/-- Requests written less updates processed. -/
def outstanding (c : Client) (n : ℕ) : ℤ :=
  ((writes (loopAfter c n).effects).countP isUpdateRequest : ℤ) - (updatesProcessed c n : ℤ)

/-! ## One call of a configured session -/

/-- **One call in status 2** keeps the status; it writes one request if it reads an update
that names a handled encoding, and none otherwise. -/
theorem doworks_configured (c : Client) (h2 : c.session.status = 2) :
    (vncSessionDoworks.run c).state.session.status = 2 ∧
      (writes (vncSessionDoworks.run c).effects).countP isUpdateRequest =
        if c.reading = .update ∧ c.namesHandled = true then 1 else 0 := by
  cases hr : c.reading with
  | update =>
    obtain ⟨-, hyes, hno⟩ := doworks_update c hr
    cases hn : c.namesHandled with
    | true =>
      obtain ⟨inc, w, h, hw, hs⟩ := hyes hn
      rw [hw, hs]
      exact ⟨h2, rfl⟩
    | false =>
      obtain ⟨hw, hs⟩ := hno hn
      rw [hw, hs]
      exact ⟨h2, rfl⟩
  | byeBye =>
    obtain ⟨-, hw, hs⟩ := doworks_byeBye c hr
    rw [hw, hs]
    exact ⟨h2, rfl⟩
  | display =>
    obtain ⟨h0, -⟩ := doworks_display c hr
    rw [h2] at h0
    contradiction
  | event =>
    obtain ⟨h1, -⟩ := doworks_event c hr
    rw [h2] at h1
    contradiction
  | inert =>
    obtain ⟨-, hw, hs⟩ := doworks_inert c hr
    rw [hw, hs]
    exact ⟨h2, rfl⟩

/-! ## A session from the message that configures it -/

section Configured

variable (c : Client) (hevent : c.reading = .event)

include hevent

/-- The first call asks for an update. -/
theorem loopAfter_one :
    (loopAfter c 1).running = true ∧ (loopAfter c 1).state.session.status = 2 ∧
      outstanding c 1 = 1 := by
  obtain ⟨-, hval, hw, hs⟩ := doworks_event c hevent
  have hfirst : loopAfter c 1 = ⟨(vncSessionDoworks.run c).state,
      [] ++ (vncSessionDoworks.run c).effects, (vncSessionDoworks.run c).val⟩ :=
    loopAfter_succ c 0 rfl
  have hnone : updatesProcessed c 1 = 0 := by
    have hnot : ¬ ReadsUpdate c 0 := by
      rintro ⟨-, hr⟩
      have hr' : c.reading = .update := hr
      rw [hevent] at hr'
      contradiction
    simp [updatesProcessed, hnot]
  rw [outstanding, hnone, hfirst, List.nil_append, hw]
  exact ⟨hval, by rw [hs], rfl⟩

/-- From then on the session is up. -/
theorem status_loopAfter (k : ℕ) : (loopAfter c (k + 1)).state.session.status = 2 := by
  induction k with
  | zero => exact (loopAfter_one c hevent).2.1
  | succ k ih =>
    cases hr : (loopAfter c (k + 1)).running with
    | false => rwa [loopAfter_succ_of_stopped _ _ hr]
    | true =>
      rw [loopAfter_succ _ _ hr]
      exact (doworks_configured _ ih).1

/-- An update costs one outstanding request, and one that names a handled encoding earns it
back. -/
theorem outstanding_succ (k : ℕ) (hr : (loopAfter c (k + 1)).running = true) :
    outstanding c (k + 2) = outstanding c (k + 1) -
      if ReadsUpdate c (k + 1) ∧ (loopAfter c (k + 1)).state.namesHandled = false
        then 1 else 0 := by
  obtain ⟨-, hcount⟩ := doworks_configured _ (status_loopAfter c hevent k)
  have hcalls : updatesProcessed c (k + 2) =
      updatesProcessed c (k + 1) + if ReadsUpdate c (k + 1) then 1 else 0 := rfl
  rw [outstanding, outstanding, hcalls, loopAfter_succ _ _ hr, writes_append,
    List.countP_append, hcount]
  by_cases hu : (loopAfter c (k + 1)).state.reading = .update
  · have hreads : ReadsUpdate c (k + 1) := ⟨hr, hu⟩
    cases hn : (loopAfter c (k + 1)).state.namesHandled with
    | true => simp [hreads, hu]
    | false => simp [hreads, hu]; omega
  · have hreads : ¬ ReadsUpdate c (k + 1) := fun h => hu h.2
    simp [hreads, hu]

/-- **Flow control.**  After every message exactly one request is outstanding if every
update that has been read names a handled encoding, and only then.  That updates come only
in answer to requests need not be assumed. -/
theorem flow_control (n : ℕ) :
    (∀ k, 1 ≤ k → k ≤ n → (loopAfter c k).running = true → outstanding c k = 1) ↔
      ∀ i < n, ReadsUpdate c i → (loopAfter c i).state.namesHandled = true := by
  constructor
  · intro h i hi hreads
    cases i with
    | zero =>
      have hr : c.reading = .update := hreads.2
      rw [hevent] at hr
      contradiction
    | succ i =>
      by_contra hn
      rw [Bool.not_eq_true] at hn
      have hbefore := h (i + 1) (by omega) (by omega) hreads.1
      have hrunning : (loopAfter c (i + 2)).running = true := by
        rw [loopAfter_succ _ _ hreads.1]
        exact (doworks_update _ hreads.2).1
      have hafter := h (i + 2) (by omega) hi hrunning
      rw [outstanding_succ c hevent i hreads.1, if_pos ⟨hreads, hn⟩, hbefore] at hafter
      contradiction
  · intro h k hk
    induction k, hk using Nat.le_induction with
    | base => exact fun _ _ => (loopAfter_one c hevent).2.2
    | succ k hk ih =>
      intro hkn hrunning
      have hr := running_of_le vncSessionDoworks c (Nat.le_succ k) hrunning
      obtain ⟨j, rfl⟩ := Nat.exists_eq_add_of_le' hk
      rw [outstanding_succ c hevent j hr, ih (by omega) hr, if_neg]
      · rfl
      · rintro ⟨hreads, hn⟩
        rw [h (j + 1) (by omega) hreads] at hn
        contradiction

end Configured

/-- A desktop size is answered, a Bell needs no answer. -/
theorem flow_control_on_desktop_size :
    let c : Client :=
      { session := ⟨800, 480, Block.zero 12, Block.zero 28, 1⟩
        unread := [128, 3, 0, 0] ++ [0, 0, 0, 1, 0, 0, 0, 0, 4, 0, 3, 0, 255, 255, 255, 33] ++ [2]
        failure := .endOfFile
        residue := fun _ => 0 }
    ∀ k, 1 ≤ k → k ≤ 3 → (loopAfter c k).running = true → outstanding c k = 1 :=
  (flow_control _ (by decide +kernel) 3).mpr (by decide +kernel)

/-- An update of no rectangles, sent in answer to the first request, is not answered: nothing
is outstanding after it. -/
theorem flow_control_fails :
    let c : Client :=
      { session := ⟨800, 480, Block.zero 12, Block.zero 28, 1⟩
        unread := [128, 3, 0, 0] ++ [0, 0, 0, 0]
        failure := .endOfFile
        residue := fun _ => 0 }
    c.reading = .event ∧ outstanding c 1 = 1 ∧ ReadsUpdate c 1 ∧
      (loopAfter c 2).running = true ∧ outstanding c 2 = 0 := by
  decide +kernel

end MirrorLink.Analysis
