import Mathlib.Data.List.Nodup
import Mathlib.Logic.Function.Basic

/-!
# Cells in a heap

A heap gives the cell at each address that is allocated.  To read or to write where nothing
is allocated is a `Fault`, so that a program that ends in no fault has used no cell after it
was freed.

Two programs that go on alike in each step end alike (`EndsAs.foldlM`).

`Chain` follows the links from one pointer to another through the addresses it is given.  It
takes no notice of what is stored anywhere else (`chain_congr`), and can be taken apart
(`chain_append`) and closed over a cell that is left out (`Chain.unlink`).
-/

set_option autoImplicit false

namespace MirrorLink.Library

/-- How a program goes wrong. -/
inductive Fault where
  /-- A pointer is followed that is null. -/
  | nullPointer
  /-- A cell is used that is not allocated. -/
  | freedCell (address : ℕ)
  /-- An array is used at an index it does not have. -/
  | outsideArray
  /-- A text is stored in an array that is too short for it. -/
  | overflow
  /-- The turns a loop was given are used up. -/
  | notReturned
  deriving DecidableEq, Repr

/-- A program of two parts ends without a fault if both parts do. -/
theorem bind_eq_ok {α β : Type} {x : Except Fault α} {f : α → Except Fault β} {b : β} :
    (x >>= f) = .ok b ↔ ∃ a, x = .ok a ∧ f a = .ok b := by
  cases x with
  | error e =>
    constructor
    · intro h
      cases h
    · rintro ⟨_, ha, _⟩
      cases ha
  | ok a =>
    constructor
    · intro h
      exact ⟨a, rfl, h⟩
    · rintro ⟨_, ⟨⟩, h⟩
      exact h

/-- A program of two parts goes wrong in its first part, or in its second. -/
theorem bind_eq_error {α β : Type} {x : Except Fault α} {f : α → Except Fault β} {fault : Fault} :
    (x >>= f) = .error fault ↔ x = .error fault ∨ ∃ a, x = .ok a ∧ f a = .error fault := by
  cases x with
  | error e =>
    constructor
    · intro h
      cases h
      exact .inl rfl
    · rintro (h | ⟨_, ha, _⟩)
      · cases h
        rfl
      · cases ha
  | ok a =>
    constructor
    · intro h
      exact .inr ⟨a, rfl, h⟩
    · rintro (h | ⟨_, ⟨⟩, h⟩)
      · cases h
      · exact h

/-- A program goes wrong in no other way than these. -/
def FailsOnly {α : Type} (P : Fault → Prop) (x : Except Fault α) : Prop :=
  ∀ fault, x = .error fault → P fault

/-- A result is no fault. -/
theorem failsOnly_ok {α : Type} (P : Fault → Prop) (a : α) :
    FailsOnly P (.ok a : Except Fault α) := by
  intro fault h
  cases h

/-- A fault of the kind that is allowed. -/
theorem failsOnly_error {α : Type} {P : Fault → Prop} {fault : Fault} (h : P fault) :
    FailsOnly P (.error fault : Except Fault α) := by
  intro other heq
  cases heq
  exact h

/-- A sequence fails as its parts do. -/
theorem FailsOnly.bind {α β : Type} {P : Fault → Prop} {x : Except Fault α}
    {f : α → Except Fault β} (hx : FailsOnly P x) (hf : ∀ a, x = .ok a → FailsOnly P (f a)) :
    FailsOnly P (x >>= f) := by
  cases x with
  | error fault => exact failsOnly_error (hx fault rfl)
  | ok a => exact hf a rfl

/-- A loop fails as its turns do. -/
theorem FailsOnly.foldlM {σ ε : Type} {P : Fault → Prop} {f : σ → ε → Except Fault σ}
    (h : ∀ s e, FailsOnly P (f s e)) (es : List ε) (s : σ) : FailsOnly P (es.foldlM f s) := by
  induction es generalizing s with
  | nil => exact failsOnly_ok P s
  | cons e es ih =>
    rw [List.foldlM_cons]
    exact (h s e).bind fun t _ => ih t

/-- What every step keeps is kept by a run that ends without a fault. -/
theorem foldlM_invariant {σ ε : Type} {f : σ → ε → Except Fault σ} (inv : σ → Prop)
    (hstep : ∀ s e s', inv s → f s e = .ok s' → inv s') {es : List ε} {s s' : σ} (h0 : inv s)
    (h : es.foldlM f s = .ok s') : inv s' := by
  induction es generalizing s with
  | nil =>
    cases h
    exact h0
  | cons e es ih =>
    rw [List.foldlM_cons] at h
    obtain ⟨t, ht, hrest⟩ := bind_eq_ok.mp h
    exact ih (hstep s e t h0 ht) hrest

/-- A run that goes wrong does so at one of its steps. -/
theorem foldlM_eq_error {σ ε : Type} {f : σ → ε → Except Fault σ} {es : List ε} {s : σ}
    {fault : Fault} (h : es.foldlM f s = .error fault) :
    ∃ before e after t, es = before ++ e :: after ∧ before.foldlM f s = .ok t ∧
      f t e = .error fault := by
  induction es generalizing s with
  | nil => cases h
  | cons e es ih =>
    rw [List.foldlM_cons] at h
    cases he : f s e with
    | error other =>
      rw [he] at h
      cases h
      exact ⟨[], e, es, s, rfl, rfl, he⟩
    | ok t =>
      rw [he] at h
      obtain ⟨before, e', after, u, rfl, hbefore, he'⟩ := ih h
      refine ⟨e :: before, e', after, u, rfl, ?_, he'⟩
      rw [List.foldlM_cons, he]
      exact hbefore

/-! ## Two programs -/

/-- Two programs end alike: in results that are related, or in the same fault. -/
def EndsAs {α β : Type} (R : α → β → Prop) : Except Fault α → Except Fault β → Prop
  | .ok a, .ok b => R a b
  | .error fault, .error fault' => fault = fault'
  | _, _ => False

namespace EndsAs

variable {α β : Type} {R : α → β → Prop} {x : Except Fault α} {y : Except Fault β}

/-- If the second program returns, so does the first one. -/
theorem returns (h : EndsAs R x y) {b : β} (hy : y = .ok b) : ∃ a, x = .ok a ∧ R a b := by
  cases x with
  | error fault =>
    rw [hy] at h
    exact h.elim
  | ok a =>
    rw [hy] at h
    exact ⟨a, rfl, h⟩

/-- Two programs with the same first part. -/
theorem bind_same {γ : Type} {z : Except Fault γ} {f : γ → Except Fault α}
    {g : γ → Except Fault β} (h : ∀ c, z = .ok c → EndsAs R (f c) (g c)) :
    EndsAs R (z >>= f) (z >>= g) := by
  cases z with
  | error fault => exact rfl
  | ok c => exact h c rfl

/-- Two programs of two parts. -/
theorem bind {α' β' : Type} {R' : α' → β' → Prop} {f : α → Except Fault α'}
    {g : β → Except Fault β'} (h : EndsAs R x y) (hrest : ∀ a b, R a b → EndsAs R' (f a) (g b)) :
    EndsAs R' (x >>= f) (y >>= g) := by
  cases x with
  | error fault =>
    cases y with
    | error fault' => exact h
    | ok b => exact h.elim
  | ok a =>
    cases y with
    | error fault => exact h.elim
    | ok b => exact hrest a b h

/-- If every step ends alike, so does a run. -/
theorem foldlM {ε ε' : Type} {f : α → ε' → Except Fault α} {g : β → ε → Except Fault β}
    (event : ε → ε') (hstep : ∀ a b e, R a b → EndsAs R (f a (event e)) (g b e)) (es : List ε)
    {a : α} {b : β} (h : R a b) : EndsAs R ((es.map event).foldlM f a) (es.foldlM g b) := by
  induction es generalizing a b with
  | nil => exact h
  | cons e es ih =>
    rw [List.map_cons, List.foldlM_cons, List.foldlM_cons]
    exact (hstep a b e h).bind fun a' b' h' => ih h'

end EndsAs

/-! ## Cells -/

/-- A cell that is linked to another one. -/
structure Cell (α : Type) where
  value : α
  next : Option ℕ
  deriving DecidableEq, Repr

/-- What is allocated. -/
abbrev Heap (α : Type) : Type := ℕ → Option (Cell α)

variable {α : Type}

namespace Heap

def load (h : Heap α) (a : ℕ) : Except Fault (Cell α) :=
  match h a with
  | some cell => .ok cell
  | none => .error (.freedCell a)

def store (h : Heap α) (a : ℕ) (cell : Cell α) : Heap α := Function.update h a (some cell)

def free (h : Heap α) (a : ℕ) : Heap α := Function.update h a none

/-- A cell that is there is loaded. -/
theorem load_eq {h : Heap α} {a : ℕ} {cell : Cell α} (ha : h a = some cell) :
    h.load a = .ok cell := by
  rw [load, ha]

/-- A cell that has been freed is not. -/
theorem load_of_free {h : Heap α} {a : ℕ} (ha : h a = none) :
    h.load a = .error (.freedCell a) := by
  rw [load, ha]

/-- What is loaded is what stands in the cell. -/
theorem load_eq_ok {h : Heap α} {a : ℕ} {cell : Cell α} :
    h.load a = .ok cell ↔ h a = some cell := by
  constructor
  · intro hload
    rcases ha : h a with _ | found
    · rw [load_of_free ha] at hload
      cases hload
    · rw [load_eq ha] at hload
      cases hload
      rfl
  · exact load_eq

/-- The cell has what is stored in it. -/
@[simp] theorem store_self (h : Heap α) (a : ℕ) (cell : Cell α) : h.store a cell a = some cell :=
  Function.update_self _ _ _

/-- A freed cell is gone. -/
@[simp] theorem free_self (h : Heap α) (a : ℕ) : h.free a a = none := Function.update_self _ _ _

/-- The other cells are as they were. -/
theorem store_of_ne (h : Heap α) {a b : ℕ} (cell : Cell α) (hne : b ≠ a) :
    h.store a cell b = h b := Function.update_of_ne hne _ _

/-- The other cells are as they were. -/
theorem free_of_ne (h : Heap α) {a b : ℕ} (hne : b ≠ a) : h.free a b = h b :=
  Function.update_of_ne hne _ _

/-- Nothing is allocated again. -/
def Shrinks (h h' : Heap α) : Prop := ∀ a, h a = none → h' a = none

/-- A heap allocates nothing by itself. -/
theorem Shrinks.refl (h : Heap α) : Shrinks h h := fun _ ha => ha

/-- Two runs that allocate nothing, one after the other. -/
theorem Shrinks.trans {h h' h'' : Heap α} (hs : Shrinks h h') (hs' : Shrinks h' h'') :
    Shrinks h h'' := fun a ha => hs' a (hs a ha)

/-- Freeing allocates nothing. -/
theorem shrinks_free (h : Heap α) (a : ℕ) : Shrinks h (h.free a) := by
  intro b hb
  by_cases hab : b = a
  · rw [hab, free_self]
  · rw [free_of_ne h hab, hb]

/-- Nor does storing in a cell that is there. -/
theorem shrinks_store {h : Heap α} {a : ℕ} {cell : Cell α} (cell' : Cell α)
    (ha : h a = some cell) : Shrinks h (h.store a cell') := by
  intro b hb
  have hab : b ≠ a := by
    rintro rfl
    rw [ha] at hb
    cases hb
  rw [store_of_ne h cell' hab, hb]

/-- The values at several addresses. -/
def values (h : Heap α) (as : List ℕ) : List α := as.filterMap fun a => (h a).map Cell.value

/-- The values along two paths follow each other. -/
theorem values_append (h : Heap α) (as bs : List ℕ) :
    h.values (as ++ bs) = h.values as ++ h.values bs := List.filterMap_append

/-- The value of the first cell comes first. -/
theorem values_cons {h : Heap α} {a : ℕ} {cell : Cell α} (ha : h a = some cell) (as : List ℕ) :
    h.values (a :: as) = cell.value :: h.values as := by
  rw [values, List.filterMap_cons_some (b := cell.value)]
  · rfl
  · rw [ha, Option.map_some]

/-- The values are the same if the cells have the same values. -/
theorem values_congr {h h' : Heap α} {as : List ℕ}
    (heq : ∀ a ∈ as, (h' a).map Cell.value = (h a).map Cell.value) : h'.values as = h.values as :=
  List.filterMap_congr heq

/-- A cell is allocated where a cell with the same value is. -/
theorem allocated_of_value {h h' : Heap α} {a : ℕ}
    (heq : (h' a).map Cell.value = (h a).map Cell.value) (ha : h' a ≠ none) : h a ≠ none := by
  intro hnone
  rw [hnone, Option.map_none, Option.map_eq_none_iff] at heq
  exact ha heq

/-- A link that is stored changes no value. -/
theorem store_next_value {h : Heap α} {a : ℕ} {cell : Cell α} (ha : h a = some cell)
    (next : Option ℕ) (b : ℕ) :
    (h.store a { cell with next := next } b).map Cell.value = (h b).map Cell.value := by
  by_cases hb : b = a
  · rw [hb, store_self, ha, Option.map_some, Option.map_some]
  · rw [store_of_ne h _ hb]

/-- What is seen of the values through a function. -/
def map {β : Type} (f : α → β) (h : Heap α) : Heap β :=
  fun a => (h a).map fun cell => ⟨f cell.value, cell.next⟩

/-- A cell of the image has the image of its value and the same link. -/
theorem map_apply {β : Type} {f : α → β} {h : Heap α} {a : ℕ} {cell : Cell α}
    (ha : h a = some cell) : h.map f a = some ⟨f cell.value, cell.next⟩ := by
  rw [map, ha, Option.map_some]

/-- The same cells are free. -/
theorem map_eq_none {β : Type} {f : α → β} {h : Heap α} {a : ℕ} :
    h.map f a = none ↔ h a = none := by
  rw [map, Option.map_eq_none_iff]

/-- Storing and taking the image may change places. -/
theorem map_store {β : Type} (f : α → β) (h : Heap α) (a : ℕ) (cell : Cell α) :
    (h.store a cell).map f = (h.map f).store a ⟨f cell.value, cell.next⟩ := by
  funext b
  by_cases hb : b = a
  · rw [hb, store_self, map_apply (store_self _ _ _)]
  · rw [store_of_ne _ _ hb, map, map, store_of_ne _ _ hb]

/-- Freeing and taking the image may change places. -/
theorem map_free {β : Type} (f : α → β) (h : Heap α) (a : ℕ) :
    (h.free a).map f = (h.map f).free a := by
  funext b
  by_cases hb : b = a
  · rw [hb, free_self, map_eq_none, free_self]
  · rw [free_of_ne _ hb, map, map, free_of_ne _ hb]

end Heap

/-! ## Chains -/

/-- The links from one pointer to another, through these addresses. -/
inductive Chain (h : Heap α) : Option ℕ → List ℕ → Option ℕ → Prop where
  | nil (p : Option ℕ) : Chain h p [] p
  | cons {a : ℕ} {cell : Cell α} {as : List ℕ} {q : Option ℕ} (ha : h a = some cell)
    (rest : Chain h cell.next as q) : Chain h (some a) (a :: as) q

/-- The cells of a chain are there. -/
theorem Chain.allocated {h : Heap α} {p q : Option ℕ} {as : List ℕ} (hc : Chain h p as q) :
    ∀ a ∈ as, h a ≠ none := by
  induction hc with
  | nil => simp
  | cons ha _ ih =>
    rintro b hb hnone
    rcases List.mem_cons.mp hb with rfl | hb
    · rw [ha] at hnone
      cases hnone
    · exact ih b hb hnone

/-- A list begins at its first cell. -/
theorem Chain.eq_head? {h : Heap α} {p : Option ℕ} {as : List ℕ} (hc : Chain h p as none) :
    p = as.head? := by
  cases hc <;> rfl

/-- A chain that ends goes through the same cells however it is described. -/
theorem Chain.unique {h : Heap α} {p : Option ℕ} {as bs : List ℕ} (hc : Chain h p as none)
    (hc' : Chain h p bs none) : as = bs := by
  induction as generalizing p bs with
  | nil =>
    cases hc
    cases hc'
    rfl
  | cons a as ih =>
    cases hc with
    | cons ha hrest =>
    cases hc' with
    | cons ha' hrest' =>
    rw [ha] at ha'
    cases ha'
    rw [ih hrest hrest']

/-- A chain only depends on the cells it goes through. -/
theorem chain_congr {h h' : Heap α} {p q : Option ℕ} {as : List ℕ}
    (heq : ∀ a ∈ as, h' a = h a) (hc : Chain h p as q) : Chain h' p as q := by
  induction hc with
  | nil p => exact .nil p
  | cons ha _ ih =>
    refine .cons ((heq _ List.mem_cons_self).trans ha) (ih ?_)
    intro b hb
    exact heq b (List.mem_cons_of_mem _ hb)

/-- A chain through two stretches is a chain through each. -/
theorem chain_append {h : Heap α} {p q : Option ℕ} {as bs : List ℕ} :
    Chain h p (as ++ bs) q ↔ ∃ r, Chain h p as r ∧ Chain h r bs q := by
  constructor
  · intro hc
    induction as generalizing p with
    | nil => exact ⟨p, .nil p, hc⟩
    | cons a as ih =>
      cases hc with
      | cons ha rest =>
        obtain ⟨r, has, hbs⟩ := ih rest
        exact ⟨r, .cons ha has, hbs⟩
  · rintro ⟨r, has, hbs⟩
    induction has with
    | nil => exact hbs
    | cons ha _ ih => exact .cons ha (ih hbs)

/-- A chain that ends in a cell, with another pointer stored there. -/
theorem Chain.redirect {h : Heap α} {p q : Option ℕ} {before : List ℕ} {last : ℕ}
    {cell : Cell α} (hnodup : (before ++ [last]).Nodup) (hlast : h last = some cell)
    (hc : Chain h p (before ++ [last]) q) (r : Option ℕ) :
    Chain (h.store last { cell with next := r }) p (before ++ [last]) r := by
  obtain ⟨s, hbefore, hrest⟩ := chain_append.mp hc
  have hnotin : ∀ a ∈ before, a ≠ last := by
    rintro a ha rfl
    exact (List.nodup_append.mp hnodup).2.2 a ha a List.mem_cons_self rfl
  refine chain_append.mpr ⟨s, chain_congr ?_ hbefore, ?_⟩
  · intro a ha
    exact h.store_of_ne _ (hnotin a ha)
  · cases hrest with
    | cons ha _ => exact .cons (h.store_self _ _) (.nil r)

/-- The links are the same through a function. -/
theorem chain_map {β : Type} {f : α → β} {h : Heap α} {p q : Option ℕ} {as : List ℕ} :
    Chain (h.map f) p as q ↔ Chain h p as q := by
  constructor
  · intro hc
    induction as generalizing p with
    | nil =>
      cases hc
      exact .nil _
    | cons a as ih =>
      cases hc with
      | cons ha rest =>
        obtain ⟨cell, hcell, rfl⟩ := Option.map_eq_some_iff.mp ha
        exact .cons hcell (ih rest)
  · intro hc
    induction hc with
    | nil p => exact .nil p
    | cons ha _ ih => exact .cons (Heap.map_apply ha) ih

/-! ## Lists -/

/-- The chain from a pointer to the end has these values. -/
def IsList (h : Heap α) (p : Option ℕ) (values : List α) : Prop :=
  ∃ as, Chain h p as none ∧ h.values as = values

/-- A chain in front of a list is a list. -/
theorem IsList.append {h : Heap α} {p q : Option ℕ} {as : List ℕ} {values : List α}
    (hc : Chain h p as q) (hlist : IsList h q values) : IsList h p (h.values as ++ values) := by
  obtain ⟨bs, hbs, hvalues⟩ := hlist
  refine ⟨as ++ bs, chain_append.mpr ⟨q, hc, hbs⟩, ?_⟩
  rw [Heap.values, List.filterMap_append, ← hvalues]
  rfl

/-- A list is still there if no cell of the heap has changed. -/
theorem IsList.mono {h h' : Heap α} {p : Option ℕ} {values : List α}
    (heq : ∀ a, h a ≠ none → h' a = h a) (hlist : IsList h p values) : IsList h' p values := by
  obtain ⟨as, hc, hvalues⟩ := hlist
  have hsame : ∀ a ∈ as, h' a = h a := fun a ha => heq a (hc.allocated a ha)
  refine ⟨as, chain_congr hsame hc, ?_⟩
  rw [← hvalues]
  exact List.filterMap_congr fun a ha => congrArg _ (hsame a ha)

end MirrorLink.Library
