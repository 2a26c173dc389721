import Mathlib.Data.List.Basic

/-! Computations that look at some cells of a memory, with how far they looked.
What a computation returns depends on the cells it looked at only, so its reach
is known as soon as it stays inside the cells one knows. -/

/-- A result, and the number of cells up to the last one looked at. -/
structure Peek (β α : Type) where
  run : (Nat → β) → α × Nat
  isLocal : ∀ {m m'}, (∀ i < (run m).2, m' i = m i) → run m' = run m

namespace Peek
set_option linter.all false
variable {β α γ : Type} {x : Peek β α} {f : α → Peek β γ} {m m' : Nat → β}

def value (x : Peek β α) (m : Nat → β) : α := (x.run m).1

def reach (x : Peek β α) (m : Nat → β) : Nat := (x.run m).2

/-- Memories that agree on what is looked at give the same result. -/
theorem value_local (agree : ∀ i < x.reach m, m' i = m i) : x.value m' = x.value m :=
  congrArg Prod.fst (x.isLocal agree)

theorem reach_local (agree : ∀ i < x.reach m, m' i = m i) : x.reach m' = x.reach m :=
  congrArg Prod.snd (x.isLocal agree)

/-- Whether a computation stays inside known cells can be told from these. -/
theorem reach_le_iff {n : Nat} (agree : ∀ i < n, m' i = m i) : x.reach m' ≤ n ↔ x.reach m ≤ n := by
  constructor
  · intro inside
    have same : x.reach m = x.reach m' := reach_local fun i below => (agree i (by omega)).symm
    omega
  · intro inside
    have same : x.reach m' = x.reach m := reach_local fun i below => agree i (by omega)
    omega

/-- And so can its result if it does. -/
theorem value_eq_of_reach_le {n : Nat} (agree : ∀ i < n, m' i = m i) (inside : x.reach m ≤ n) :
    x.value m' = x.value m :=
  value_local fun i below => agree i (by omega)

/-! ## Building computations -/

/-- Looks at nothing. -/
protected def pure (a : α) : Peek β α where
  run _ := (a, 0)
  isLocal _ := rfl

protected def bind (x : Peek β α) (f : α → Peek β γ) : Peek β γ where
  run m := (((f (x.value m)).value m), max (x.reach m) ((f (x.value m)).reach m))
  isLocal {m m'} agree := by
    have first : x.run m' = x.run m := x.isLocal fun i below => agree i (by
      simp only [reach] at below ⊢
      omega)
    have second : (f (x.value m)).run m' = (f (x.value m)).run m :=
      (f (x.value m)).isLocal fun i below => agree i (by
        simp only [reach] at below ⊢
        omega)
    simp only [value, reach, first] at second ⊢
    rw [second]

instance : Monad (Peek β) where
  pure := Peek.pure
  bind := Peek.bind

/-- The cell at the given place. -/
def cell (i : Nat) : Peek β β where
  run m := (m i, i + 1)
  isLocal {m m'} agree := by rw [agree i (Nat.lt_succ_self i)]

/-- Looks at the first cells, whatever they hold. -/
def touch (n : Nat) : Peek β Unit where
  run _ := ((), n)
  isLocal _ := rfl

/-- The cells from the given place on. -/
def block (i n : Nat) : Peek β (List β) where
  run m := ((List.range n).map fun j => m (i + j), if n = 0 then 0 else i + n)
  isLocal {m m'} agree := by
    have same : (List.range n).map (fun j => m' (i + j)) = (List.range n).map fun j => m (i + j) := by
      refine List.map_congr_left fun j member => ?_
      have below := List.mem_range.mp member
      refine agree (i + j) ?_
      rw [if_neg (by omega)]
      omega
    rw [same]

/-- Counting from another place: what looked at nothing still does. -/
def moved (k : Nat) (seen : α × Nat) : α × Nat := (seen.1, if seen.2 = 0 then 0 else k + seen.2)

/-- The same computation on the memory from cell `k` on. -/
def shifted (k : Nat) (x : Peek β α) : Peek β α where
  run m := moved k (x.run fun i => m (k + i))
  isLocal {m m'} agree := by
    have same : x.run (fun i => m' (k + i)) = x.run fun i => m (k + i) := x.isLocal fun i below => by
      refine agree (k + i) ?_
      rw [moved, if_neg (by omega)]
      omega
    rw [same]

/-! ## How far they look -/

@[simp] theorem value_pure (a : α) (m : Nat → β) : (pure a : Peek β α).value m = a := rfl

@[simp] theorem reach_pure (a : α) (m : Nat → β) : (pure a : Peek β α).reach m = 0 := rfl

@[simp] theorem value_bind (x : Peek β α) (f : α → Peek β γ) (m : Nat → β) :
    (x >>= f).value m = (f (x.value m)).value m := rfl

@[simp] theorem reach_bind (x : Peek β α) (f : α → Peek β γ) (m : Nat → β) :
    (x >>= f).reach m = max (x.reach m) ((f (x.value m)).reach m) := rfl

@[simp] theorem value_cell (i : Nat) (m : Nat → β) : (cell i).value m = m i := rfl

@[simp] theorem reach_cell (i : Nat) (m : Nat → β) : (cell i).reach m = i + 1 := rfl

theorem value_cell_bind (i : Nat) (f : β → Peek β α) (m : Nat → β) :
    (cell i >>= f).value m = (f (m i)).value m := rfl

@[simp] theorem reach_touch (n : Nat) (m : Nat → β) : (touch n).reach m = n := rfl

@[simp] theorem value_block (i n : Nat) (m : Nat → β) :
    (block i n).value m = (List.range n).map fun j => m (i + j) := rfl

@[simp] theorem reach_block (i n : Nat) (m : Nat → β) :
    (block i n).reach m = if n = 0 then 0 else i + n := rfl

@[simp] theorem value_shifted (k : Nat) (x : Peek β α) (m : Nat → β) :
    (x.shifted k).value m = x.value fun i => m (k + i) := rfl

@[simp] theorem reach_shifted (k : Nat) (x : Peek β α) (m : Nat → β) :
    (x.shifted k).reach m = if (x.reach fun i => m (k + i)) = 0 then 0
      else k + x.reach fun i => m (k + i) := rfl

/-- A computation on the memory from cell `k` on stays below a bound if it does
relative to `k`. -/
theorem reach_shifted_le_iff {k bound : Nat} (inside : k ≤ bound) :
    (x.shifted k).reach m ≤ bound ↔ (x.reach fun i => m (k + i)) ≤ bound - k := by
  rw [reach_shifted]
  split <;> omega

end Peek
