import Mathlib.Logic.Function.Basic
import Mathlib.Data.List.Basic

/-! A list kept in the first cells of an array, up to a count. -/
namespace Slots
set_option linter.all false

variable {β : Type} {m : Nat → Option β} {n : Nat} {l l' front back : List β} {a b : β}

/-- The cells below the count hold the list. -/
structure Holds (m : Nat → Option β) (n : Nat) (l : List β) : Prop where
  length : l.length = n
  cell : ∀ i < n, m i = l[i]?

theorem Holds.nil (m : Nat → Option β) : Holds m 0 [] := ⟨rfl, fun _ no => absurd no (Nat.not_lt_zero _)⟩

theorem Holds.unique (holds : Holds m n l) (other : Holds m n l') : l = l' := by
  apply List.ext_getElem?
  intro i
  by_cases inside : i < n
  · exact (holds.cell i inside).symm.trans (other.cell i inside)
  · have beyond : l.length ≤ i := Nat.le_trans (Nat.le_of_eq holds.length) (Nat.not_lt.mp inside)
    have beyond' : l'.length ≤ i := Nat.le_trans (Nat.le_of_eq other.length) (Nat.not_lt.mp inside)
    simp only [List.getElem?_eq_none beyond, List.getElem?_eq_none beyond']

/-- The cells one after the other. -/
theorem Holds.cells (holds : Holds m n l) : (List.range n).map m = l.map some := by
  apply List.ext_getElem?
  intro i
  by_cases inside : i < n
  · have cell := holds.cell i inside
    have there : i < l.length := holds.length.symm ▸ inside
    simp only [List.getElem?_map, List.getElem?_range inside, Option.map_some, cell, List.getElem?_eq_getElem there]
  · simp [holds.length, Nat.not_lt.mp inside]

/-- Appends to the list. -/
theorem Holds.push (holds : Holds m n l) (a : β) : Holds (Function.update m n (some a)) (n + 1) (l ++ [a]) := by
  refine ⟨by simp [holds.length], fun i inside => ?_⟩
  obtain before | last := Nat.lt_succ_iff_lt_or_eq.mp inside
  · have there : i < l.length := holds.length.symm ▸ before
    simpa [Function.update_of_ne (Nat.ne_of_lt before), List.getElem?_append_left there] using holds.cell i before
  · subst last
    simp [← holds.length]

/-- Where an element is for the first time. -/
theorem Holds.find [DecidableEq β] (holds : Holds m n (front ++ a :: back)) (first : a ∉ front) :
    (List.range n).find? (fun k => decide (m k = some a)) = some front.length := by
  have below : front.length < n := by
    have length := holds.length
    simp only [List.length_append, List.length_cons] at length
    omega
  apply List.find?_range_eq_some.mpr
  refine ⟨?_, List.mem_range.mpr below, fun j before => ?_⟩
  · simp [holds.cell _ below]
  · have cell := holds.cell j (Nat.lt_trans before below)
    rw [List.getElem?_append_left before] at cell
    simp only [cell, Bool.not_eq_true', decide_eq_false_iff_not]
    exact fun same => first (List.mem_of_getElem? same)

theorem Holds.find_none [DecidableEq β] (holds : Holds m n l) (absent : a ∉ l) :
    (List.range n).find? (fun k => decide (m k = some a)) = none := by
  apply List.find?_eq_none.mpr
  intro k inside
  have cell := holds.cell k (List.mem_range.mp inside)
  simp only [cell, decide_eq_true_eq]
  exact fun same => absent (List.mem_of_getElem? same)

/-- One cell less. -/
theorem Holds.pop (holds : Holds m n (front ++ [a])) : Holds m (n - 1) front := by
  have length := holds.length
  simp only [List.length_append, List.length_singleton] at length
  refine ⟨by omega, fun i inside => ?_⟩
  have there : i < front.length := by omega
  simpa [List.getElem?_append_left there] using holds.cell i (by omega)

/-- A cell is overwritten by the next, and the last one is given up. -/
theorem Holds.overwrite (holds : Holds m n (front ++ a :: b :: back)) :
    Holds (Function.update m front.length (m (front.length + 1))) (n - 1) (front ++ (b :: b :: back).dropLast) := by
  have length := holds.length
  simp only [List.length_append, List.length_cons] at length
  refine ⟨by simp; omega, fun i inside => ?_⟩
  have cell := holds.cell i (by omega)
  have next := holds.cell (front.length + 1) (by omega)
  have there : i < (front ++ b :: b :: back).length - 1 := by simp; omega
  have short : front ++ (b :: b :: back).dropLast = (front ++ b :: b :: back).dropLast :=
    (List.dropLast_append_of_ne_nil (List.cons_ne_nil _ _)).symm
  rw [short, List.getElem?_dropLast, if_pos there]
  by_cases here : i = front.length
  · subst here
    simp [next]
  · rw [Function.update_of_ne here, cell]
    grind

/-- A list is what is left when its first element is there twice and the last one is not, if they are
all the same. -/
theorem dropLast_cons_eq_iff (b : β) (rest : List β) : (b :: rest).dropLast = rest ↔ ∀ x ∈ rest, x = b := by
  induction rest generalizing b with
  | nil => simp
  | cons c rest ih =>
    rw [List.dropLast_cons_cons, List.cons.injEq, ih]
    constructor
    · rintro ⟨rfl, same⟩ x member
      obtain rfl | later := List.mem_cons.mp member
      · rfl
      · exact same x later
    · intro same
      have first : c = b := same c List.mem_cons_self
      exact ⟨first.symm, fun x member => (same x (List.mem_cons_of_mem _ member)).trans first.symm⟩

end Slots
