import Mathlib.Logic.Function.Iterate

/-! Places in a circle: `n` of them, the lowest not necessarily 0. Behind the last comes the first
again, and from one place to another it is so many steps. -/
namespace Cyclic
set_option linter.all false

variable {low n a b k : Nat}

/-- The place is one of the circle. -/
def On (low n a : Nat) : Prop := low ≤ a ∧ a < low + n

/-- The place behind another. -/
def step (low n a : Nat) : Nat := if a + 1 < low + n then a + 1 else low

/-- How many steps lead from the first place to the second. -/
def dist (low n a b : Nat) : Nat := (b - low + (n - (a - low))) % n

theorem mod_succ {r : Nat} (inside : r % n + 1 < n) : (r + 1) % n = r % n + 1 := by
  have one : 1 < n := by omega
  rw [Nat.add_mod, Nat.mod_eq_of_lt one, Nat.mod_eq_of_lt inside]

theorem mod_last {r : Nat} (last : r % n + 1 = n) : (r + 1) % n = 0 := by
  have whole := Nat.div_add_mod r n
  have sum : r + 1 = n * (r / n + 1) := by
    rw [Nat.mul_succ]
    omega
  rw [sum, Nat.mul_mod_right]

/-- So many steps from a place. -/
theorem iterate_eq (on : On low n a) (k : Nat) : (step low n)^[k] a = low + (a - low + k) % n := by
  obtain ⟨least, most⟩ := on
  have some : 0 < n := by omega
  induction k with
  | zero =>
    have inside : a - low < n := by omega
    rw [Function.iterate_zero_apply, Nat.add_zero, Nat.mod_eq_of_lt inside]
    omega
  | succ k ih =>
    have inside := Nat.mod_lt (a - low + k) some
    rw [Function.iterate_succ_apply', ih, step, ← Nat.add_assoc (a - low)]
    split
    · next more => rw [mod_succ (by omega), Nat.add_assoc]
    · next last => rw [mod_last (by omega), Nat.add_zero]

theorem iterate_on (on : On low n a) (k : Nat) : On low n ((step low n)^[k] a) := by
  have some : 0 < n := by
    obtain ⟨least, most⟩ := on
    omega
  have inside := Nat.mod_lt (a - low + k) some
  rw [iterate_eq on]
  exact ⟨Nat.le_add_right _ _, Nat.add_lt_add_left inside _⟩

theorem dist_lt (some : 0 < n) : dist low n a b < n := Nat.mod_lt _ some

/-- A place is as far away as there are steps to it. -/
theorem dist_iterate (on : On low n a) (k : Nat) : dist low n a ((step low n)^[k] a) = k % n := by
  obtain ⟨least, most⟩ := on
  rw [iterate_eq ⟨least, most⟩, dist, Nat.add_sub_cancel_left, Nat.mod_add_mod]
  have sum : a - low + k + (n - (a - low)) = k + n := by omega
  rw [sum, Nat.add_mod_right]

theorem iterate_dist (on : On low n a) (other : On low n b) : (step low n)^[dist low n a b] a = b := by
  obtain ⟨least, most⟩ := on
  obtain ⟨least', most'⟩ := other
  rw [iterate_eq ⟨least, most⟩, dist, Nat.add_mod_mod]
  have sum : a - low + (b - low + (n - (a - low))) = b - low + n := by omega
  rw [sum, Nat.add_mod_right, Nat.mod_eq_of_lt (by omega)]
  omega

/-- The distance without a remainder. -/
theorem dist_eq (on : On low n a) (other : On low n b) : dist low n a b = if a ≤ b then b - a else n + b - a := by
  obtain ⟨least, most⟩ := on
  obtain ⟨least', most'⟩ := other
  unfold dist
  split
  · have sum : b - low + (n - (a - low)) = b - a + n := by omega
    rw [sum, Nat.add_mod_right, Nat.mod_eq_of_lt (by omega)]
  · rw [Nat.mod_eq_of_lt (by omega)]
    omega

/-- Steps from the far place make it as much farther. -/
theorem dist_step (on : On low n a) (other : On low n b) (k : Nat) :
    dist low n a ((step low n)^[k] b) = (dist low n a b + k) % n := by
  have far : (step low n)^[k] b = (step low n)^[k + dist low n a b] a := by
    rw [Function.iterate_add_apply, iterate_dist on other]
  rw [far, dist_iterate on, Nat.add_comm]

end Cyclic
