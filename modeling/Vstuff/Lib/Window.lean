import Mathlib.Data.Fin.Basic
import Mathlib.Data.List.Basic
import Mathlib.Algebra.GroupWithZero.Nat

/-! Sequence numbers modulo `n`. The distance from one number to another is
the number of increments that lead there; a window is described by such
distances only, never by comparing the numbers themselves. -/
namespace Window
set_option linter.all false

variable {n m : Nat} {a b c : Fin n}

/-- How many increments lead from the first number to the second. -/
def dist (a b : Fin n) : Nat := (b - a).val

theorem dist_eq (a b : Fin n) : dist a b = if a ≤ b then b.val - a.val else n + b.val - a.val := by
  unfold dist
  split
  · rename_i le
    exact Fin.sub_val_of_le le
  · rename_i gt
    have below := b.isLt
    have order : b.val < a.val := by
      rw [Fin.le_def] at gt
      omega
    rw [Fin.sub_def]
    simp only
    rw [Nat.mod_eq_of_lt (by omega)]
    omega

@[simp] theorem dist_self (a : Fin n) : dist a a = 0 := by
  simp [dist_eq]

theorem dist_eq_zero : dist a b = 0 ↔ a = b := by
  constructor
  · intro zero
    have := a.isLt
    rw [dist_eq] at zero
    split at zero
    · rename_i le
      exact Fin.ext (by have := Fin.le_def.mp le; omega)
    · omega
  · rintro rfl
    exact dist_self a

/-- Moving the near edge of a window forward by `dist a b` shortens it by as
much, as long as the edge does not pass the far one. -/
theorem dist_sub (within : dist a b ≤ dist a c) : dist b c = dist a c - dist a b := by
  have := a.isLt
  have := b.isLt
  have := c.isLt
  simp only [dist_eq, Fin.le_def] at *
  split at within <;> split at within <;> split <;> omega

/-- The far edge of a window of size `k` is `k` increments away. -/
theorem val_eq_add_mod {k : Nat} (small : k < n) : b.val = (a.val + k) % n ↔ dist a b = k := by
  have := a.isLt
  have := b.isLt
  obtain fits | wraps : a.val + k < n ∨ n ≤ a.val + k := by omega
  · rw [Nat.mod_eq_of_lt fits]
    simp only [dist_eq, Fin.le_def]
    split <;> omega
  · rw [Nat.mod_eq_sub_mod wraps, Nat.mod_eq_of_lt (by omega)]
    simp only [dist_eq, Fin.le_def]
    split <;> omega

variable [NeZero n]

theorem val_succ (a : Fin n) : (a + 1).val = if a.val + 1 = n then 0 else a.val + 1 := by
  have := a.isLt
  rw [Fin.val_add]
  obtain one | many : n = 1 ∨ 1 < n := by omega
  · subst one
    simp
  · have unit : (1 : Fin n).val = 1 := by
      rw [Fin.val_one']
      exact Nat.mod_eq_of_lt many
    rw [unit]
    split
    · rename_i wraps
      rw [wraps, Nat.mod_self]
    · exact Nat.mod_eq_of_lt (by omega)

theorem dist_succ (room : dist a b + 1 < n) : dist a (b + 1) = dist a b + 1 := by
  have := a.isLt
  have := b.isLt
  simp only [dist_eq, Fin.le_def, val_succ] at *
  split at room <;> split <;> split <;> omega

theorem dist_succ_left (some_left : a ≠ b) : dist (a + 1) b + 1 = dist a b := by
  have := a.isLt
  have := b.isLt
  have differ : a.val ≠ b.val := fun same => some_left (Fin.ext same)
  simp only [dist_eq, Fin.le_def, val_succ]
  split <;> split <;> split <;> omega

/-- The numbers `a`, `a + 1`, ... in order. -/
def numbers (a : Fin n) : Nat → List (Fin n)
  | 0 => []
  | m + 1 => a :: numbers (a + 1) m

@[simp] theorem numbers_length (a : Fin n) (m : Nat) : (numbers a m).length = m := by
  induction m generalizing a with
  | zero => rfl
  | succ m ih => simp [numbers, ih]

/-- The number `m` increments further on. -/
def advance (a : Fin n) : Nat → Fin n
  | 0 => a
  | m + 1 => advance (a + 1) m

theorem dist_advance (room : dist a b + m < n) : dist a (advance b m) = dist a b + m := by
  induction m generalizing b with
  | zero => rfl
  | succ m ih =>
    have step : dist a (b + 1) = dist a b + 1 := dist_succ (by omega)
    rw [advance, ih (by omega)]
    omega

/-- A run of numbers stays inside the window it fits in. -/
theorem dist_lt_of_mem_numbers (room : dist a b + m < n) (member : c ∈ numbers b m) :
    dist a c < dist a b + m := by
  induction m generalizing b with
  | zero => cases member
  | succ m ih =>
    obtain rfl | later := List.mem_cons.mp member
    · omega
    · have step : dist a (b + 1) = dist a b + 1 := dist_succ (by omega)
      have within := ih (by omega) later
      omega

/-- A run of numbers continues with the one that follows its last. -/
theorem numbers_append {p : Nat} (reach : dist a b = m) (room : m + p < n) :
    numbers a (m + p) = numbers a m ++ numbers b p := by
  induction m generalizing a with
  | zero => rw [dist_eq_zero.mp reach, Nat.zero_add, numbers, List.nil_append]
  | succ m ih =>
    have differ : a ≠ b := by
      intro same
      rw [same, dist_self] at reach
      omega
    have closer := dist_succ_left differ
    rw [Nat.add_right_comm, numbers, ih (by omega) (by omega), numbers, List.cons_append]

theorem numbers_take {p : Nat} (within : p ≤ m) : (numbers a m).take p = numbers a p := by
  induction p generalizing a m with
  | zero => rfl
  | succ p ih =>
    obtain ⟨m, rfl⟩ : ∃ less, m = less + 1 := ⟨m - 1, by omega⟩
    rw [numbers, List.take_succ_cons, ih (by omega), numbers]

/-- Dropping the numbers before `b` leaves the run that starts there. -/
theorem numbers_drop (within : dist a b ≤ m) :
    (numbers a m).drop (dist a b) = numbers b (m - dist a b) := by
  induction m generalizing a with
  | zero =>
    have here : dist a b = 0 := by omega
    rw [dist_eq_zero.mp here, dist_self]
    rfl
  | succ m ih =>
    by_cases same : a = b
    · rw [same, dist_self]
      rfl
    · have closer := dist_succ_left same
      rw [← closer, numbers, List.drop_succ_cons, ih (by omega)]
      congr 1
      omega

/-- No number before `b` is `b`. -/
theorem not_mem_numbers : b ∉ numbers a (dist a b) := by
  induction reach : dist a b generalizing a with
  | zero => exact List.not_mem_nil
  | succ m ih =>
    have differ : a ≠ b := by
      intro same
      rw [same, dist_self] at reach
      omega
    have closer := dist_succ_left differ
    rw [numbers, List.mem_cons, not_or]
    exact ⟨Ne.symm differ, ih (by omega)⟩

/-! ## Counters that never wrap

A number is what is left of a counter; two counters less than `n` apart are told
apart by it. -/

theorem dist_ofNat {p q : Nat} (le : p ≤ q) (near : q < p + n) :
    dist (Fin.ofNat n p) (Fin.ofNat n q) = q - p := by
  refine (val_eq_add_mod (by omega)).mp ?_
  rw [Fin.val_ofNat, Fin.val_ofNat, Nat.mod_add_mod]
  congr 1
  omega

theorem ofNat_inj {p q : Nat} (above : p < q + n) (below : q < p + n)
    (same : Fin.ofNat n p = Fin.ofNat n q) : p = q := by
  obtain le | le := Nat.le_total p q
  · have apart := dist_ofNat le below
    rw [same, dist_self] at apart
    omega
  · have apart := dist_ofNat le above
    rw [same, dist_self] at apart
    omega

theorem ofNat_succ (p : Nat) : Fin.ofNat n (p + 1) = Fin.ofNat n p + 1 := by
  apply Fin.ext
  rw [Fin.val_ofNat, Fin.val_add, Fin.val_ofNat, Fin.val_one', Nat.mod_add_mod, Nat.add_mod_mod]

theorem advance_ofNat (p m : Nat) : advance (Fin.ofNat n p) m = Fin.ofNat n (p + m) := by
  induction m generalizing p with
  | zero => rfl
  | succ m ih =>
    rw [advance, ← ofNat_succ, ih]
    congr 1
    omega

end Window
