import Mathlib.Algebra.BigOperators.Group.List.Basic
import Mathlib.Tactic.Ring

/-! Numbers made of bit fields, the highest first. Each field is a width and a value
that is cut to it. -/
namespace Fields
set_option linter.all false

/-- The number of some fields. -/
def packed (fields : List (Nat × Nat)) : Nat :=
  fields.foldl (fun n field => n * 2 ^ field.1 + field.2 % 2 ^ field.1) 0

/-- The bits of some fields. -/
def width (fields : List (Nat × Nat)) : Nat := (fields.map Prod.fst).sum

/-- Fields are added below a number. -/
theorem foldl_eq (fields : List (Nat × Nat)) (n : Nat) :
    fields.foldl (fun n field => n * 2 ^ field.1 + field.2 % 2 ^ field.1) n =
      n * 2 ^ width fields + packed fields := by
  induction fields generalizing n with
  | nil => simp [packed, width]
  | cons field fields ih =>
    have below : packed (field :: fields) =
        field.2 % 2 ^ field.1 * 2 ^ width fields + packed fields := by
      rw [packed, List.foldl_cons, ih, Nat.zero_mul, Nat.zero_add]
    have wider : width (field :: fields) = field.1 + width fields := by simp [width]
    rw [List.foldl_cons, ih, below, wider, Nat.pow_add]
    ring

theorem packed_append (front back : List (Nat × Nat)) :
    packed (front ++ back) = packed front * 2 ^ width back + packed back := by
  rw [packed, List.foldl_append, foldl_eq back]
  rfl

theorem packed_cons (field : Nat × Nat) (fields : List (Nat × Nat)) :
    packed (field :: fields) = field.2 % 2 ^ field.1 * 2 ^ width fields + packed fields := by
  rw [packed, List.foldl_cons, foldl_eq, Nat.zero_mul, Nat.zero_add]

theorem packed_lt (fields : List (Nat × Nat)) : packed fields < 2 ^ width fields := by
  induction fields with
  | nil => simp [packed, width]
  | cons field fields ih =>
    have cut : field.2 % 2 ^ field.1 < 2 ^ field.1 := Nat.mod_lt _ (Nat.two_pow_pos _)
    have wider : width (field :: fields) = field.1 + width fields := by simp [width]
    rw [packed_cons, wider, Nat.pow_add]
    calc field.2 % 2 ^ field.1 * 2 ^ width fields + packed fields
        < (field.2 % 2 ^ field.1 + 1) * 2 ^ width fields := by rw [Nat.add_mul]; omega
      _ ≤ 2 ^ field.1 * 2 ^ width fields := Nat.mul_le_mul_right _ cut

/-- A field is found above the bits of the fields behind it. -/
theorem packed_field (front back : List (Nat × Nat)) (w v : Nat) :
    packed (front ++ (w, v) :: back) / 2 ^ width back % 2 ^ w = v % 2 ^ w := by
  have shifted : packed (front ++ (w, v) :: back) / 2 ^ width back = packed front * 2 ^ w + v % 2 ^ w := by
    have split : packed (front ++ (w, v) :: back) =
        packed back + (packed front * 2 ^ w + v % 2 ^ w) * 2 ^ width back := by
      have wider : width ((w, v) :: back) = w + width back := by simp [width]
      rw [packed_append, packed_cons, wider, Nat.pow_add]
      ring
    rw [split, Nat.add_mul_div_right _ _ (Nat.two_pow_pos _), Nat.div_eq_of_lt (packed_lt back), Nat.zero_add]
  rw [shifted, Nat.add_comm, Nat.add_mul_mod_self_right, Nat.mod_mod]

end Fields
