import Mathlib.Data.List.Forall2
import Mathlib.Data.List.Pairwise

/-! Lists whose elements change in place: each one by a relation, or one of them
alone. What holds of all elements, or of every two of them, is carried over. -/
namespace Pointwise
set_option linter.all false

variable {α : Type} {R : α → α → Prop} {P Q : α → Prop} {S S' : α → α → Prop} {xs ys : List α} {i : Nat} {x y : α}

theorem mem_right (each : List.Forall₂ R xs ys) (member : y ∈ ys) : ∃ x ∈ xs, R x y := by
  induction each with
  | nil => cases member
  | @cons x y' xs ys first _ ih =>
    obtain rfl | later := List.mem_cons.mp member
    · exact ⟨x, List.mem_cons_self, first⟩
    · obtain ⟨x', there, changed⟩ := ih later
      exact ⟨x', List.mem_cons_of_mem x there, changed⟩

/-- What every two elements have in common, every two of the changed ones have. -/
theorem pairwise (each : List.Forall₂ R xs ys)
    (kept : ∀ x ∈ xs, ∀ x' ∈ xs, ∀ y y', R x y → R x' y' → S x x' → S' y y') (apart : xs.Pairwise S) : ys.Pairwise S' := by
  induction each with
  | nil => exact .nil
  | @cons x y xs ys first rest ih =>
    obtain ⟨head, tail⟩ := List.pairwise_cons.mp apart
    refine List.pairwise_cons.mpr ⟨fun y' member => ?_, ?_⟩
    · obtain ⟨x', there, changed⟩ := mem_right rest member
      exact kept x List.mem_cons_self x' (List.mem_cons_of_mem x there) y y' first changed (head x' there)
    · refine ih ?_ tail
      intro x' there x'' there' y' y''
      exact kept x' (List.mem_cons_of_mem x there) x'' (List.mem_cons_of_mem x there') y' y''

/-- Two elements that differ come from two places. -/
theorem two_right (each : List.Forall₂ R xs ys) (apart : xs.Pairwise S) (symm : ∀ x x', S x x' → S x' x)
    (member : x ∈ ys) (member' : y ∈ ys) (differ : x ≠ y) :
    ∃ a ∈ xs, ∃ b ∈ xs, R a x ∧ R b y ∧ S a b := by
  induction each with
  | nil => cases member
  | @cons a c xs ys first rest ih =>
    obtain ⟨head, tail⟩ := List.pairwise_cons.mp apart
    obtain rfl | later := List.mem_cons.mp member <;> obtain rfl | later' := List.mem_cons.mp member'
    · exact absurd rfl differ
    · obtain ⟨b, there, changed⟩ := mem_right rest later'
      exact ⟨a, List.mem_cons_self, b, List.mem_cons_of_mem a there, first, changed, head b there⟩
    · obtain ⟨b, there, changed⟩ := mem_right rest later
      exact ⟨b, List.mem_cons_of_mem a there, a, List.mem_cons_self, changed, first, symm _ _ (head b there)⟩
    · obtain ⟨b, there, b', there', related⟩ := ih tail later later'
      exact ⟨b, List.mem_cons_of_mem a there, b', List.mem_cons_of_mem a there', related⟩

/-- An element and each of the others. -/
theorem others (apart : xs.Pairwise S) (symm : ∀ x x', S x x' → S x' x) (here : xs[i]? = some x) :
    ∀ other ∈ xs.eraseIdx i, S other x := by
  induction xs generalizing i with
  | nil => cases here
  | cons first rest ih =>
    obtain ⟨head, tail⟩ := List.pairwise_cons.mp apart
    intro other member
    cases i with
    | zero =>
      cases here
      exact symm _ _ (head other member)
    | succ i =>
      rw [List.eraseIdx_cons_succ] at member
      obtain rfl | later := List.mem_cons.mp member
      · exact head x (List.mem_of_getElem? here)
      · exact ih tail here other later

/-- One element changes. -/
theorem set (refl : ∀ x, R x x) (here : xs[i]? = some x) (changed : R x y) : List.Forall₂ R xs (xs.set i y) := by
  induction xs generalizing i with
  | nil => cases here
  | cons first rest ih =>
    cases i with
    | zero =>
      cases here
      exact .cons changed (List.forall₂_same.mpr fun x _ => refl x)
    | succ i => exact .cons (refl first) (ih here)

/-- The element that changes is compared with the others only. -/
theorem pairwise_set (apart : xs.Pairwise S) (new : ∀ x ∈ xs.eraseIdx i, S x y ∧ S y x) : (xs.set i y).Pairwise S := by
  induction xs generalizing i with
  | nil => exact .nil
  | cons first rest ih =>
    obtain ⟨head, tail⟩ := List.pairwise_cons.mp apart
    cases i with
    | zero => exact List.pairwise_cons.mpr ⟨fun x member => (new x member).2, tail⟩
    | succ i =>
      rw [List.eraseIdx_cons_succ] at new
      refine List.pairwise_cons.mpr ⟨fun x member => ?_, ih tail fun x there => new x (List.mem_cons_of_mem first there)⟩
      obtain old | rfl := List.mem_or_eq_of_mem_set member
      · exact head x old
      · exact (new first List.mem_cons_self).1

end Pointwise
