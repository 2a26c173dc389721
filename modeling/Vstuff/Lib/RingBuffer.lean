import Vstuff.Lib.Cyclic

/-! A memory used as a circle: what is in some cells from a place on, what is stored there one cell
after the other, and the same done with blocks, up to the end and from the beginning on. -/
namespace RingBuffer
open Cyclic
set_option linter.all false

variable {β : Type} {low n a b k : Nat} {m m' : Nat → β} {l : List β}

/-- What is in so many cells from a place on. -/
def window (low n : Nat) (m : Nat → β) : Nat → Nat → List β
  | _, 0 => []
  | a, k + 1 => m a :: window low n m (step low n a) k

/-- So many places from one on. -/
def places (low n : Nat) : Nat → Nat → List Nat
  | _, 0 => []
  | a, k + 1 => a :: places low n (step low n a) k

/-- Stores from a place on. -/
def store (low n : Nat) (m : Nat → β) : Nat → List β → Nat → β
  | _, [] => m
  | a, x :: l => store low n (Function.update m a x) (step low n a) l

/-- A block of cells. -/
def block (m : Nat → β) (a k : Nat) : List β := (List.range k).map fun j => m (a + j)

/-- Stores a block. -/
def copy (m : Nat → β) (a : Nat) (l : List β) : Nat → β := fun c => if a ≤ c then l[c - a]?.getD (m c) else m c

@[simp] theorem length_window : (window low n m a k).length = k := by
  induction k generalizing a with
  | zero => rfl
  | succ k ih => rw [window, List.length_cons, ih]

@[simp] theorem length_block : (block m a k).length = k := by
  rw [block, List.length_map, List.length_range]

@[simp] theorem length_places : (places low n a k).length = k := by
  induction k generalizing a with
  | zero => rfl
  | succ k ih => rw [places, List.length_cons, ih]

theorem map_places : (places low n a k).map m = window low n m a k := by
  induction k generalizing a with
  | zero => rfl
  | succ k ih => rw [places, List.map_cons, ih, window]

theorem mem_places {c : Nat} : c ∈ places low n a k ↔ ∃ j < k, (step low n)^[j] a = c := by
  induction k generalizing a with
  | zero => simp [places]
  | succ k ih =>
    rw [places, List.mem_cons, ih]
    constructor
    · rintro (rfl | ⟨j, below, rfl⟩)
      · exact ⟨0, Nat.succ_pos _, rfl⟩
      · exact ⟨j + 1, Nat.succ_lt_succ below, rfl⟩
    · rintro ⟨_ | j, below, rfl⟩
      · exact .inl rfl
      · exact .inr ⟨j, Nat.lt_of_succ_lt_succ below, rfl⟩

/-! ## One part after the other -/

theorem places_add (j k : Nat) : places low n a (j + k) = places low n a j ++ places low n ((step low n)^[j] a) k := by
  induction j generalizing a with
  | zero => rw [Nat.zero_add]; rfl
  | succ j ih => rw [Nat.succ_add, places, places, ih, Function.iterate_succ_apply, List.cons_append]

theorem window_add (j k : Nat) : window low n m a (j + k) = window low n m a j ++ window low n m ((step low n)^[j] a) k := by
  induction j generalizing a with
  | zero => rw [Nat.zero_add]; rfl
  | succ j ih => rw [Nat.succ_add, window, window, ih, Function.iterate_succ_apply, List.cons_append]

theorem store_append (l l' : List β) :
    store low n m a (l ++ l') = store low n (store low n m a l) ((step low n)^[l.length] a) l' := by
  induction l generalizing m a with
  | nil => rfl
  | cons x l ih => rw [List.cons_append, store, store, ih, List.length_cons, Function.iterate_succ_apply]

/-! ## What is kept -/

theorem store_apart {c : Nat} (apart : ∀ j < l.length, (step low n)^[j] a ≠ c) : store low n m a l c = m c := by
  induction l generalizing m a with
  | nil => rfl
  | cons x l ih =>
    have first : c ≠ a := fun same => apart 0 (Nat.zero_lt_succ _) same.symm
    rw [store, ih fun j below => apart (j + 1) (Nat.succ_lt_succ below), Function.update_of_ne first]

theorem window_congr (same : ∀ j < k, m' ((step low n)^[j] a) = m ((step low n)^[j] a)) :
    window low n m' a k = window low n m a k := by
  induction k generalizing a with
  | zero => rfl
  | succ k ih =>
    have first : m' a = m a := same 0 (Nat.zero_lt_succ _)
    rw [window, window, first, ih fun j below => same (j + 1) (Nat.succ_lt_succ below)]

/-- Two places fewer steps away than the circle has are different. -/
theorem iterate_ne (on : On low n a) {i j : Nat} (less : i < j) (round : j < n) : (step low n)^[i] a ≠ (step low n)^[j] a := by
  intro same
  have far := congrArg (dist low n a) same
  rw [dist_iterate on, dist_iterate on, Nat.mod_eq_of_lt round, Nat.mod_eq_of_lt (by omega)] at far
  omega

/-- As long as there are no more of them than the circle has, they are different. -/
theorem nodup_places_iff (on : On low n a) : (places low n a k).Nodup ↔ k ≤ n := by
  constructor
  · intro nodup
    by_contra more
    obtain ⟨rest, rfl⟩ : ∃ rest, k = n + (rest + 1) := ⟨k - n - 1, by omega⟩
    have some_place : 0 < n := by
      have least := on.1
      have most := on.2
      omega
    have round : (step low n)^[n] a = (step low n)^[0] a := by
      rw [iterate_eq on, iterate_eq on, Nat.add_mod_right, Nat.add_zero]
    rw [places_add, List.nodup_append] at nodup
    exact nodup.2.2 a (mem_places.mpr ⟨0, some_place, rfl⟩) a (mem_places.mpr ⟨0, Nat.succ_pos _, round⟩) rfl
  · intro few
    induction k generalizing a with
    | zero => exact List.nodup_nil
    | succ k ih =>
      rw [places, List.nodup_cons, mem_places]
      refine ⟨?_, ih (iterate_on on 1) (by omega)⟩
      rintro ⟨j, below, same⟩
      exact iterate_ne on (Nat.succ_pos j) (by omega) same.symm

/-- What is stored behind some cells leaves them as they are. -/
theorem window_store_behind (on : On low n a) (room : k + l.length ≤ n) :
    window low n (store low n m ((step low n)^[k] a) l) a k = window low n m a k := by
  refine window_congr fun j below => store_apart fun i inside => ?_
  rw [← Function.iterate_add_apply]
  exact (iterate_ne on (by omega) (by omega)).symm

/-- What has been stored is there. -/
theorem window_store (on : On low n a) (room : l.length ≤ n) : window low n (store low n m a l) a l.length = l := by
  induction l generalizing m a with
  | nil => rfl
  | cons x l ih =>
    rw [List.length_cons] at room
    have on' : On low n (step low n a) := iterate_on on 1
    have first : store low n (Function.update m a x) (step low n a) l a = x := by
      rw [store_apart fun j below => ?_, Function.update_self]
      exact (iterate_ne on (Nat.zero_lt_succ j) (by omega)).symm
    rw [List.length_cons, window, store, first, ih on' (by omega)]

/-- Stored behind what is there, all is there. -/
theorem window_append (on : On low n a) (room : k + l.length ≤ n) :
    window low n (store low n m ((step low n)^[k] a) l) a (k + l.length) = window low n m a k ++ l := by
  rw [window_add, window_store_behind on room, window_store (iterate_on on k) (by omega)]

/-! ## Blocks -/

theorem block_succ : block m a (k + 1) = m a :: block m (a + 1) k := by
  rw [block, List.range_succ_eq_map, List.map_cons, List.map_map, Nat.add_zero, block]
  congr 1
  refine List.map_congr_left fun j _ => ?_
  rw [Function.comp_apply, Nat.succ_eq_add_one, Nat.add_right_comm, Nat.add_assoc]

theorem copy_cons (x : β) : copy m a (x :: l) = copy (Function.update m a x) (a + 1) l := by
  funext c
  unfold copy
  obtain below | rfl | above := Nat.lt_trichotomy c a
  · rw [if_neg (by omega), if_neg (by omega), Function.update_of_ne (by omega)]
  · rw [if_pos (Nat.le_refl _), if_neg (by omega), Nat.sub_self, Function.update_self]
    rfl
  · have place : c - a = c - (a + 1) + 1 := by omega
    rw [if_pos (by omega), if_pos (by omega), place, List.getElem?_cons_succ, Function.update_of_ne (by omega)]

theorem copy_nil : copy m a [] = m := by
  funext c
  unfold copy
  split <;> rfl

/-- Up to the end of the circle it is a block. -/
theorem window_eq_block (room : a + k ≤ low + n) : window low n m a k = block m a k := by
  induction k generalizing a with
  | zero => rfl
  | succ k ih =>
    rw [window, block_succ]
    by_cases last : a + 1 < low + n
    · rw [step, if_pos last, ih (by omega)]
    · obtain rfl : k = 0 := by omega
      rfl

theorem store_eq_copy (room : a + l.length ≤ low + n) : store low n m a l = copy m a l := by
  induction l generalizing m a with
  | nil => exact copy_nil.symm
  | cons x l ih =>
    rw [List.length_cons] at room
    rw [store, copy_cons]
    by_cases last : a + 1 < low + n
    · rw [step, if_pos last, ih (by omega)]
    · obtain rfl : l = [] := List.eq_nil_of_length_eq_zero (by omega)
      exact copy_nil.symm

theorem iterate_end (on : On low n a) : (step low n)^[low + n - a] a = low := by
  obtain ⟨least, most⟩ := on
  have whole : a - low + (low + n - a) = n := by omega
  rw [iterate_eq ⟨least, most⟩, whole, Nat.mod_self, Nat.add_zero]

/-- And from there on it is a block from the beginning. -/
theorem window_eq_blocks (on : On low n a) (room : k ≤ n) :
    window low n m a k = block m a (min k (low + n - a)) ++ block m low (k - (low + n - a)) := by
  obtain ⟨least, most⟩ := on
  obtain within | beyond := Nat.le_total k (low + n - a)
  · rw [Nat.min_eq_left within, Nat.sub_eq_zero_of_le within, window_eq_block (by omega)]
    exact (List.append_nil _).symm
  · obtain ⟨j, rfl⟩ := Nat.exists_eq_add_of_le beyond
    rw [Nat.min_eq_right beyond, Nat.add_sub_cancel_left, window_add, iterate_end ⟨least, most⟩, window_eq_block (by omega),
      window_eq_block (by omega)]

theorem store_eq_copies (on : On low n a) (room : l.length ≤ n) :
    store low n m a l = copy (copy m a (l.take (low + n - a))) low (l.drop (low + n - a)) := by
  obtain ⟨least, most⟩ := on
  obtain within | beyond := Nat.le_total l.length (low + n - a)
  · rw [List.take_of_length_le within, List.drop_of_length_le within, copy_nil, store_eq_copy (by omega)]
  · have first : (l.take (low + n - a)).length = low + n - a := List.length_take_of_le beyond
    calc store low n m a l = store low n m a (l.take (low + n - a) ++ l.drop (low + n - a)) := by rw [List.take_append_drop]
      _ = store low n (store low n m a (l.take (low + n - a))) low (l.drop (low + n - a)) := by
        rw [store_append, first, iterate_end ⟨least, most⟩]
      _ = _ := by rw [store_eq_copy (by rw [List.length_drop]; omega), store_eq_copy (by rw [first]; omega)]

end RingBuffer
