import Mathlib.Data.List.Nodup
import Mathlib.Logic.Function.Basic

/-! Doubly linked lists that run through their head. An entry that has been taken
out has no neighbours, and cannot be taken out again. -/
namespace Ring
set_option linter.all false

variable {α : Type}

/-- The head of a list, or an entry. -/
inductive Loc (α : Type) where
  | head
  | entry (a : α)
  deriving Repr, DecidableEq

/-- The pointers of the head and of the entries; nothing can be read through `none`. -/
structure Links (α : Type) where
  next : Loc α → Option (Loc α)
  prev : Loc α → Option (Loc α)

namespace Links

/-- The first entry from a place on that passes a test, if the walk comes to one or back to the head. -/
def walk (l : Links α) (test : α → Bool) : Nat → Loc α → Option (Option α)
  | 0, _ => none
  | turns + 1, at' => do
    match ← l.next at' with
    | .head => some none
    | .entry a => if test a then some (some a) else l.walk test turns (.entry a)

variable [DecidableEq α]

/-- A list without entries. -/
def empty : Links α where
  next := Function.update (fun _ => none) .head (some .head)
  prev := Function.update (fun _ => none) .head (some .head)

/-- Puts an entry between two others, in the order in which the pointers are written. -/
def insert (l : Links α) (new before after : Loc α) : Links α :=
  let prev := Function.update l.prev after (some new)
  let next := Function.update l.next new (some after)
  { prev := Function.update prev new (some before), next := Function.update next before (some new) }

/-- Puts an entry before another, or at the end. -/
def addTail (l : Links α) (new : α) (after : Loc α) : Option (Links α) := do
  let before ← l.prev after
  some (l.insert (.entry new) before after)

/-- Makes two places neighbours, and leaves what was between them without any. -/
def remove (l : Links α) (old before after : Loc α) : Links α where
  prev := Function.update (Function.update l.prev after (some before)) old none
  next := Function.update (Function.update l.next before (some after)) old none

/-- Takes an entry out. -/
def del (l : Links α) (a : α) : Option (Links α) := do
  let before ← l.prev (.entry a)
  let after ← l.next (.entry a)
  some (l.remove (.entry a) before after)

end Links

/-- The links lead from one place through some entries to another, and back. -/
def Path (l : Links α) : Loc α → List α → Loc α → Prop
  | a, [], b => l.next a = some b ∧ l.prev b = some a
  | a, x :: xs, b => (l.next a = some (.entry x) ∧ l.prev (.entry x) = some a) ∧ Path l (.entry x) xs b

/-- The list has these entries, in this order. -/
structure Holds (l : Links α) (xs : List α) : Prop where
  path : Path l .head xs .head
  nodup : xs.Nodup

variable {l l' : Links α} {a b b' p : Loc α} {x y : α} {xs ys : List α}

theorem path_append_cons_iff : Path l a (xs ++ y :: ys) b ↔ Path l a xs (.entry y) ∧ Path l (.entry y) ys b := by
  induction xs generalizing a with
  | nil => rfl
  | cons x xs ih =>
    change _ ∧ Path l (.entry x) (xs ++ y :: ys) b ↔ (_ ∧ Path l (.entry x) xs (.entry y)) ∧ _
    rw [ih]
    exact ⟨fun ⟨link, front, back⟩ => ⟨⟨link, front⟩, back⟩, fun ⟨⟨link, front⟩, back⟩ => ⟨link, front, back⟩⟩

/-- Pointers at other places do not matter. -/
theorem Path.congr (path : Path l a xs b) (next : ∀ u ∈ a :: xs.map Loc.entry, l'.next u = l.next u)
    (prev : ∀ v ∈ xs.map Loc.entry ++ [b], l'.prev v = l.prev v) : Path l' a xs b := by
  induction xs generalizing a with
  | nil => exact ⟨(next a List.mem_cons_self).trans path.1, (prev b (by simp)).trans path.2⟩
  | cons x xs ih =>
    obtain ⟨⟨forth, back⟩, rest⟩ := path
    refine ⟨⟨(next a List.mem_cons_self).trans forth, (prev (.entry x) (by simp)).trans back⟩, ih rest ?_ ?_⟩
    · exact fun u member => next u (List.mem_cons_of_mem _ member)
    · exact fun v member => prev v (List.mem_cons_of_mem _ member)

/-- The place before the end is one of those on the way. -/
theorem Path.prev_end (path : Path l a xs b) : ∃ p ∈ a :: xs.map Loc.entry, l.prev b = some p := by
  induction xs generalizing a with
  | nil => exact ⟨a, List.mem_cons_self, path.2⟩
  | cons x xs ih =>
    obtain ⟨p, member, back⟩ := ih path.2
    exact ⟨p, List.mem_cons_of_mem _ member, back⟩

/-- The last link of a way leads to another place. -/
theorem Path.redirect (path : Path l a xs b) (last : l.prev b = some p) (apart : (a :: xs.map Loc.entry).Nodup)
    (next : ∀ u ∈ a :: xs.map Loc.entry, u ≠ p → l'.next u = l.next u) (prev : ∀ v ∈ xs.map Loc.entry, l'.prev v = l.prev v)
    (forth : l'.next p = some b') (back : l'.prev b' = some p) : Path l' a xs b' := by
  induction xs generalizing a with
  | nil =>
    obtain rfl : a = p := Option.some.inj (path.2.symm.trans last)
    exact ⟨forth, back⟩
  | cons x xs ih =>
    obtain ⟨⟨forth', back'⟩, rest⟩ := path
    obtain ⟨first, others⟩ := List.nodup_cons.mp apart
    have other : a ≠ p := by
      obtain ⟨q, member, end'⟩ := rest.prev_end
      obtain rfl : q = p := Option.some.inj (end'.symm.trans last)
      exact fun same => first (same ▸ member)
    refine ⟨⟨(next a List.mem_cons_self other).trans forth', (prev _ (by simp)).trans back'⟩, ih rest others ?_ ?_⟩
    · exact fun u member => next u (List.mem_cons_of_mem _ member)
    · exact fun v member => prev v (List.mem_cons_of_mem _ member)

/-- Where a part of the entries begins, or the head behind the last one. -/
def place : List α → Loc α
  | [] => .head
  | x :: _ => .entry x

theorem Holds.split (holds : Holds l (xs ++ ys)) : Path l .head xs (place ys) ∧ ∀ y zs, ys = y :: zs → Path l (.entry y) zs .head := by
  have path := holds.path
  cases ys with
  | nil =>
    rw [List.append_nil] at path
    exact ⟨path, fun _ _ same => by cases same⟩
  | cons y zs =>
    obtain ⟨front, back⟩ := path_append_cons_iff.mp path
    refine ⟨front, fun _ _ same => ?_⟩
    cases same
    exact back

theorem nodup_head (nodup : xs.Nodup) : (Loc.head :: xs.map Loc.entry).Nodup :=
  List.nodup_cons.mpr ⟨by simp, nodup.map fun _ _ same => Loc.entry.inj same⟩

/-- The walk through a list finds what is in it. -/
theorem Path.walk (test : α → Bool) (path : Path l a xs .head) {turns : Nat} (enough : xs.length < turns) :
    l.walk test turns a = some (xs.find? test) := by
  induction xs generalizing a turns with
  | nil =>
    obtain ⟨turns, rfl⟩ : ∃ n, turns = n + 1 := ⟨turns - 1, by omega⟩
    rw [Links.walk, path.1]
    rfl
  | cons x xs ih =>
    obtain ⟨turns, rfl⟩ : ∃ n, turns = n + 1 := ⟨turns - 1, by omega⟩
    rw [Links.walk, path.1.1, List.find?_cons]
    change (if test x then some (some x) else l.walk test turns (.entry x)) = _
    cases test x with
    | true => rfl
    | false =>
      rw [if_neg (by simp)]
      exact ih path.2 (by rw [List.length_cons] at enough; omega)

/-- The first entry. -/
theorem Holds.first (holds : Holds l xs) : l.next .head = some (place xs) := by
  cases xs with
  | nil => exact holds.path.1
  | cons x xs => exact holds.path.1.1

/-- The last entry. -/
theorem Holds.last (holds : Holds l (xs ++ [x])) : l.prev .head = some (.entry x) :=
  (path_append_cons_iff.mp holds.path).2.2

variable [DecidableEq α]

theorem holds_empty : Holds (Links.empty : Links α) [] := ⟨⟨rfl, rfl⟩, List.nodup_nil⟩

/-- An entry that is not in the list can be put before any part of it. -/
theorem Holds.addTail (holds : Holds l (xs ++ ys)) (new : x ∉ xs ++ ys) :
    ∃ l', l.addTail x (place ys) = some l' ∧ Holds l' (xs ++ x :: ys) := by
  obtain ⟨front, back⟩ := holds.split
  obtain ⟨p, member, last⟩ := front.prev_end
  refine ⟨_, by rw [Links.addTail, last]; rfl, ?_, ?_⟩
  swap
  · exact (List.perm_middle.nodup_iff).mpr (List.nodup_cons.mpr ⟨new, holds.nodup⟩)
  obtain ⟨nodup, nodup', disjoint⟩ := List.nodup_append.mp holds.nodup
  have apart_p : p ≠ .entry x := by
    rintro rfl
    rcases List.mem_cons.mp member with same | member
    · cases same
    · exact new (List.mem_append_left _ (by simpa using member))
  have apart_x {u : α} (there : u ∈ xs ++ ys) : Loc.entry u ≠ .entry x := fun same => new (Loc.entry.inj same ▸ there)
  have place_x : place ys ≠ .entry x := by
    cases ys with
    | nil => simp [place]
    | cons y zs => exact apart_x (List.mem_append_right _ List.mem_cons_self)
  refine path_append_cons_iff.mpr ⟨?_, ?_⟩
  · refine front.redirect last (nodup_head nodup) (fun u there other => ?_) (fun v there => ?_) ?_ ?_
    · have other_x : u ≠ .entry x := by
        rintro rfl
        rcases List.mem_cons.mp there with same | there
        · cases same
        · exact new (List.mem_append_left _ (by simpa using there))
      simp only [Links.insert, Function.update_of_ne other, Function.update_of_ne other_x]
    · obtain ⟨u, inside, rfl⟩ := List.mem_map.mp there
      have other : Loc.entry u ≠ place ys := by
        cases ys with
        | nil => simp [place]
        | cons y zs => exact fun same => disjoint u inside y List.mem_cons_self (Loc.entry.inj same)
      simp only [Links.insert, Function.update_of_ne other, Function.update_of_ne (apart_x (List.mem_append_left _ inside))]
    · simp only [Links.insert, Function.update_self]
    · simp only [Links.insert, Function.update_self]
  · have turned : (l.insert (.entry x) p (place ys)).next (.entry x) = some (place ys) ∧
        (l.insert (.entry x) p (place ys)).prev (place ys) = some (.entry x) := by
      simp only [Links.insert, Function.update_of_ne (Ne.symm apart_p), Function.update_of_ne place_x, Function.update_self,
        and_self]
    cases ys with
    | nil => exact turned
    | cons y zs =>
      refine ⟨turned, (back y zs rfl).congr (fun u there => ?_) fun v there => ?_⟩
      · have listed : ∃ w ∈ y :: zs, u = .entry w := by
          rcases List.mem_cons.mp there with rfl | there
          · exact ⟨y, List.mem_cons_self, rfl⟩
          · obtain ⟨w, inside, rfl⟩ := List.mem_map.mp there
            exact ⟨w, List.mem_cons_of_mem _ inside, rfl⟩
        obtain ⟨w, inside, rfl⟩ := listed
        have other : Loc.entry w ≠ p := by
          rintro rfl
          rcases List.mem_cons.mp member with same | member
          · cases same
          · obtain ⟨v, before, same⟩ := List.mem_map.mp member
            exact disjoint v before w inside (Loc.entry.inj same)
        simp only [Links.insert, Function.update_of_ne other, Function.update_of_ne (apart_x (List.mem_append_right _ inside))]
      · have other_y : v ≠ place (y :: zs) := by
          rcases List.mem_append.mp there with there | there
          · obtain ⟨w, inside, rfl⟩ := List.mem_map.mp there
            exact fun same => (List.nodup_cons.mp nodup').1 (Loc.entry.inj same ▸ inside)
          · rw [List.mem_singleton.mp there]
            simp [place]
        have other_x : v ≠ .entry x := by
          rcases List.mem_append.mp there with there | there
          · obtain ⟨w, inside, rfl⟩ := List.mem_map.mp there
            exact apart_x (List.mem_append_right _ (List.mem_cons_of_mem _ inside))
          · rw [List.mem_singleton.mp there]
            simp
        simp only [Links.insert, Function.update_of_ne other_x, Function.update_of_ne other_y]

/-- An entry of the list can be taken out. -/
theorem Holds.del (holds : Holds l (xs ++ x :: ys)) : ∃ l', l.del x = some l' ∧ Holds l' (xs ++ ys) := by
  obtain ⟨front, back⟩ := path_append_cons_iff.mp holds.path
  obtain ⟨p, member, last⟩ := front.prev_end
  obtain ⟨nodup, nodup', disjoint⟩ := List.nodup_append.mp holds.nodup
  obtain ⟨new, nodup''⟩ := List.nodup_cons.mp nodup'
  have first : l.next (.entry x) = some (place ys) := by
    cases ys with
    | nil => exact back.1
    | cons y zs => exact back.1.1
  refine ⟨_, by rw [Links.del, last, first]; rfl, ?_, ?_⟩
  swap
  · refine List.nodup_append.mpr ⟨nodup, nodup'', fun u before v after => ?_⟩
    exact disjoint u before v (List.mem_cons_of_mem _ after)
  have before_x {u : α} (there : u ∈ xs) : Loc.entry u ≠ .entry x := fun same =>
    disjoint u there x List.mem_cons_self (Loc.entry.inj same)
  have after_x {u : α} (there : u ∈ ys) : Loc.entry u ≠ .entry x := fun same => new (Loc.entry.inj same ▸ there)
  have apart_p : p ≠ .entry x := by
    rintro rfl
    rcases List.mem_cons.mp member with same | member
    · cases same
    · obtain ⟨u, there, same⟩ := List.mem_map.mp member
      exact before_x there same
  have place_x : place ys ≠ .entry x := by
    cases ys with
    | nil => simp [place]
    | cons y zs => exact after_x List.mem_cons_self
  have whole : Path (l.remove (.entry x) p (place ys)) .head xs (place ys) := by
    refine front.redirect last (nodup_head nodup) (fun u there other => ?_) (fun v there => ?_) ?_ ?_
    · have other_x : u ≠ .entry x := by
        rintro rfl
        rcases List.mem_cons.mp there with same | there
        · cases same
        · obtain ⟨w, there, same⟩ := List.mem_map.mp there
          exact before_x there same
      simp only [Links.remove, Function.update_of_ne other, Function.update_of_ne other_x]
    · obtain ⟨u, inside, rfl⟩ := List.mem_map.mp there
      have other : Loc.entry u ≠ place ys := by
        cases ys with
        | nil => simp [place]
        | cons y zs => exact fun same => disjoint u inside y (by simp) (Loc.entry.inj same)
      simp only [Links.remove, Function.update_of_ne other, Function.update_of_ne (before_x inside)]
    · simp only [Links.remove, Function.update_of_ne apart_p, Function.update_self]
    · simp only [Links.remove, Function.update_of_ne place_x, Function.update_self]
  cases ys with
  | nil =>
    rw [List.append_nil]
    exact whole
  | cons y zs =>
    refine path_append_cons_iff.mpr ⟨whole, back.2.congr (fun u there => ?_) fun v there => ?_⟩
    · have listed : ∃ w ∈ y :: zs, u = .entry w := by
        rcases List.mem_cons.mp there with rfl | there
        · exact ⟨y, List.mem_cons_self, rfl⟩
        · obtain ⟨w, inside, rfl⟩ := List.mem_map.mp there
          exact ⟨w, List.mem_cons_of_mem _ inside, rfl⟩
      obtain ⟨w, inside, rfl⟩ := listed
      have other : Loc.entry w ≠ p := by
        rintro rfl
        rcases List.mem_cons.mp member with same | member
        · cases same
        · obtain ⟨v, before, same⟩ := List.mem_map.mp member
          exact disjoint v before w (List.mem_cons_of_mem _ inside) (Loc.entry.inj same)
      simp only [Links.remove, Function.update_of_ne other, Function.update_of_ne (after_x inside)]
    · have other_y : v ≠ place (y :: zs) := by
        rcases List.mem_append.mp there with there | there
        · obtain ⟨w, inside, rfl⟩ := List.mem_map.mp there
          exact fun same => (List.nodup_cons.mp nodup'').1 (Loc.entry.inj same ▸ inside)
        · rw [List.mem_singleton.mp there]
          simp [place]
      have other_x : v ≠ .entry x := by
        rcases List.mem_append.mp there with there | there
        · obtain ⟨w, inside, rfl⟩ := List.mem_map.mp there
          exact after_x (List.mem_cons_of_mem _ inside)
        · rw [List.mem_singleton.mp there]
          simp
      simp only [Links.remove, Function.update_of_ne other_x, Function.update_of_ne other_y]

end Ring
