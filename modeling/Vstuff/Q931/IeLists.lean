import Vstuff.Lib.Machine
import Vstuff.Lib.RefCount
import Vstuff.Lib.Slots
import Vstuff.Q931.Ie
import Mathlib.Algebra.BigOperators.Group.Finset.Piecewise
import Mathlib.Algebra.Order.BigOperators.Group.Finset
import Mathlib.Data.List.TakeWhile

/-! Lists of information elements (`ies.c`). Each holds references to its elements, which other lists
and other owners may hold as well. -/
namespace Vstuff.Q931.IeLists
open RefCount Transition Slots
set_option linter.all false

/-- `Q931_IES_NUM_IES` -/
def numIes : Nat := 260

/-- What `q931_ies_merge` reads of an element; the value is that of a Cause. -/
structure Ie where
  id : IeId
  value : Nat
  deriving DecidableEq, Repr

/-- `struct q931_ies`; a cell is NULL or tells an element. -/
structure Ies (α : Type) where
  ies : Nat → Option α
  count : Nat
  bounded : count ≤ numIes

/-- Where a program stops: at the assertions on a count, at NULL where an element should be, at the
assertions on the references of an element, and where the caller hands over what it does not have. -/
inductive Stop where
  | capacity
  | null
  | refcnt (fault : Fault)
  | caller
  deriving DecidableEq, Repr

/-- The references to the elements, the lists, and the elements that lists have put, in order. The
references that are `due` are those of the other owners. -/
structure Memory (ι α : Type) where
  refs : Refs α
  ies : ι → Ies α
  puts : List α := []

variable {ι α : Type} (ie : α → Ie)

namespace Memory
variable [DecidableEq ι] [DecidableEq α] (s : Memory ι α)

def store (i : ι) (ies : Ies α) : Memory ι α := { s with ies := Function.update s.ies i ies }

/-- `q931_ie_get`, for a list. -/
def ieGet (a : α) : Except Stop (Memory ι α) := do
  let refs ← (s.refs.keep a).mapError .refcnt
  .ok { s with refs }

/-- `q931_ie_put`, for a list. -/
def iePut : Option α → Except Stop (Memory ι α)
  | none => .error .null
  | some a => do
    let refs ← (s.refs.drop a).mapError .refcnt
    .ok { s with refs, puts := s.puts ++ [a] }

/-- `q931_ies_flush`; what has been put is NULL. -/
def iesFlush (i : ι) : Except Stop (Memory ι α) := do
  let ies := s.ies i
  let t ← ((List.range ies.count).map ies.ies).foldlM iePut s
  .ok (t.store i ⟨fun k => if k < ies.count then none else ies.ies k, 0, Nat.zero_le _⟩)

/-- `q931_ies_add`. -/
def iesAdd (i : ι) (cell : Option α) : Except Stop (Memory ι α) :=
  let ies := s.ies i
  if room : ies.count < numIes then
    match cell with
    | none => .error .null
    | some a => do
      let t ← s.ieGet a
      .ok (t.store i ⟨Function.update ies.ies ies.count (some a), ies.count + 1, room⟩)
  else .error .capacity

/-- The inner loop of `q931_ies_del`: its index is `j`, and what it moves is at `i`. -/
def shift (cells : Nat → Option α) (count i : Nat) : Nat → Option α :=
  (List.range' i (count - 1 - i)).foldl (fun cells _j => Function.update cells i (cells (i + 1))) cells

/-- `q931_ies_del`. -/
def iesDel (i : ι) (a : α) : Except Stop (Memory ι α) :=
  let ies := s.ies i
  match (List.range ies.count).find? fun k => ies.ies k = some a with
  | none => .ok s
  | some k => do
    let t ← s.iePut (some a)
    .ok (t.store i ⟨shift ies.ies ies.count k, ies.count - 1, (Nat.sub_le _ _).trans ies.bounded⟩)

/-- The inner loop of `q931_ies_merge`: there is a Cause with this value. -/
def hasCause (value : Nat) : List (Option α) → Except Stop Bool
  | [] => .ok false
  | none :: _ => .error .null
  | some b :: cells => if (ie b).id = .cause ∧ (ie b).value = value then .ok true else hasCause value cells

/-- A turn of the outer loop. -/
def mergeTurn (i : ι) : Option α → Except Stop (Memory ι α)
  | none => .error .null
  | some a => do
    let ies := s.ies i
    let there ← if (ie a).id = .cause then hasCause ie (ie a).value ((List.range ies.count).map ies.ies) else .ok false
    if there then .ok s else s.iesAdd i (some a)

/-- The outer loop from a position on, which reads the count of the source in every turn; no list has
more cells than there are turns. -/
def mergeFrom (i src : ι) : Nat → Nat → Memory ι α → Except Stop (Memory ι α)
  | 0, _, s => .ok s
  | turns + 1, k, s =>
    if k < (s.ies src).count then do
      let t ← s.mergeTurn ie i ((s.ies src).ies k)
      mergeFrom i src turns (k + 1) t
    else .ok s

/-- `q931_ies_merge`. -/
def iesMerge (i : ι) : Option ι → Except Stop (Memory ι α)
  | none => .ok s
  | some src =>
    if (s.ies i).count + (s.ies src).count < numIes then mergeFrom ie i src numIes 0 s else .error .capacity

/-- `q931_ies_copy`. -/
def iesCopy (i : ι) : Option ι → Except Stop (Memory ι α)
  | none => .ok s
  | some src => do
    let s ← s.iesFlush i
    let ies := s.ies src
    ((List.range ies.count).map ies.ies).foldlM (fun s cell => s.iesAdd i cell) s

end Memory

/-! ## What the lists are for -/

/-- The calls of the functions, and another owner that puts a reference of its own (`q931_ies_add_put` is
an `add` and a `release`). -/
inductive Op (ι α : Type) where
  | add (i : ι) (a : α)
  | del (i : ι) (a : α)
  | merge (i : ι) (src : Option ι)
  | copy (i : ι) (src : Option ι) (apart : src ≠ some i)
  | flush (i : ι)
  | release (a : α)

/-- What the lists should hold, and the elements that were removed from them, in order. -/
structure Ledger (ι α : Type) where
  lists : ι → List α := fun _ => []
  removed : List α := []

/-- A Cause whose value the list has. -/
def known (l : List α) (a : α) : Bool := (ie a).id = .cause && l.any fun b => (ie b).id = .cause && (ie b).value = (ie a).value

/-- Appends the elements but for the Causes whose value is there. -/
def merged (l src : List α) : List α := src.foldl (fun l a => if known ie l a then l else l ++ [a]) l

namespace Ledger
variable [DecidableEq ι] (c : Ledger ι α)

def set (i : ι) (l : List α) : Ledger ι α := { c with lists := Function.update c.lists i l }

def flush (i : ι) : Ledger ι α := { lists := Function.update c.lists i [], removed := c.removed ++ c.lists i }

@[simp] theorem set_lists (i : ι) (l : List α) : (c.set i l).lists i = l := Function.update_self ..

@[simp] theorem set_other {i j : ι} (other : j ≠ i) (l : List α) : (c.set i l).lists j = c.lists j := Function.update_of_ne other ..

@[simp] theorem set_same (i : ι) : c.set i (c.lists i) = c := by simp [set]

@[simp] theorem set_set (i : ι) (l l' : List α) : (c.set i l).set i l' = c.set i l' := by simp [set]

variable [DecidableEq α]

def step : Op ι α → Ledger ι α
  | .add i a => c.set i (c.lists i ++ [a])
  | .del i a =>
    if a ∈ c.lists i then { lists := Function.update c.lists i ((c.lists i).erase a), removed := c.removed ++ [a] } else c
  | .merge i (some src) => c.set i (merged ie (c.lists i) (c.lists src))
  | .copy i (some src) _ => (c.flush i).set i (c.lists src)
  | .flush i => c.flush i
  | .merge _ none | .copy _ none _ | .release _ => c

end Ledger

def Memory.step [DecidableEq ι] [DecidableEq α] (s : Memory ι α) : Op ι α → Except Stop (Memory ι α)
  | .add i a => if s.refs.refcnt a = 0 then .error .caller else s.iesAdd i (some a)
  | .del i a => s.iesDel i a
  | .merge i src => s.iesMerge ie i src
  | .copy i src _ => s.iesCopy i src
  | .flush i => s.iesFlush i
  | .release a =>
    if s.refs.due a ≤ 0 then .error .caller
    else do
      let refs ← (s.refs.put a).mapError .refcnt
      .ok { s with refs }

/-- The lists beside what they should hold. -/
def step [DecidableEq ι] [DecidableEq α] (s : Memory ι α × Ledger ι α) (op : Op ι α) :
    Except Stop (Memory ι α × Ledger ι α) := do
  let t ← s.1.step ie op
  .ok (t, s.2.step ie op)

/-- Lists as `q931_ies_init` leaves them, whatever is in their cells, and elements with their owners. -/
def start (owned : α → Nat) (cells : ι → Nat → Option α) : Memory ι α × Ledger ι α :=
  ({ refs := ⟨owned, fun a => owned a⟩, ies := fun i => ⟨cells i, 0, Nat.zero_le _⟩ }, {})

/-- How often lists hold an element. -/
def total [Fintype ι] [DecidableEq α] (lists : ι → List α) (a : α) : Nat := ∑ i, (lists i).count a

/-- Each list holds what it should, each element removed has been put once, and every element has as
many references as there are lists and others that hold it. -/
structure Sound [Fintype ι] [DecidableEq α] (s : Memory ι α) (c : Ledger ι α) : Prop where
  lists : ∀ i, Holds (s.ies i).ies (s.ies i).count (c.lists i)
  puts : s.puts = c.removed
  counted : ∀ a, (s.refs.refcnt a : Int) = s.refs.due a + total c.lists a
  owned : ∀ a, 0 ≤ s.refs.due a

/-- A list holds no NULL, and no element that is gone. -/
def Stop.Broken : Stop → Prop
  | .null | .refcnt _ => True
  | .capacity | .caller => False

/-- The elements behind the place where one is for the first time. -/
def behind [DecidableEq α] (a : α) (l : List α) : List α := (l.dropWhile (· ≠ a)).tail

/-- `q931_ies_del` leaves the other elements of the list in their order, and the count is one less. -/
def Removes [DecidableEq ι] [DecidableEq α] (s : Memory ι α) (i : ι) (l : List α) (a : α) : Prop :=
  ∃ t, s.iesDel i a = .ok t ∧ Holds (t.ies i).ies (t.ies i).count (l.filter (· != a)) ∧ (t.ies i).count + 1 = (s.ies i).count

/-- The elements behind one that is removed are all the same. -/
def Fits [DecidableEq α] (s : Memory ι α × Ledger ι α) : Op ι α → Prop
  | .del i a => ∀ x ∈ behind a (s.2.lists i), ∀ y ∈ behind a (s.2.lists i), x = y
  | _ => True

instance [DecidableEq α] (s : Memory ι α × Ledger ι α) (op : Op ι α) : Decidable (Fits s op) :=
  match op with
  | .del i a => inferInstanceAs (Decidable (∀ x ∈ behind a (s.2.lists i), ∀ y ∈ behind a (s.2.lists i), x = y))
  | .add .. | .merge .. | .copy .. | .flush _ | .release _ => inferInstanceAs (Decidable True)

/-! ## Merged lists -/

theorem merged_cons (l src : List α) (a : α) :
    merged ie l (a :: src) = merged ie (if known ie l a then l else l ++ [a]) src := rfl

theorem merged_known (l src : List α) (all : ∀ a ∈ src, known ie l a) : merged ie l src = l := by
  induction src with
  | nil => rfl
  | cons a src ih =>
    rw [merged_cons, if_pos (all a List.mem_cons_self)]
    exact ih fun b later => all b (List.mem_cons_of_mem _ later)

theorem known_of_mem {l : List α} {a : α} (member : a ∈ l) (cause : (ie a).id = .cause) : known ie l a := by
  simp only [known, cause, decide_true, Bool.true_and, List.any_eq_true]
  exact ⟨a, member, by simp [cause]⟩

theorem cause_of_known {l : List α} {a : α} (there : known ie l a) : (ie a).id = .cause := by
  simp only [known, Bool.and_eq_true, decide_eq_true_eq] at there
  exact there.1

theorem hasCause_eq (value : Nat) (l : List α) :
    Memory.hasCause ie value (l.map some) = .ok (l.any fun b => (ie b).id = .cause && (ie b).value = value) := by
  induction l with
  | nil => rfl
  | cons b l ih =>
    rw [List.map_cons, Memory.hasCause, ih, List.any_cons]
    by_cases here : (ie b).id = .cause ∧ (ie b).value = value
    · simp [here]
    · rw [if_neg here]
      simpa using fun cause same => absurd ⟨cause, same⟩ here

/-! ## What the lists keep -/

section Soundness
variable [DecidableEq ι] [DecidableEq α] [Fintype ι] {s t : Memory ι α} {c : Ledger ι α} {i src : ι} {a : α} {l : List α}

theorem total_update (lists : ι → List α) (i : ι) (l : List α) (a : α) :
    total (Function.update lists i l) a + (lists i).count a = total lists a + l.count a := by
  have others : ∑ j ∈ {i}ᶜ, (Function.update lists i l j).count a = ∑ j ∈ {i}ᶜ, (lists j).count a := by
    apply Finset.sum_congr rfl
    intro j other
    rw [Function.update_of_ne (by simpa using other)]
  simp only [total, Fintype.sum_eq_add_sum_compl i, others, Function.update_self]
  omega

omit [DecidableEq ι] in
theorem count_le_total (lists : ι → List α) (i : ι) (a : α) : (lists i).count a ≤ total lists a :=
  Finset.single_le_sum (f := fun i => (lists i).count a) (fun _ _ => Nat.zero_le _) (Finset.mem_univ i)

omit [DecidableEq ι] in
/-- The references of the lists are enough to put one for each place where a list holds an element. -/
theorem Sound.enough (sound : Sound s c) (i : ι) (a : α) : (c.lists i).count a ≤ s.refs.refcnt a := by
  have counted := sound.counted a
  have owned := sound.owned a
  have held := count_le_total c.lists i a
  omega

omit [DecidableEq ι] in
theorem Sound.alive (sound : Sound s c) (member : a ∈ c.lists i) : 0 < s.refs.refcnt a :=
  (List.count_pos_iff.mpr member).trans_le (sound.enough i a)

omit [DecidableEq ι] in
theorem Sound.count_eq (sound : Sound s c) (i : ι) : (s.ies i).count = (c.lists i).length := (sound.lists i).length.symm

omit [DecidableEq ι] in
theorem Sound.length_le (sound : Sound s c) (i : ι) : (c.lists i).length ≤ numIes := sound.count_eq i ▸ (s.ies i).bounded

/-- One list is replaced, with the references that go with it. -/
theorem Sound.store (sound : Sound s c) {refs : Refs α} {puts removed : List α} {ies : Ies α}
    (holds : Holds ies.ies ies.count l) (same : puts = removed)
    (counted : ∀ a, (refs.refcnt a : Int) + (c.lists i).count a = refs.due a + total c.lists a + l.count a)
    (owned : ∀ a, 0 ≤ refs.due a) :
    Sound ({ s with refs, puts }.store i ies) { lists := Function.update c.lists i l, removed } := by
  refine ⟨fun j => ?_, same, fun a => ?_, owned⟩
  · by_cases here : j = i
    · subst here
      simpa [Memory.store] using holds
    · simpa [Memory.store, Function.update_of_ne here] using sound.lists j
  · have before := counted a
    have after := total_update c.lists i l a
    simp only [Memory.store]
    omega

/-! ## Elements put in and removed -/

theorem Sound.iesAdd (sound : Sound s c) (alive : 0 < s.refs.refcnt a) (room : (c.lists i).length < numIes) :
    ∃ t, s.iesAdd i (some a) = .ok t ∧ Sound t (c.set i (c.lists i ++ [a])) := by
  have free : (s.ies i).count < numIes := (sound.count_eq i).trans_lt room
  refine ⟨_, by simp only [Memory.iesAdd, dif_pos free, Memory.ieGet, Refs.keep_eq alive]; rfl, ?_⟩
  apply sound.store ((sound.lists i).push a) sound.puts
  · intro b
    have counted := sound.counted b
    simp only [update_add_one, List.count_append]
    omega
  · exact sound.owned

theorem Sound.iesAdd_full (sound : Sound s c) (full : ¬(c.lists i).length < numIes) :
    s.iesAdd i (some a) = .error .capacity := dif_neg (sound.count_eq i ▸ full)

omit [DecidableEq ι] [Fintype ι] in
/-- A put for each of several elements, in order. -/
theorem iePut_all (l : List α) : ∀ {s : Memory ι α}, (∀ a, l.count a ≤ s.refs.refcnt a) →
    (l.map some).foldlM Memory.iePut s = .ok
      { s with refs := { s.refs with refcnt := fun a => s.refs.refcnt a - l.count a }, puts := s.puts ++ l } := by
  induction l with
  | nil =>
    intro s enough
    simp [pure, Except.pure]
  | cons a l ih =>
    intro s enough
    have split (b : α) : (a :: l).count b = [a].count b + l.count b := by
      rw [← List.count_append, List.singleton_append]
    have alive : 0 < s.refs.refcnt a := by
      have first := enough a
      simp only [List.count_cons_self] at first
      omega
    have put : s.iePut (some a) = .ok
        { s with
          refs := { s.refs with refcnt := Function.update s.refs.refcnt a (s.refs.refcnt a - 1) }
          puts := s.puts ++ [a] } := by
      rw [Memory.iePut, Refs.drop_eq alive]
      rfl
    rw [List.map_cons, List.foldlM_cons, put]
    refine (ih fun b => ?_).trans ?_
    · have before := enough b
      have one := update_sub_one alive b
      rw [split] at before
      dsimp only
      omega
    · have left : (fun b => Function.update s.refs.refcnt a (s.refs.refcnt a - 1) b - l.count b) =
          fun b => s.refs.refcnt b - (a :: l).count b := by
        funext b
        have one := update_sub_one alive b
        rw [split]
        omega
      simp only [left, List.append_assoc, List.singleton_append]

theorem Sound.iesFlush (sound : Sound s c) (i : ι) : ∃ t, s.iesFlush i = .ok t ∧ Sound t (c.flush i) := by
  refine ⟨_, by rw [Memory.iesFlush, (sound.lists i).cells, iePut_all _ (sound.enough i)]; rfl, ?_⟩
  apply sound.store (Holds.nil _) (congrArg (· ++ c.lists i) sound.puts)
  · intro b
    have counted := sound.counted b
    have enough := sound.enough i b
    simp only [List.count_nil]
    omega
  · exact sound.owned

/-! ## Copies -/

/-- Appends what another list holds, one element after the other. -/
theorem Sound.adds (apart : src ≠ i) (l : List α) : ∀ {s : Memory ι α} {c : Ledger ι α}, Sound s c →
    (∀ a ∈ l, a ∈ c.lists src) → (c.lists i).length + l.length ≤ numIes →
    ∃ t, (l.map some).foldlM (fun s cell => s.iesAdd i cell) s = .ok t ∧ Sound t (c.set i (c.lists i ++ l)) := by
  induction l with
  | nil =>
    intro s c sound held room
    exact ⟨s, rfl, by simpa using sound⟩
  | cons a l ih =>
    intro s c sound held room
    simp only [List.length_cons] at room
    obtain ⟨t, added, sound⟩ := sound.iesAdd (sound.alive (held a List.mem_cons_self)) (i := i) (by omega)
    obtain ⟨u, rest, sound⟩ := ih sound (fun b later => by simpa [apart] using held b (List.mem_cons_of_mem _ later))
      (by simp only [Ledger.set_lists, List.length_append, List.length_singleton]; omega)
    refine ⟨u, ?_, by simpa using sound⟩
    rw [List.map_cons, List.foldlM_cons, added]
    exact rest

theorem Sound.iesCopy (sound : Sound s c) {src : Option ι} (apart : src ≠ some i) :
    ∃ t, s.iesCopy i src = .ok t ∧ Sound t (c.step ie (.copy i src apart)) := by
  cases src with
  | none => exact ⟨s, rfl, sound⟩
  | some src =>
    have other : src ≠ i := fun same => apart (congrArg some same)
    obtain ⟨t, flushed, sound⟩ := sound.iesFlush i
    have empty : (c.flush i).lists i = [] := Function.update_self ..
    have kept : (c.flush i).lists src = c.lists src := Function.update_of_ne other ..
    have few : (c.lists src).length ≤ numIes := kept ▸ sound.length_le src
    obtain ⟨u, added, copied⟩ := sound.adds other (c.lists src) (fun a member => kept ▸ member) (by simpa [empty] using few)
    refine ⟨u, ?_, by simpa [Ledger.step, empty] using copied⟩
    have cells := (sound.lists src).cells
    rw [kept] at cells
    rw [Memory.iesCopy, flushed]
    change ((List.range (t.ies src).count).map (t.ies src).ies).foldlM _ t = _
    rw [cells]
    exact added

/-! ## Merges -/

/-- An element is appended unless it is a Cause whose value the list has. -/
theorem Sound.mergeTurn_eq (sound : Sound s c) :
    s.mergeTurn ie i (some a) = if known ie (c.lists i) a then .ok s else s.iesAdd i (some a) := by
  simp only [Memory.mergeTurn, (sound.lists i).cells, hasCause_eq, known]
  by_cases cause : (ie a).id = .cause
  · simp only [cause, if_true, decide_true, Bool.true_and]
    rfl
  · simp only [cause, if_false, decide_false, Bool.false_and]
    rfl

omit [DecidableEq ι] in
/-- The cell of a turn. -/
theorem Sound.cell_eq (sound : Sound s c) {k : Nat} {rest : List α} (next : (c.lists i).drop k = a :: rest) :
    k < (s.ies i).count ∧ (s.ies i).ies k = some a ∧ (c.lists i).drop (k + 1) = rest := by
  have below : k < (c.lists i).length := by
    by_contra beyond
    rw [List.drop_eq_nil_of_le (Nat.not_lt.mp beyond)] at next
    cases next
  have here := List.drop_eq_getElem_cons below
  rw [next] at here
  obtain ⟨same, rfl⟩ := List.cons.inj here
  have inside : k < (s.ies i).count := sound.count_eq i ▸ below
  refine ⟨inside, ?_, rfl⟩
  rw [(sound.lists i).cell k inside, List.getElem?_eq_getElem below, same]

/-- The rest of another list is merged. -/
theorem Sound.mergeFrom (apart : src ≠ i) (turns : Nat) : ∀ (k : Nat) {s : Memory ι α} {c : Ledger ι α}, Sound s c →
    (c.lists src).length ≤ k + turns → (c.lists i).length + ((c.lists src).drop k).length ≤ numIes →
    ∃ t, Memory.mergeFrom ie i src turns k s = .ok t ∧ Sound t (c.set i (merged ie (c.lists i) ((c.lists src).drop k))) := by
  induction turns with
  | zero =>
    intro k s c sound few room
    refine ⟨s, rfl, ?_⟩
    have done : (c.lists src).drop k = [] := List.drop_eq_nil_of_le few
    simpa [done, merged] using sound
  | succ turns ih =>
    intro k s c sound few room
    cases next : (c.lists src).drop k with
    | nil =>
      have done : ¬k < (s.ies src).count := by
        rw [sound.count_eq src]
        exact Nat.not_lt.mpr (List.drop_eq_nil_iff.mp next)
      exact ⟨s, if_neg done, by simpa [merged] using sound⟩
    | cons a rest =>
      -- the list that is read is not the one that grows
      obtain ⟨below, cell, tail⟩ := sound.cell_eq next
      rw [next, List.length_cons] at room
      rw [Memory.mergeFrom, if_pos below, cell, merged_cons]
      by_cases there : known ie (c.lists i) a
      · rw [sound.mergeTurn_eq, if_pos there, if_pos there]
        have later := ih (k + 1) sound (by omega) (by rw [tail]; omega)
        rw [tail] at later
        exact later
      · have member : a ∈ c.lists src := List.mem_of_mem_drop (next ▸ List.mem_cons_self)
        obtain ⟨t, added, sound'⟩ := sound.iesAdd (sound.alive member) (i := i) (by omega)
        rw [sound.mergeTurn_eq, if_neg there, added, if_neg there]
        have later := ih (k + 1) sound' (by simp only [Ledger.set_other _ apart]; omega)
          (by simp only [Ledger.set_other _ apart, Ledger.set_lists, tail, List.length_append, List.length_singleton]; omega)
        simp only [Ledger.set_other _ apart, Ledger.set_lists, Ledger.set_set, tail] at later
        exact later

/-- A list of Causes is merged into itself: it has all their values. -/
theorem Sound.mergeFrom_causes (sound : Sound s c) (turns : Nat) : ∀ k : Nat,
    (∀ a ∈ (c.lists i).drop k, (ie a).id = .cause) → Memory.mergeFrom ie i i turns k s = .ok s := by
  induction turns with
  | zero => exact fun k causes => rfl
  | succ turns ih =>
    intro k causes
    cases next : (c.lists i).drop k with
    | nil =>
      apply if_neg
      rw [sound.count_eq i]
      exact Nat.not_lt.mpr (List.drop_eq_nil_iff.mp next)
    | cons a rest =>
      obtain ⟨below, cell, tail⟩ := sound.cell_eq next
      have member : a ∈ c.lists i := List.mem_of_mem_drop (next ▸ List.mem_cons_self)
      have cause : (ie a).id = .cause := causes a (next ▸ List.mem_cons_self)
      rw [Memory.mergeFrom, if_pos below, cell, sound.mergeTurn_eq, if_pos (known_of_mem ie member cause)]
      refine ih (k + 1) fun b later => causes b ?_
      rw [next]
      exact List.mem_cons_of_mem _ (tail ▸ later)

/-- Another element is behind itself again and again, until the list is full. -/
theorem Sound.mergeFrom_full (turns : Nat) : ∀ (k : Nat) {s : Memory ι α} {c : Ledger ι α}, Sound s c → numIes ≤ k + turns →
    (∃ a ∈ (c.lists i).drop k, (ie a).id ≠ .cause) → Memory.mergeFrom ie i i turns k s = .error .capacity := by
  induction turns with
  | zero =>
    intro k s c sound few ⟨a, member, other⟩
    have done : (c.lists i).drop k = [] := List.drop_eq_nil_of_le ((sound.length_le i).trans few)
    rw [done] at member
    cases member
  | succ turns ih =>
    intro k s c sound few ⟨a, member, other⟩
    cases next : (c.lists i).drop k with
    | nil => rw [next] at member; cases member
    | cons b rest =>
      obtain ⟨below, cell, tail⟩ := sound.cell_eq next
      have there : b ∈ c.lists i := List.mem_of_mem_drop (next ▸ List.mem_cons_self)
      have enough : numIes ≤ k + 1 + turns := by omega
      rw [next] at member
      rw [Memory.mergeFrom, if_pos below, cell]
      by_cases has : known ie (c.lists i) b
      · rw [sound.mergeTurn_eq, if_pos has]
        have cause := cause_of_known ie has
        refine ih (k + 1) sound enough ⟨a, ?_, other⟩
        obtain rfl | later := List.mem_cons.mp member
        · exact absurd cause other
        · exact tail ▸ later
      · rw [sound.mergeTurn_eq, if_neg has]
        by_cases room : (c.lists i).length < numIes
        · obtain ⟨t, added, sound'⟩ := sound.iesAdd (sound.alive there) room
          rw [added]
          -- either it is still ahead, or it has just been appended
          refine ih (k + 1) sound' enough ⟨a, ?_, other⟩
          have inside : k + 1 ≤ (c.lists i).length := sound.count_eq i ▸ below
          rw [Ledger.set_lists, List.drop_append_of_le_length inside, tail]
          obtain rfl | later := List.mem_cons.mp member
          · exact List.mem_append_right _ List.mem_cons_self
          · exact List.mem_append_left _ later
        · rw [sound.iesAdd_full room]
          rfl

theorem Sound.iesMerge (sound : Sound s c) (i : ι) (src : Option ι) :
    (∃ t, s.iesMerge ie i src = .ok t ∧ Sound t (c.step ie (.merge i src))) ∨ s.iesMerge ie i src = .error .capacity := by
  cases src with
  | none => exact .inl ⟨s, rfl, sound⟩
  | some src =>
    rw [Memory.iesMerge]
    by_cases room : (s.ies i).count + (s.ies src).count < numIes
    · rw [if_pos room]
      rw [sound.count_eq i, sound.count_eq src] at room
      by_cases apart : src = i
      · subst apart
        by_cases causes : ∀ a ∈ c.lists src, (ie a).id = .cause
        · refine .inl ⟨s, sound.mergeFrom_causes ie numIes 0 causes, ?_⟩
          have same := merged_known ie _ _ fun a member => known_of_mem ie member (causes a member)
          simpa [Ledger.step, same] using sound
        · push Not at causes
          exact .inr (Sound.mergeFrom_full ie numIes 0 sound (Nat.le_add_left _ _) causes)
      · have turns : (c.lists src).length ≤ 0 + numIes := (sound.length_le src).trans (Nat.le_add_left _ _)
        exact .inl (Sound.mergeFrom ie apart numIes 0 sound turns (by simpa using room.le))
    · exact .inr (if_neg room)

/-! ## An element removed -/

/-- What the inner loop of `q931_ies_del`, and the count that is one less, leave of the elements behind the one that is removed. -/
def shifted : List α → List α
  | [] => []
  | b :: rest => (b :: b :: rest).dropLast

omit [DecidableEq α] in
theorem shifted_eq_iff (back : List α) : shifted back = back ↔ ∀ x ∈ back, ∀ y ∈ back, x = y := by
  cases back with
  | nil => simp [shifted]
  | cons b rest =>
    rw [shifted, List.dropLast_cons_cons, List.cons.injEq, dropLast_cons_eq_iff]
    constructor
    · rintro ⟨-, same⟩
      have all : ∀ x ∈ b :: rest, x = b := List.forall_mem_cons.mpr ⟨rfl, same⟩
      exact fun x first y second => (all x first).trans (all y second).symm
    · exact fun same => ⟨rfl, fun x later => same x (List.mem_cons_of_mem _ later) b List.mem_cons_self⟩

omit [DecidableEq α] in
theorem same_iff_length {back : List α} (distinct : back.Nodup) : (∀ x ∈ back, ∀ y ∈ back, x = y) ↔ back.length ≤ 1 := by
  rcases back with _ | ⟨b, _ | ⟨d, rest⟩⟩
  · simp
  · simp
  · refine iff_of_false (fun same => ?_) (by simp)
    have equal : b = d := same b List.mem_cons_self d (List.mem_cons_of_mem _ List.mem_cons_self)
    exact (List.nodup_cons.mp distinct).1 (equal ▸ List.mem_cons_self)

omit [DecidableEq α] in
/-- The loop does in its first turn what it does in all of them. -/
theorem shift_eq (cells : Nat → Option α) (count k : Nat) :
    Memory.shift cells count k = if k < count - 1 then Function.update cells k (cells (k + 1)) else cells := by
  have again (js : List Nat) : js.foldl (fun cells _j => Function.update cells k (cells (k + 1)))
      (Function.update cells k (cells (k + 1))) = Function.update cells k (cells (k + 1)) := by
    induction js with
    | nil => rfl
    | cons j js ih =>
      have next : k + 1 ≠ k := Nat.succ_ne_self k
      simpa [Function.update_of_ne next] using ih
  unfold Memory.shift
  cases turns : count - 1 - k with
  | zero =>
    rw [if_neg (by omega)]
    rfl
  | succ n =>
    rw [if_pos (by omega), List.range'_succ, List.foldl_cons]
    exact again _

omit [Fintype ι] in
/-- The elements behind the one that is removed are left as the loop leaves them. -/
theorem iesDel_eq {front back : List α} (holds : Holds (s.ies i).ies (s.ies i).count (front ++ a :: back))
    (first : a ∉ front) (alive : 0 < s.refs.refcnt a) :
    ∃ ies : Ies α, Holds ies.ies ies.count (front ++ shifted back) ∧ ies.count + 1 = (s.ies i).count ∧
      s.iesDel i a = .ok ({ s with
        refs := { s.refs with refcnt := Function.update s.refs.refcnt a (s.refs.refcnt a - 1) }
        puts := s.puts ++ [a] }.store i ies) := by
  have length := holds.length
  simp only [List.length_append, List.length_cons] at length
  have bounded : (s.ies i).count - 1 ≤ numIes := (Nat.sub_le _ _).trans (s.ies i).bounded
  refine ⟨⟨Memory.shift (s.ies i).ies (s.ies i).count front.length, (s.ies i).count - 1, bounded⟩, ?_, ?_, ?_⟩
  · dsimp only
    rw [shift_eq]
    cases back with
    | nil =>
      rw [if_neg (by simp only [List.length_nil] at length; omega), shifted, List.append_nil]
      exact holds.pop
    | cons b rest =>
      rw [if_pos (by simp only [List.length_cons] at length; omega)]
      exact holds.overwrite
  · dsimp only
    omega
  · simp only [Memory.iesDel, holds.find first, Memory.iePut, Refs.drop_eq alive]
    rfl

omit [DecidableEq ι] [Fintype ι] in
theorem behind_eq {front back : List α} (first : a ∉ front) : behind a (front ++ a :: back) = back := by
  induction front with
  | nil => simp [behind]
  | cons b front ih =>
    have other : b ≠ a := fun same => first (same ▸ List.mem_cons_self)
    have later : a ∉ front := fun there => first (List.mem_cons_of_mem _ there)
    simpa [behind, other] using ih later

theorem Sound.iesDel (sound : Sound s c) (i : ι) (a : α) : ∃ t, s.iesDel i a = .ok t ∧
    (Sound t (c.step ie (.del i a)) ↔ ∀ x ∈ behind a (c.lists i), ∀ y ∈ behind a (c.lists i), x = y) := by
  by_cases member : a ∈ c.lists i
  · obtain ⟨front, back, split, first⟩ := List.eq_append_cons_of_mem member
    have holds := sound.lists i
    rw [split] at holds
    have alive := sound.alive member
    obtain ⟨ies, left, -, removed⟩ := iesDel_eq holds first alive
    have erased : (c.lists i).erase a = front ++ back := by
      rw [split, List.erase_append_right _ first, List.erase_cons_head]
    refine ⟨_, removed, ?_⟩
    rw [Ledger.step, if_pos member, erased, split, behind_eq first, ← shifted_eq_iff]
    constructor
    · intro after
      have right := after.lists i
      simp only [Memory.store, Function.update_self] at right
      exact List.append_cancel_left (left.unique right)
    · intro same
      rw [same] at left
      apply sound.store left (congrArg (· ++ [a]) sound.puts)
      · intro b
        have counted := sound.counted b
        have one := update_sub_one alive b
        have places : (front ++ a :: back).count b = (front ++ back).count b + [a].count b := by
          rw [← List.count_append]
          exact (List.perm_middle.trans (List.perm_append_singleton a _).symm).count_eq b
        rw [split, places]
        dsimp only
        omega
      · exact sound.owned
  · have absent : behind a (c.lists i) = [] := by
      have all : (c.lists i).dropWhile (· ≠ a) = [] := by
        apply List.dropWhile_eq_nil_iff.mpr
        intro b there
        simpa using fun same : b = a => member (same ▸ there)
      rw [behind, all, List.tail_nil]
    refine ⟨s, ?_, ?_⟩
    · simp only [Memory.iesDel, (sound.lists i).find_none member]
    · rw [Ledger.step, if_neg member, absent]
      exact iff_of_true sound nofun

/-! ## Runs -/

theorem Sound.release (sound : Sound s c) (owns : 0 < s.refs.due a) : ∃ t, s.step ie (.release a) = .ok t ∧ Sound t c := by
  have counted := sound.counted a
  have alive : 0 < s.refs.refcnt a := by omega
  refine ⟨{ s with
    refs := {
      refcnt := Function.update s.refs.refcnt a (s.refs.refcnt a - 1)
      due := Function.update s.refs.due a (s.refs.due a - 1) } }, ?_, sound.lists, sound.puts, ?_, ?_⟩
  · simp only [Memory.step, if_neg (not_le.mpr owns), Refs.put_eq alive]
    rfl
  · intro b
    have before := sound.counted b
    by_cases here : b = a
    · subst here
      simp only [Function.update_self]
      omega
    · simpa [Function.update_of_ne here] using before
  · intro b
    have before := sound.owned b
    by_cases here : b = a
    · subst here
      simp only [Function.update_self]
      omega
    · simpa [Function.update_of_ne here] using before

/-- A call that fits is answered by what the lists should hold, or stops where it may. -/
theorem Sound.step (sound : Sound s c) (op : Op ι α) (fits : Fits (s, c) op) :
    (∃ t, s.step ie op = .ok t ∧ Sound t (c.step ie op)) ∨ s.step ie op = .error .capacity ∨ s.step ie op = .error .caller := by
  cases op with
  | add i a =>
    by_cases gone : s.refs.refcnt a = 0
    · exact .inr (.inr (if_pos gone))
    · rw [Memory.step, if_neg gone]
      by_cases room : (c.lists i).length < numIes
      · exact .inl (sound.iesAdd (Nat.pos_of_ne_zero gone) room)
      · exact .inr (.inl (sound.iesAdd_full room))
  | del i a =>
    obtain ⟨t, removed, iff⟩ := sound.iesDel ie i a
    exact .inl ⟨t, removed, iff.mpr fits⟩
  | merge i src => exact (sound.iesMerge ie i src).imp_right .inl
  | copy i src apart => exact .inl (sound.iesCopy ie apart)
  | flush i => exact .inl (sound.iesFlush i)
  | release a =>
    by_cases owns : s.refs.due a ≤ 0
    · exact .inr (.inr (if_pos owns))
    · exact .inl (sound.release ie (not_le.mp owns))

theorem step_sound_iff (sound : Sound s c) (op : Op ι α) :
    (∀ t, IeLists.step ie (s, c) op = .ok t → Sound t.1 t.2) ∧
      (∀ stop, IeLists.step ie (s, c) op = .error stop → ¬stop.Broken) ↔ Fits (s, c) op := by
  constructor
  · rintro ⟨kept, -⟩
    cases op with
    | del i a =>
      obtain ⟨t, removed, iff⟩ := sound.iesDel ie i a
      have took : IeLists.step ie (s, c) (.del i a) = .ok (t, c.step ie (.del i a)) := by
        rw [IeLists.step, Memory.step, removed]
        rfl
      exact iff.mp (kept _ took)
    | _ => trivial
  · intro fits
    obtain ⟨t, took, after⟩ | capacity | caller := sound.step ie op fits
    · simp only [IeLists.step, took]
      exact ⟨fun u same => by cases same; exact after, fun stop no => by cases no⟩
    · simp only [IeLists.step, capacity]
      exact ⟨fun u no => (by cases no), fun stop same => by cases same; exact id⟩
    · simp only [IeLists.step, caller]
      exact ⟨fun u no => (by cases no), fun stop same => by cases same; exact id⟩

omit [DecidableEq ι] in
theorem start_sound (owned : α → Nat) (cells : ι → Nat → Option α) :
    Sound (start owned cells).1 (start owned cells).2 where
  lists i := Holds.nil _
  puts := rfl
  counted a := by simp [start, total]
  owned a := Int.natCast_nonneg _

omit [Fintype ι] in
theorem removes_iff (holds : Holds (s.ies i).ies (s.ies i).count l) (distinct : l.Nodup) (member : a ∈ l)
    (alive : 0 < s.refs.refcnt a) : Removes s i l a ↔ (behind a l).length ≤ 1 := by
  obtain ⟨front, back, rfl, first⟩ := List.eq_append_cons_of_mem member
  obtain ⟨ies, left, one, removed⟩ := iesDel_eq holds first alive
  have others : (front ++ a :: back).filter (· != a) = front ++ back := by
    rw [← distinct.erase_eq_filter, List.erase_append_right _ first, List.erase_cons_head]
  have distinct_back : back.Nodup := ((List.nodup_append.mp distinct).2.1).of_cons
  rw [behind_eq first, ← same_iff_length distinct_back, ← shifted_eq_iff, Removes, others]
  constructor
  · rintro ⟨t, took, right, -⟩
    rw [removed] at took
    cases took
    simp only [Memory.store, Function.update_self] at right
    exact List.append_cancel_left (left.unique right)
  · intro same
    rw [same] at left
    refine ⟨_, removed, ?_, ?_⟩
    · simpa [Memory.store] using left
    · simpa [Memory.store] using one

end Soundness

/-- From a list of distinct elements one is removed if it is the last or the last but one. Whatever is
called in whatever order, the lists hold what they should as long as behind each element removed all are
the same. -/
theorem lists_hold_iff [DecidableEq ι] [DecidableEq α] [Fintype ι] :
    (∀ (s : Memory ι α) (i : ι) (l : List α), Holds (s.ies i).ies (s.ies i).count l → l.Nodup →
      ∀ a ∈ l, 0 < s.refs.refcnt a → (Removes s i l a ↔ (behind a l).length ≤ 1)) ∧
    ∀ (owned : α → Nat) (cells : ι → Nat → Option α) (ops : List (Op ι α)),
      (∀ before, before <+: ops → ∀ s, before.foldlM (step ie) (start owned cells) = .ok s → Sound s.1 s.2) ∧
        (∀ stop, ops.foldlM (step ie) (start owned cells) = .error stop → ¬stop.Broken) ↔
      Throughout (taken (step ie)) Fits (start owned cells) ops := by
  refine ⟨fun s i l holds distinct a member alive => removes_iff holds distinct member alive, fun owned cells ops => ?_⟩
  exact foldlM_good_iff (fun _ => True) (fun s : Memory ι α × Ledger ι α => Sound s.1 s.2) Stop.Broken
    (fun _ sound => step_sound_iff ie sound _) (fun _ _ => trivial) ops trivial (start_sound owned cells)

/-- Two lists of the elements 0 to 2. -/
def three : Memory Bool Nat where
  refs := ⟨fun _ => 2, fun _ => 0⟩
  ies _ := ⟨some, 3, by decide⟩

theorem three_holds (i : Bool) : Holds (three.ies i).ies (three.ies i).count [0, 1, 2] :=
  ⟨rfl, fun k below => by match k, below with | 0, _ | 1, _ | 2, _ => rfl⟩

/-- From 10 on, elements are Causes. -/
def numbered (a : Nat) : Ie := if a < 10 then ⟨.display, 0⟩ else ⟨.cause, a % 10⟩

/-- The second of three is removed; and a list is merged, has its last but one removed, is copied and is flushed. -/
theorem second_of_three_is_removed : Removes three false [0, 1, 2] 1 ∧
    let ops : List (Op Bool Nat) := [.add false 0, .add false 11, .add true 21, .add true 3, .merge false (some true),
      .del false 11, .copy true (some false) (by decide), .flush false]
    (∀ before, before <+: ops → ∀ s, before.foldlM (step numbered) (start (fun _ => 1) fun _ _ => none) = .ok s → Sound s.1 s.2) ∧
      ∀ stop, ops.foldlM (step numbered) (start (fun _ => 1) fun _ _ => none) = .error stop → ¬stop.Broken := by
  have both := @lists_hold_iff Bool Nat numbered _ _ _
  constructor
  · exact (both.1 three false [0, 1, 2] (three_holds false) (by decide) 1 (by decide) (by decide)).mpr (by decide)
  · exact (both.2 _ _ _).mpr (by decide)

/-- When the first of three is removed, the second is listed twice and the last is lost. -/
theorem first_of_three_is_not_removed :
    (∃ t, three.iesDel false 0 = .ok t ∧ Holds (t.ies false).ies (t.ies false).count [1, 1]) ∧
    ¬∀ (s : Memory Bool Nat) (i : Bool) (l : List Nat), Holds (s.ies i).ies (s.ies i).count l → l.Nodup →
      ∀ a ∈ l, 0 < s.refs.refcnt a → Removes s i l a := by
  have twice : Holds (Memory.shift some 3 0) 2 [1, 1] := ⟨rfl, fun k below => by match k, below with | 0, _ | 1, _ => rfl⟩
  refine ⟨⟨_, rfl, twice⟩, fun claim => ?_⟩
  obtain ⟨t, took, others, -⟩ := claim three false [0, 1, 2] (three_holds false) (by decide) 0 (by decide) (by decide)
  cases took
  exact absurd (twice.unique others) (by decide)

end Vstuff.Q931.IeLists
