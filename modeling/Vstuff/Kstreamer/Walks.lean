import Vstuff.Kstreamer.Pipeline
import Vstuff.Lib.Pairs

/-! The two walks over the channels of a pipeline, as traces of paired calls:
the pairs a walk up takes and a walk down gives back, and where a walk that
fails has got to. -/
namespace Vstuff.Kstreamer
open Transition Pairs
set_option linter.all false

/-- A pair of callbacks: the rung it belongs to and whose it is. -/
abbrev Key := Rung × Place

def Rung.higher : Rung → List Rung
  | .connection => [.opening, .flow]
  | .opening => [.flow]
  | .flow => []

/-- The pairs that must not be in effect when this one is taken back. -/
def rests (key : Key) : List Key := key.1.higher.map (·, key.2)

theorem Rung.higher_above {k h : Rung} (above : h ∈ k.higher) : k.above.rank < h.above.rank := by
  revert above
  cases k <;> cases h <;> decide

theorem rests_apart {key o : Key} (above : o ∈ rests key) : o.1 ≠ key.1 := by
  obtain ⟨h, member, rfl⟩ := List.mem_map.mp above
  intro (same : h = key.1)
  rw [same] at member
  exact Nat.lt_irrefl _ (Rung.higher_above member)

def Callback.rung : Callback → Rung
  | .raise k _ _ => k
  | .lower k _ => k

/-- What a callback says about its pair. -/
def Callback.call : Callback → Call Key
  | .raise k w answer => .raise (k, w) (decide (0 ≤ answer))
  | .lower k w => .lower (k, w)

/-- The pairs a turn of the loop takes up, in its order. -/
def Chan.keys (chan : Chan) (k : Rung) : List Key :=
  (if chan.from.raises k then [(k, .node chan.id)] else []) ++
    (if chan.ops.raises k then [(k, .chan chan.id)] else [])

/-- The pair of the node behind the last channel. -/
def ending (k : Rung) : Option Chan → List Key
  | none => []
  | some prev => if prev.to.raises k then [(k, .last prev.id)] else []

/-- Every pair of the list at this rung. -/
def roster (k : Rung) (prev : Option Chan) (chans : List Chan) : List Key :=
  chans.flatMap (·.keys k) ++ ending k (chans.getLast?.or prev)

/-- The drivers of a channel and of the nodes at its ends provide their
callbacks in pairs. -/
structure Chan.Paired (chan : Chan) : Prop where
  ops : chan.ops.Paired
  «from» : chan.from.Paired
  «to» : chan.to.Paired

/-- A list of channels a pipeline can hold: each is in it once. -/
structure Linked (chans : List Chan) : Prop where
  distinct : (chans.map Chan.id).Nodup
  paired : ∀ chan ∈ chans, chan.Paired

/-- The turn of the loop fails. -/
def Chan.fails (chan : Chan) (k : Rung) (answers : Answers) : Prop :=
  chan.from.fails k (.node chan.id) answers ∨ chan.ops.fails k (.chan chan.id) answers

instance (chan : Chan) (k : Rung) (answers : Answers) : Decidable (chan.fails k answers) :=
  inferInstanceAs (Decidable (_ ∨ _))

/-- No callback of the walk fails but behind a channel that has none of this
rung, and the node at the end does not fail. -/
def Recoverable (k : Rung) (answers : Answers) : Option Chan → List Chan → Prop
  | none, [] => True
  | some prev, [] => prev.to.fails k (.last prev.id) answers = false
  | prev, chan :: chans =>
    if chan.fails k answers then prev.map (·.keys k) = some [] else Recoverable k answers (some chan) chans

instance Recoverable.decidable (k : Rung) (answers : Answers) :
    (prev : Option Chan) → (chans : List Chan) → Decidable (Recoverable k answers prev chans)
  | none, [] => inferInstanceAs (Decidable True)
  | some _, [] => inferInstanceAs (Decidable (_ = _))
  | prev, chan :: chans =>
    have := Recoverable.decidable k answers (some chan) chans
    decidable_of_iff
      (if chan.fails k answers then prev.map (·.keys k) = some [] else Recoverable k answers (some chan) chans)
      (by rw [Recoverable])

section walks

variable {k : Rung} {answers : Answers} {chan : Chan} {prev : Option Chan} {chans : List Chan} {up : Key → Bool}

@[simp] theorem Ops.fails_eq {ops : Ops} {w : Place} :
    ops.fails k w answers = (ops.raises k && decide (answers k w < 0)) := rfl

theorem raised_call {ops : Ops} {w : Place} (fine : ops.fails k w answers = false) :
    (Callback.raised ops k w answers).map Callback.call =
      (if ops.raises k then [(k, w)] else []).map (.raise · true) := by
  cases has : ops.raises k with
  | false => simp [Callback.raised, has]
  | true =>
    rw [Ops.fails_eq, has, Bool.true_and, decide_eq_false_iff_not, Int.not_lt] at fine
    simp [Callback.raised, has, Callback.call, fine]

theorem raised_call_refused {ops : Ops} {w : Place} (fails : ops.fails k w answers = true) :
    (Callback.raised ops k w answers).map Callback.call = [.raise (k, w) false] := by
  rw [Ops.fails_eq, Bool.and_eq_true, decide_eq_true_eq] at fails
  simp [Callback.raised, fails.1, Callback.call, fails.2]

theorem lowered_call {ops : Ops} {w : Place} (paired : ops.Paired) :
    (Callback.lowered ops k w).map Callback.call = (if ops.raises k then [(k, w)] else []).map .lower := by
  rw [Callback.lowered, ← paired k]
  split <;> rfl

/-- A turn that succeeds takes up the pairs of its channel. -/
theorem Chan.attempt_done (fine : ¬ chan.fails k answers) :
    (chan.attempt k answers).2 = none ∧
      (chan.attempt k answers).1.map Callback.call = (chan.keys k).map (.raise · true) := by
  obtain ⟨node, ops⟩ := not_or.mp fine
  rw [Bool.not_eq_true] at node ops
  rw [Chan.attempt, node, ops]
  refine ⟨rfl, ?_⟩
  rw [Chan.keys, List.map_append, ← raised_call node, ← raised_call ops, ← List.map_append]
  rfl

theorem Ops.fails_answer {ops : Ops} {w : Place} (fails : ops.fails k w answers = true) : answers k w < 0 := by
  rw [Ops.fails_eq, Bool.and_eq_true, decide_eq_true_eq] at fails
  exact fails.2

theorem Chan.attempt_error (fails : chan.fails k answers) : ∃ err < 0, (chan.attempt k answers).2 = some err := by
  rw [Chan.attempt]
  cases node : chan.from.fails k (.node chan.id) answers with
  | true => exact ⟨_, Ops.fails_answer node, rfl⟩
  | false =>
    have ops := fails.resolve_left (by rw [node]; exact Bool.false_ne_true)
    rw [ops]
    exact ⟨_, Ops.fails_answer ops, rfl⟩

/-- A turn that fails leaves nothing of its own in effect. -/
theorem Chan.attempt_orderly (paired : chan.Paired) (fails : chan.fails k answers)
    (node_free : up (k, .node chan.id) = false) (chan_free : up (k, .chan chan.id) = false)
    (bare : ∀ o ∈ rests (k, .node chan.id), up o = false) :
    Orderly rests up ((chan.attempt k answers).1.map Callback.call) up := by
  rw [Chan.attempt]
  cases node : chan.from.fails k (.node chan.id) answers with
  | true =>
    change Orderly rests up ((Callback.raised chan.from k (.node chan.id) answers).map Callback.call) up
    rw [raised_call_refused node]
    exact Orderly.refused node_free
  | false =>
    have ops := fails.resolve_left (by rw [node]; exact Bool.false_ne_true)
    rw [ops]
    simp only [Bool.false_eq_true, if_false, if_true, List.map_append]
    rw [raised_call node, raised_call_refused ops, lowered_call paired.from]
    cases has : chan.from.raises k with
    | false => simpa using Orderly.refused chan_free
    | true =>
      simp only [if_true, List.map_cons, List.map_nil]
      have took : Orderly rests up [.raise (k, .node chan.id) true] _ := Orderly.took node_free
      have refused : Orderly rests (Function.update up (k, .node chan.id) true) [.raise (k, .chan chan.id) false] _ :=
        Orderly.refused (by rw [Function.update_of_ne (by simp), chan_free])
      have lower : Orderly rests (Function.update up (k, .node chan.id) true) [.lower (k, .node chan.id)] _ :=
        Orderly.lower (Function.update_self ..) fun o above => by
          rw [Function.update_of_ne fun same => rests_apart above (congrArg Prod.fst same)]
          exact bare o above
      have back : Function.update (Function.update up (k, Place.node chan.id) true) (k, .node chan.id) false = up := by
        rw [Function.update_idem, ← node_free, Function.update_eq_self]
      rw [back] at lower
      exact (took.append refused).append lower

theorem walkUp_fails (fails : chan.fails k answers) :
    ∃ err < 0, (chan.attempt k answers).2 = some err ∧
      walkUp k answers prev (chan :: chans) = ((chan.attempt k answers).1, .failed err prev) := by
  obtain ⟨err, negative, error⟩ := Chan.attempt_error fails
  have parts : chan.attempt k answers = ((chan.attempt k answers).1, some err) := by rw [← error]
  refine ⟨err, negative, error, ?_⟩
  rw [walkUp, parts]

theorem walkUp_passes (fine : ¬ chan.fails k answers) :
    walkUp k answers prev (chan :: chans) =
      ((chan.attempt k answers).1 ++ (walkUp k answers (some chan) chans).1, (walkUp k answers (some chan) chans).2) := by
  have parts : chan.attempt k answers = ((chan.attempt k answers).1, none) := by rw [← (Chan.attempt_done fine).1]
  rw [walkUp, parts]

/-- Past the channels whose turn succeeds. -/
theorem walkUp_append {before : List Chan} (fine : ∀ c ∈ before, ¬ c.fails k answers) :
    (walkUp k answers prev (before ++ chans)).1.map Callback.call =
      (before.flatMap (·.keys k)).map (.raise · true) ++
        (walkUp k answers (before.getLast?.or prev) chans).1.map Callback.call ∧
    (walkUp k answers prev (before ++ chans)).2 = (walkUp k answers (before.getLast?.or prev) chans).2 := by
  induction before generalizing prev with
  | nil => simp
  | cons c before ih =>
    obtain ⟨here, later⟩ := List.forall_mem_cons.mp fine
    obtain ⟨calls, ends⟩ := @ih (some c) later
    have last : (c :: before).getLast?.or prev = before.getLast?.or (some c) := by
      cases before <;> simp [List.getLast?_cons]
    rw [List.cons_append, walkUp_passes here, last]
    refine ⟨?_, ends⟩
    rw [List.map_append, calls, (Chan.attempt_done here).2, List.flatMap_cons, List.map_append, List.append_assoc]

/-- The walk back stops at the channel it was told to. -/
theorem walkDown_append {before : List Chan} {stop_at : Option Nat} (free : ∀ c ∈ before, some c.id ≠ stop_at)
    (paired : ∀ c ∈ before, c.Paired) :
    (walkDown k stop_at prev (before ++ chans)).map Callback.call =
      (before.flatMap fun c => (c.keys k).reverse).map .lower ++
        (walkDown k stop_at (before.getLast?.or prev) chans).map Callback.call := by
  induction before generalizing prev with
  | nil => simp
  | cons c before ih =>
    obtain ⟨here, later⟩ := List.forall_mem_cons.mp free
    obtain ⟨own, others⟩ := List.forall_mem_cons.mp paired
    have last : (c :: before).getLast?.or prev = before.getLast?.or (some c) := by
      cases before <;> simp [List.getLast?_cons]
    have keys : (c.keys k).reverse.map Call.lower =
        (Callback.lowered c.ops k (.chan c.id) ++ Callback.lowered c.from k (.node c.id)).map Callback.call := by
      rw [List.map_append, lowered_call own.ops, lowered_call own.from, Chan.keys, List.reverse_append, List.map_append]
      split <;> split <;> rfl
    rw [List.cons_append, walkDown, if_neg here, last, List.map_append, @ih (some c) later others, ← keys,
      List.flatMap_cons, List.map_append, List.append_assoc]

end walks

section keys

variable {k : Rung} {answers : Answers} {chan : Chan} {prev : Option Chan} {chans : List Chan} {key : Key}

theorem Chan.mem_keys : key ∈ chan.keys k ↔
    chan.from.raises k ∧ key = (k, .node chan.id) ∨ chan.ops.raises k ∧ key = (k, .chan chan.id) := by
  rw [Chan.keys, List.mem_append]
  cases chan.from.raises k <;> cases chan.ops.raises k <;> simp

theorem mem_ending : key ∈ ending k prev ↔ ∃ last, prev = some last ∧ last.to.raises k ∧ key = (k, .last last.id) := by
  cases prev with
  | none => simp [ending]
  | some last => cases has : last.to.raises k <;> simp [ending, has]

theorem Chan.keys_nodup : (chan.keys k).Nodup := by
  rw [Chan.keys]
  cases chan.from.raises k <;> cases chan.ops.raises k <;> simp

/-- No other channel of the list has a pair of this one. -/
theorem keys_nodup (distinct : (chans.map Chan.id).Nodup) : (chans.flatMap (·.keys k)).Nodup := by
  refine List.nodup_flatMap.mpr ⟨fun _ _ => Chan.keys_nodup, ?_⟩
  refine (List.pairwise_map.mp distinct).imp fun {a b} apart => ?_
  intro key left right
  obtain ⟨-, here⟩ | ⟨-, here⟩ := Chan.mem_keys.mp left <;> obtain ⟨-, there⟩ | ⟨-, there⟩ := Chan.mem_keys.mp right <;>
    simp_all

theorem roster_nodup (distinct : (chans.map Chan.id).Nodup) : (roster k prev chans).Nodup := by
  refine List.nodup_append'.mpr ⟨keys_nodup distinct, ?_, ?_⟩
  · cases chans.getLast?.or prev with
    | none => exact List.nodup_nil
    | some last => cases has : last.to.raises k <;> simp [ending, has]
  · intro key left right
    obtain ⟨chan, -, here⟩ := List.mem_flatMap.mp left
    obtain ⟨last, -, -, rfl⟩ := mem_ending.mp right
    obtain ⟨-, there⟩ | ⟨-, there⟩ := Chan.mem_keys.mp here <;> cases there

theorem mem_roster_rung (member : key ∈ roster k prev chans) : key.1 = k := by
  obtain here | here := List.mem_append.mp member
  · obtain ⟨chan, -, here⟩ := List.mem_flatMap.mp here
    obtain ⟨-, rfl⟩ | ⟨-, rfl⟩ := Chan.mem_keys.mp here <;> rfl
  · obtain ⟨last, -, -, rfl⟩ := mem_ending.mp here
    rfl

theorem back_perm : (chans.flatMap fun chan => (chan.keys k).reverse).Perm (chans.flatMap (·.keys k)) := by
  induction chans with
  | nil => exact .nil
  | cons chan chans ih => exact (List.reverse_perm _).append ih

/-- A whole walk up takes up every pair of the list. -/
theorem walkUp_whole (fine : ∀ chan ∈ chans, ¬ chan.fails k answers)
    (last : ∀ chan, chans.getLast? = some chan → chan.to.fails k (.last chan.id) answers = false) :
    (walkUp k answers none chans).2 = .done ∧
      (walkUp k answers none chans).1.map Callback.call = (roster k none chans).map (.raise · true) := by
  obtain ⟨calls, ends⟩ := @walkUp_append k answers none [] chans fine
  rw [List.append_nil] at calls ends
  rw [calls, ends, roster, List.map_append]
  cases here : chans.getLast? with
  | none => exact ⟨rfl, rfl⟩
  | some chan => exact ⟨rfl, congrArg _ (raised_call (last chan here))⟩

/-- A whole walk down takes back every pair of the list. -/
theorem walkDown_whole (paired : ∀ chan ∈ chans, chan.Paired) :
    ∃ keys : List Key, keys.Perm (roster k none chans) ∧ (walkDown k none none chans).map Callback.call = keys.map .lower := by
  have calls := @walkDown_append k none [] chans none (fun _ _ => nofun) paired
  rw [List.append_nil] at calls
  refine ⟨_, back_perm.append_right (ending k (chans.getLast?.or none)), ?_⟩
  rw [calls, List.map_append]
  cases here : chans.getLast? with
  | none => rfl
  | some chan => exact congrArg _ (lowered_call (paired chan (List.mem_of_getLast? here)).to)

end keys

end Vstuff.Kstreamer
