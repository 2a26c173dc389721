import Vstuff.Kstreamer.Pipeline
import Mathlib.Data.List.Forall2

/-! What the walks over the channels of a pipeline tell a driver about its
neighbours. Every walk keeps the channel before its cursor in `prev_chan`, and
calls the node at the end once the cursor has left the list. -/
namespace Vstuff.Kstreamer.Neighbours
set_option linter.all false

/-- The callbacks of the seven walks. -/
inductive Hook where
  | connect | disconnect | «open» | close | start | stop | stimulus
  deriving Repr, DecidableEq

/-- struct ks_node: `id` stands for the pointer, `ops` are the callbacks its driver provides. -/
structure Node where
  id : Nat
  ops : List Hook := []
  deriving Repr, DecidableEq

/-- struct ks_chan -/
structure Chan where
  id : Nat
  ops : List Hook := []
  «from» : Node
  «to» : Node
  deriving Repr, DecidableEq

/-- A pointer to a channel: `head` is the head of the list of a pipeline, taken
for a channel by list_entry. -/
inductive Pointer where
  | null
  | chan (id : Nat)
  | head
  deriving Repr, DecidableEq

/-- A call of a driver callback with its arguments. -/
inductive Call where
  | chan (hook : Hook) (id : Nat)
  | node (hook : Hook) (id : Nat) (outgoing incoming : Pointer)
  deriving Repr, DecidableEq

def Call.isNode : Call → Bool
  | .chan .. => false
  | .node .. => true

def Chan.call (chan : Chan) (hook : Hook) : List Call :=
  if hook ∈ chan.ops then [.chan hook chan.id] else []

def Node.call (node : Node) (hook : Hook) (outgoing incoming : Pointer) : List Call :=
  if hook ∈ node.ops then [.node hook node.id outgoing incoming] else []

/-- `prev_chan` as an argument. -/
def pointer : Option Chan → Pointer
  | none => .null
  | some chan => .chan chan.id

/-- The call behind the loop: the cursor of list_for_each_entry is the head of the list. -/
def finish (hook : Hook) : Option Chan → List Call
  | none => []
  | some prev_chan => prev_chan.to.call hook .null .head

/-- The first negative answer. -/
def failure (answers : Call → Int) (calls : List Call) : Option Int :=
  (calls.map answers).find? (· < 0)

/-- The loop of ks_pipeline_null_to_connected and of the two like it: the calls,
and the error with the channel before the one it came from. -/
def walkUp (hook back : Hook) (answers : Call → Int) :
    Option Chan → List Chan → List Call × Option (Int × Option Chan)
  | prev_chan, [] => (finish hook prev_chan, none)
  | prev_chan, chan :: chans =>
    let node := chan.from.call hook (.chan chan.id) (pointer prev_chan)
    match failure answers node with
    | some err => (node, some (err, prev_chan))
    | none =>
      match failure answers (chan.call hook) with
      | some err =>
        (node ++ chan.call hook ++ chan.from.call back (.chan chan.id) (pointer prev_chan), some (err, prev_chan))
      | none =>
        let rest := walkUp hook back answers (some chan) chans
        (node ++ chan.call hook ++ rest.1, rest.2)

/-- The loop of ks_pipeline_connected_to_null and of the two like it. -/
def walkDown (hook : Hook) (stop_at : Option Nat) : Option Chan → List Chan → List Call
  | prev_chan, [] => finish hook prev_chan
  | prev_chan, chan :: chans =>
    if some chan.id = stop_at then []
    else chan.call hook ++ chan.from.call hook (.chan chan.id) (pointer prev_chan) ++
      walkDown hook stop_at (some chan) chans

/-- ks_pipeline_stimulate, which never sets `prev_chan`. -/
def stimulate (chans : List Chan) : List Call :=
  chans.flatMap fun chan => chan.call .stimulus ++ chan.from.call .stimulus (.chan chan.id) (pointer none)

/-- The walk that makes a callback, over all channels. -/
def Hook.walk (answers : Call → Int) (chans : List Chan) : Hook → List Call
  | .connect => (walkUp .connect .disconnect answers none chans).1
  | .disconnect => walkDown .disconnect none none chans
  | .open => (walkUp .open .close answers none chans).1
  | .close => walkDown .close none none chans
  | .start => (walkUp .start .stop answers none chans).1
  | .stop => walkDown .stop none none chans
  | .stimulus => stimulate chans

/-- ks_pipeline_prev: `before` is what the entry points back to, or NULL for the head. -/
def pipelinePrev (chan : Chan) (before : Pointer) : List Chan → Pointer
  | [] => .null
  | entry :: entries => if entry.id = chan.id then before else pipelinePrev chan (.chan entry.id) entries

/-- ks_pipeline_next -/
def pipelineNext (chan : Chan) : List Chan → Pointer
  | [] => .null
  | entry :: entries => if entry.id = chan.id then pointer entries.head? else pipelineNext chan entries

/-- The channels of a pipeline that is linked end to end; a channel has one list
entry, and so is in it once. -/
structure Path where
  chans : List Chan
  nonempty : chans ≠ []
  distinct : (chans.map Chan.id).Nodup
  linked : chans.IsChain fun chan next => chan.to = next.from

/-- The channel before the i-th one, from zero. -/
def ahead (chans : List Chan) : Nat → Pointer
  | 0 => .null
  | i + 1 => pointer chans[i]?

/-- What the nodes of a path are to be called with. -/
def owed (hook : Hook) (path : Path) : List Call :=
  (path.chans.mapIdx fun i chan => chan.from.call hook (.chan chan.id) (ahead path.chans i)).flatten ++
    (path.chans.getLast path.nonempty).to.call hook .null (pointer (path.chans.getLast path.nonempty))

/-- The calls hand each node its neighbours, and each channel is called once
between the neighbours it can ask for. -/
structure Hands (hook : Hook) (path : Path) (calls : List Call) : Prop where
  nodes : calls.filter Call.isNode = owed hook path
  chans : calls.filter (fun call => !call.isNode) = path.chans.flatMap (·.call hook)
  prev : ∀ i chan, path.chans[i]? = some chan → pipelinePrev chan .null path.chans = ahead path.chans i
  next : ∀ i chan, path.chans[i]? = some chan → pipelineNext chan path.chans = pointer path.chans[i + 1]?

section Walks
variable {hook back : Hook} {answers : Call → Int} {chans : List Chan} {prev_chan : Option Chan}

@[simp] theorem filter_node (node : Node) (outgoing incoming : Pointer) :
    (node.call hook outgoing incoming).filter Call.isNode = node.call hook outgoing incoming := by
  unfold Node.call
  split <;> rfl

@[simp] theorem filter_chan (chan : Chan) : (chan.call hook).filter Call.isNode = [] := by
  unfold Chan.call
  split <;> rfl

@[simp] theorem filter_node_chan (node : Node) (outgoing incoming : Pointer) :
    (node.call hook outgoing incoming).filter (fun call => !call.isNode) = [] := by
  unfold Node.call
  split <;> rfl

@[simp] theorem filter_chan_chan (chan : Chan) :
    (chan.call hook).filter (fun call => !call.isNode) = chan.call hook := by
  unfold Chan.call
  split <;> rfl

/-- The node calls inside the loop, from a channel on. -/
def inLoop (hook : Hook) : Option Chan → List Chan → List Call
  | _, [] => []
  | prev_chan, chan :: chans =>
    chan.from.call hook (.chan chan.id) (pointer prev_chan) ++ inLoop hook (some chan) chans

theorem inLoop_eq : ∀ prev_chan, inLoop hook prev_chan chans =
    (chans.mapIdx fun i chan => chan.from.call hook (.chan chan.id)
      (match i with | 0 => pointer prev_chan | j + 1 => pointer chans[j]?)).flatten := by
  induction chans with
  | nil => exact fun _ => rfl
  | cons chan chans ih =>
    intro prev_chan
    rw [inLoop, List.mapIdx_cons, List.flatten_cons, ih (some chan)]
    congr 3
    funext i next
    cases i <;> rfl

theorem failure_none (fine : ∀ call, 0 ≤ answers call) (calls : List Call) : failure answers calls = none := by
  refine List.find?_eq_none.mpr fun answer member => ?_
  obtain ⟨call, -, rfl⟩ := List.mem_map.mp member
  simpa using fine call

/-- Where no callback fails, a walk up calls every node with the channel before it. -/
theorem walkUp_calls (fine : ∀ call, 0 ≤ answers call) : ∀ prev_chan,
    ((walkUp hook back answers prev_chan chans).1.filter Call.isNode =
      inLoop hook prev_chan chans ++ finish hook (chans.getLast?.or prev_chan)) ∧
    (walkUp hook back answers prev_chan chans).1.filter (fun call => !call.isNode) = chans.flatMap (·.call hook) := by
  have passes (calls : List Call) : failure answers calls = none := failure_none fine calls
  induction chans with
  | nil =>
    intro prev_chan
    cases prev_chan with
    | none => exact ⟨rfl, rfl⟩
    | some prev => exact ⟨filter_node .., filter_node_chan ..⟩
  | cons chan chans ih =>
    intro prev_chan
    obtain ⟨nodes, own⟩ := ih (some chan)
    have last : (chan :: chans).getLast?.or prev_chan = chans.getLast?.or (some chan) := by
      cases chans <;> simp [List.getLast?_cons]
    simp only [walkUp, passes, List.filter_append, nodes, own, last, inLoop, filter_node, filter_chan, filter_node_chan,
      filter_chan_chan, List.nil_append, List.flatMap_cons, List.append_assoc, and_self]

theorem walkDown_calls : ∀ prev_chan,
    ((walkDown hook none prev_chan chans).filter Call.isNode =
      inLoop hook prev_chan chans ++ finish hook (chans.getLast?.or prev_chan)) ∧
    (walkDown hook none prev_chan chans).filter (fun call => !call.isNode) = chans.flatMap (·.call hook) := by
  induction chans with
  | nil =>
    intro prev_chan
    cases prev_chan with
    | none => exact ⟨rfl, rfl⟩
    | some prev => exact ⟨filter_node .., filter_node_chan ..⟩
  | cons chan chans ih =>
    intro prev_chan
    obtain ⟨nodes, own⟩ := ih (some chan)
    have last : (chan :: chans).getLast?.or prev_chan = chans.getLast?.or (some chan) := by
      cases chans <;> simp [List.getLast?_cons]
    simp only [walkDown, reduceCtorEq, if_false, List.filter_append, nodes, own, last, inLoop, filter_node, filter_chan,
      filter_node_chan, filter_chan_chan, List.nil_append, List.flatMap_cons, List.append_assoc, and_self]

theorem stimulate_calls (chans : List Chan) :
    (stimulate chans).filter Call.isNode =
      (chans.flatMap fun chan => chan.from.call .stimulus (.chan chan.id) .null) ∧
    (stimulate chans).filter (fun call => !call.isNode) = chans.flatMap (·.call .stimulus) := by
  unfold stimulate
  induction chans with
  | nil => exact ⟨rfl, rfl⟩
  | cons chan chans ih =>
    simp only [List.flatMap_cons, List.filter_append, filter_node, filter_chan, filter_node_chan, filter_chan_chan,
      List.append_nil, List.nil_append, pointer] at ih ⊢
    exact ⟨congrArg _ ih.1, congrArg _ ih.2⟩

end Walks

section Entries
variable {chans : List Chan}

/-- What is asked of a channel's list entry is answered by its place in the list. -/
theorem pipelinePrev_eq (distinct : (chans.map Chan.id).Nodup) : ∀ before i chan, chans[i]? = some chan →
    pipelinePrev chan before chans = match i with | 0 => before | j + 1 => pointer chans[j]? := by
  induction chans with
  | nil => exact fun _ _ _ at_ => by simp at at_
  | cons entry entries ih =>
    intro before i chan at_
    obtain ⟨fresh, later⟩ := List.nodup_cons.mp distinct
    cases i with
    | zero =>
      obtain rfl : entry = chan := by simpa using at_
      exact if_pos rfl
    | succ i =>
      have other : ¬entry.id = chan.id := by
        intro same
        rw [same] at fresh
        exact fresh (List.mem_map_of_mem (List.mem_of_getElem? at_))
      rw [pipelinePrev, if_neg other, ih later _ i chan at_]
      cases i <;> rfl

theorem pipelineNext_eq (distinct : (chans.map Chan.id).Nodup) : ∀ i chan, chans[i]? = some chan →
    pipelineNext chan chans = pointer chans[i + 1]? := by
  induction chans with
  | nil => exact fun _ _ at_ => by simp at at_
  | cons entry entries ih =>
    intro i chan at_
    obtain ⟨fresh, later⟩ := List.nodup_cons.mp distinct
    cases i with
    | zero =>
      obtain rfl : entry = chan := by simpa using at_
      rw [pipelineNext, if_pos rfl, List.getElem?_cons_succ, List.head?_eq_getElem?]
    | succ i =>
      have other : ¬entry.id = chan.id := by
        intro same
        rw [same] at fresh
        exact fresh (List.mem_map_of_mem (List.mem_of_getElem? at_))
      rw [pipelineNext, if_neg other]
      exact ih later i chan at_

end Entries

/-- Where the nodes behind the first are called with NULL, no such call is owed. -/
theorem null_owed_iff {hook : Hook} {node : Node} {incoming : Pointer} {chans : List Chan} : ∀ prev : Chan,
    (chans.flatMap fun chan => chan.from.call hook (.chan chan.id) .null) =
        inLoop hook (some prev) chans ++ node.call hook .null incoming ↔
      hook ∉ node.ops ∧ ∀ chan ∈ chans, hook ∉ chan.from.ops := by
  induction chans with
  | nil =>
    intro prev
    by_cases has : hook ∈ node.ops <;> simp [inLoop, Node.call, has]
  | cons chan chans ih =>
    intro prev
    by_cases has : hook ∈ chan.from.ops
    · simp [inLoop, Node.call, has, pointer]
    · have skipped (outgoing incoming : Pointer) : chan.from.call hook outgoing incoming = [] := if_neg has
      rw [List.flatMap_cons, inLoop, skipped, skipped, List.nil_append, List.nil_append, ih chan]
      simp [has]

/-- A walk hands the nodes their neighbours where the node at the end has no such callback; the
one that stimulates, where the first node alone has it. -/
theorem neighbours_handed_iff (path : Path) (answers : Call → Int) (fine : ∀ call, 0 ≤ answers call) (hook : Hook) :
    Hands hook path (hook.walk answers path.chans) ↔
      hook ∉ (path.chans.getLast path.nonempty).to.ops ∧
        (hook = .stimulus → ∀ chan ∈ path.chans.tail, hook ∉ chan.from.ops) := by
  have last : path.chans.getLast?.or none = some (path.chans.getLast path.nonempty) := by
    rw [List.getLast?_eq_some_getLast path.nonempty]
    rfl
  have owes : owed hook path = inLoop hook none path.chans ++
      (path.chans.getLast path.nonempty).to.call hook .null (pointer (path.chans.getLast path.nonempty)) := by
    rw [owed, inLoop_eq]
    congr 3
  have handed {calls : List Call}
      (own : calls.filter (fun call => !call.isNode) = path.chans.flatMap (·.call hook)) :
      Hands hook path calls ↔ calls.filter Call.isNode = owed hook path := by
    refine ⟨Hands.nodes, fun nodes => ⟨nodes, own, fun i chan at_ => ?_, pipelineNext_eq path.distinct⟩⟩
    rw [pipelinePrev_eq path.distinct _ i chan at_]
    cases i <;> rfl
  have looped {calls : List Call} (ordinary : hook ≠ .stimulus)
      (nodes : calls.filter Call.isNode = inLoop hook none path.chans ++ finish hook (path.chans.getLast?.or none))
      (own : calls.filter (fun call => !call.isNode) = path.chans.flatMap (·.call hook)) :
      Hands hook path calls ↔
        hook ∉ (path.chans.getLast path.nonempty).to.ops ∧
          (hook = .stimulus → ∀ chan ∈ path.chans.tail, hook ∉ chan.from.ops) := by
    rw [handed own, nodes, owes, last, List.append_cancel_left_eq, finish, Node.call, Node.call]
    by_cases has : hook ∈ (path.chans.getLast path.nonempty).to.ops <;> simp [has, ordinary, pointer]
  cases hook with
  | stimulus =>
    obtain ⟨nodes, own⟩ := stimulate_calls path.chans
    rw [Hook.walk, handed own, nodes, owes]
    generalize path.chans.getLast path.nonempty = final
    obtain ⟨chan, chans, first⟩ := List.exists_cons_of_ne_nil path.nonempty
    rw [first, List.flatMap_cons, inLoop, pointer, List.append_assoc, List.append_cancel_left_eq, null_owed_iff]
    simp
  | connect => exact looped nofun (walkUp_calls fine none).1 (walkUp_calls fine none).2
  | «open» => exact looped nofun (walkUp_calls fine none).1 (walkUp_calls fine none).2
  | start => exact looped nofun (walkUp_calls fine none).1 (walkUp_calls fine none).2
  | disconnect => exact looped nofun (walkDown_calls none).1 (walkDown_calls none).2
  | close => exact looped nofun (walkDown_calls none).1 (walkDown_calls none).2
  | stop => exact looped nofun (walkDown_calls none).1 (walkDown_calls none).2

/-- Two channels over three nodes, the last of which has callbacks. -/
def twoChannels : Path where
  chans := [
    { id := 1, «from» := { id := 10 }, «to» := { id := 11 } },
    { id := 2, «from» := { id := 11 }, «to» := { id := 12, ops := [.connect, .stimulus] } }]
  nonempty := nofun
  distinct := by decide
  linked := by decide

/-- The node at the end gets the head of the list for the last channel. -/
theorem end_of_two_channels :
    ¬Hands .connect twoChannels (Hook.walk (fun _ => 0) twoChannels.chans .connect) := by
  intro hands
  have nodes := hands.nodes
  revert nodes
  decide

theorem two_channels_closed :
    (∀ call : Call, (0 : Int) ≤ (fun _ => 0) call) ∧
      Hands .close twoChannels (Hook.walk (fun _ => 0) twoChannels.chans .close) :=
  ⟨fun _ => Int.le_refl 0,
    (neighbours_handed_iff twoChannels (fun _ => 0) (fun _ => Int.le_refl 0) .close).mpr (by decide)⟩

/-! ## The walks of a change of status -/

/-- What the life cycle of a pipeline knows of the callbacks of a driver. -/
def drivers (ops : List Hook) : Ops where
  connect := decide (.connect ∈ ops)
  disconnect := decide (.disconnect ∈ ops)
  «open» := decide (.open ∈ ops)
  close := decide (.close ∈ ops)
  start := decide (.start ∈ ops)
  stop := decide (.stop ∈ ops)

def Chan.plain (chan : Chan) : Kstreamer.Chan where
  id := chan.id
  ops := drivers chan.ops
  «from» := drivers chan.from.ops
  «to» := drivers chan.to.ops

@[simp] theorem Chan.plain_id (chan : Chan) : chan.plain.id = chan.id := rfl

def raising : Rung → Hook
  | .connection => .connect
  | .opening => .open
  | .flow => .start

def lowering : Rung → Hook
  | .connection => .disconnect
  | .opening => .close
  | .flow => .stop

/-- Whose callback a call is. -/
inductive Call.At : Call → Hook → Place → Prop where
  | chan (hook : Hook) (id : Nat) : At (.chan hook id) hook (.chan id)
  | node (hook : Hook) (id chan : Nat) (incoming : Pointer) : At (.node hook id (.chan chan) incoming) hook (.node chan)
  | last (hook : Hook) (id chan : Nat) (incoming : Pointer) : At (.node hook id .null incoming) hook (.last chan)

/-- A call of the life cycle, without and with its arguments. -/
inductive Same : Callback → Call → Prop where
  | raise {k : Rung} {w : Place} {call : Call} (answer : Int) (there : call.At (raising k) w) : Same (.raise k w answer) call
  | lower {k : Rung} {w : Place} {call : Call} (there : call.At (lowering k) w) : Same (.lower k w) call

section Same
variable {k : Rung} {answers : Call → Int} {answered : Answers} {chans : List Chan}

theorem drivers_raises (ops : List Hook) : (drivers ops).raises k = decide (raising k ∈ ops) := by
  cases k <;> rfl

theorem drivers_lowers (ops : List Hook) : (drivers ops).lowers k = decide (lowering k ∈ ops) := by
  cases k <;> rfl

theorem raised_same {ops : List Hook} {w : Place} {call : Call} (there : call.At (raising k) w) :
    List.Forall₂ Same (Callback.raised (drivers ops) k w answered) (if raising k ∈ ops then [call] else []) := by
  rw [Callback.raised, drivers_raises]
  by_cases has : raising k ∈ ops
  · simpa [has] using Same.raise _ there
  · simp [has]

theorem lowered_same {ops : List Hook} {w : Place} {call : Call} (there : call.At (lowering k) w) :
    List.Forall₂ Same (Callback.lowered (drivers ops) k w) (if lowering k ∈ ops then [call] else []) := by
  rw [Callback.lowered, drivers_lowers]
  by_cases has : lowering k ∈ ops
  · simpa [has] using Same.lower there
  · simp [has]

/-- A walk down of the life cycle makes these calls. -/
theorem walkDown_same (stop_at : Option Nat) : ∀ prev : Option Chan,
    List.Forall₂ Same (Kstreamer.walkDown k stop_at (prev.map Chan.plain) (chans.map Chan.plain))
      (walkDown (lowering k) stop_at prev chans) := by
  induction chans with
  | nil =>
    intro prev
    cases prev with
    | none => exact .nil
    | some prev => exact lowered_same (.last ..)
  | cons chan chans ih =>
    intro prev
    rw [List.map_cons, Kstreamer.walkDown, walkDown, Chan.plain_id]
    by_cases stops : some chan.id = stop_at
    · rw [if_pos stops, if_pos stops]
      exact .nil
    · rw [if_neg stops, if_neg stops]
      exact List.rel_append (List.rel_append (lowered_same (.chan ..)) (lowered_same (.node ..))) (ih (some chan))

/-- So does a walk up in which no callback fails. -/
theorem walkUp_same (fine : ∀ call, 0 ≤ answers call) (succeeds : ∀ w, 0 ≤ answered k w) : ∀ prev : Option Chan,
    List.Forall₂ Same (Kstreamer.walkUp k answered (prev.map Chan.plain) (chans.map Chan.plain)).1
      (walkUp (raising k) (lowering k) answers prev chans).1 := by
  have passes (calls : List Call) : failure answers calls = none := failure_none fine calls
  have never (ops : Ops) (w : Place) : ops.fails k w answered = false := by
    simp [Ops.fails, Int.not_lt.mpr (succeeds w)]
  induction chans with
  | nil =>
    intro prev
    cases prev with
    | none => exact .nil
    | some prev => exact raised_same (.last ..)
  | cons chan chans ih =>
    intro prev
    simp only [List.map_cons, Kstreamer.walkUp, Chan.attempt, never, walkUp, passes, Bool.false_eq_true, if_false]
    exact List.rel_append (List.rel_append (raised_same (.node ..)) (raised_same (.chan ..))) (ih (some chan))

end Same

end Vstuff.Kstreamer.Neighbours
