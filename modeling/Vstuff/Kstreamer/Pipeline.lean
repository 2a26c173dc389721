import Mathlib.Logic.Basic
import Mathlib.Data.List.Nodup

/-! A pipeline of the streaming core: the channels linked into it and the
driver callbacks that take it up and down between its four statuses. What a
callback answers is the driver's choice, so every change of status takes the
answers as a parameter and leaves the calls it made behind. -/
namespace Vstuff.Kstreamer
set_option linter.all false

/-- enum ks_pipeline_status -/
inductive PipelineStatus where
  | null | connected | «open» | flowing
  deriving Repr, DecidableEq

namespace PipelineStatus

def rank : PipelineStatus → Nat
  | .null => 0
  | .connected => 1
  | .open => 2
  | .flowing => 3

theorem rank_inj {a b : PipelineStatus} (same : a.rank = b.rank) : a = b := by
  cases a <;> cases b <;> first | rfl | cases same

end PipelineStatus

/-- One rung of the ladder of statuses, with its own pair of callbacks:
connect and disconnect, open and close, start and stop. -/
inductive Rung where
  | connection | opening | flow
  deriving Repr, DecidableEq

namespace Rung

def below : Rung → PipelineStatus
  | .connection => .null
  | .opening => .connected
  | .flow => .open

def above : Rung → PipelineStatus
  | .connection => .connected
  | .opening => .open
  | .flow => .flowing

/-- The rungs between two statuses, lowest first. -/
def between (low high : PipelineStatus) : List Rung :=
  [connection, opening, flow].filter fun k => low.rank ≤ k.below.rank && k.above.rank ≤ high.rank

end Rung

/-- Which callbacks the driver of a channel or of a node provides. -/
structure Ops where
  connect : Bool := false
  disconnect : Bool := false
  «open» : Bool := false
  close : Bool := false
  start : Bool := false
  stop : Bool := false
  deriving Repr, DecidableEq

namespace Ops

/-- The driver provides the first callback of the pair. -/
def raises (ops : Ops) : Rung → Bool
  | .connection => ops.connect
  | .opening => ops.open
  | .flow => ops.start

/-- The driver provides the second callback of the pair. -/
def lowers (ops : Ops) : Rung → Bool
  | .connection => ops.disconnect
  | .opening => ops.close
  | .flow => ops.stop

/-- No callback comes without the other one of its pair. -/
def Paired (ops : Ops) : Prop := ∀ k, ops.raises k = ops.lowers k

end Ops

/-- struct ks_chan, as far as a pipeline looks at it: `id` stands for the
pointer, `from` and `to` for the nodes at its ends. -/
structure Chan where
  id : Nat
  ops : Ops := {}
  «from» : Ops := {}
  «to» : Ops := {}
  mtu : Int := -1
  deriving Repr, DecidableEq

/-- Whose callback is called: a channel's, that of the node in front of it, or
that of the node behind the last one. -/
inductive Place where
  | chan (id : Nat)
  | node (id : Nat)
  | last (id : Nat)
  deriving Repr, DecidableEq

/-- A call of a driver callback: the first of a pair with what it answered, or
the second, whose answer nobody reads. -/
inductive Callback where
  | raise (k : Rung) (at_ : Place) (answer : Int)
  | lower (k : Rung) (at_ : Place)
  deriving Repr, DecidableEq

/-- What the drivers answer during one change of status. -/
abbrev Answers := Rung → Place → Int

namespace Callback

/-- Calls the first callback of a pair, if there is one. -/
def raised (ops : Ops) (k : Rung) (w : Place) (answers : Answers) : List Callback :=
  if ops.raises k then [raise k w (answers k w)] else []

/-- Calls the second callback of a pair, if there is one. -/
def lowered (ops : Ops) (k : Rung) (w : Place) : List Callback :=
  if ops.lowers k then [lower k w] else []

end Callback

/-- The driver has the first callback and it fails. -/
def Ops.fails (ops : Ops) (k : Rung) (w : Place) (answers : Answers) : Bool :=
  ops.raises k && answers k w < 0

/-- How a walk up the list ended. -/
inductive Walk where
  | done
  /-- An error, and the channel before the one it came from. -/
  | failed (err : Int) (prev : Option Chan)
  deriving Repr, DecidableEq

open Callback

/-- One turn of the loop of `ks_pipeline_null_to_connected` and of the two
above it: the node in front of the channel, then the channel, and the node back
down if the channel failed. -/
def Chan.attempt (chan : Chan) (k : Rung) (answers : Answers) : List Callback × Option Int :=
  let node := raised chan.from k (.node chan.id) answers
  if chan.from.fails k (.node chan.id) answers then (node, some (answers k (.node chan.id)))
  else
    let both := node ++ raised chan.ops k (.chan chan.id) answers
    if chan.ops.fails k (.chan chan.id) answers then
      (both ++ lowered chan.from k (.node chan.id), some (answers k (.chan chan.id)))
    else (both, none)

/-- The loop itself; `prev` is the channel before the list. -/
def walkUp (k : Rung) (answers : Answers) : Option Chan → List Chan → List Callback × Walk
  | none, [] => ([], .done)
  -- the last node's answer is not looked at
  | some prev, [] => (raised prev.to k (.last prev.id) answers, .done)
  | prev, chan :: chans =>
    match chan.attempt k answers with
    | (calls, some err) => (calls, .failed err prev)
    | (calls, none) =>
      let rest := walkUp k answers (some chan) chans
      (calls ++ rest.1, rest.2)

/-- The loop of `ks_pipeline_connected_to_null` and of the two above it: from
the head of the list, up to the channel it stops at. -/
def walkDown (k : Rung) (stop_at : Option Nat) : Option Chan → List Chan → List Callback
  | none, [] => []
  | some prev, [] => lowered prev.to k (.last prev.id)
  | _, chan :: chans =>
    if some chan.id = stop_at then []
    else lowered chan.ops k (.chan chan.id) ++ lowered chan.from k (.node chan.id) ++
      walkDown k stop_at (some chan) chans

/-- struct ks_pipeline; `trace` are the driver callbacks called so far. -/
structure Pipeline where
  status : PipelineStatus := .null
  entries : List Chan := []
  mtu : Int := 0
  trace : List Callback := []
  deriving Repr, DecidableEq

namespace Pipeline

/-- ks_pipeline_negotiate_mtu -/
def negotiateMtu (pipeline : Pipeline) : Int :=
  pipeline.entries.foldl
    (fun min_mtu chan => if chan.mtu ≠ -1 ∧ chan.mtu < min_mtu then chan.mtu else min_mtu) 65536

/-- ks_pipeline_connected_to_null: whatever it disconnects, it takes every
channel out of the pipeline. -/
def connectedToNull (pipeline : Pipeline) (stop_at : Option Chan) : Pipeline :=
  { pipeline with
    trace := pipeline.trace ++ walkDown .connection (stop_at.map Chan.id) none pipeline.entries
    entries := []
    status := .null }

/-- ks_pipeline_open_to_connected -/
def openToConnected (pipeline : Pipeline) (stop_at : Option Chan) : Pipeline :=
  { pipeline with
    trace := pipeline.trace ++ walkDown .opening (stop_at.map Chan.id) none pipeline.entries
    status := .connected }

/-- ks_pipeline_flowing_to_open -/
def flowingToOpen (pipeline : Pipeline) (stop_at : Option Chan) : Pipeline :=
  { pipeline with
    trace := pipeline.trace ++ walkDown .flow (stop_at.map Chan.id) none pipeline.entries
    status := .open }

/-- The backward walk of a rung. -/
def fall (pipeline : Pipeline) (stop_at : Option Chan) : Rung → Pipeline
  | .connection => pipeline.connectedToNull stop_at
  | .opening => pipeline.openToConnected stop_at
  | .flow => pipeline.flowingToOpen stop_at

/-- The forward walk of a rung: up to its status, or back down from the
channel before the one that failed. -/
def climb (pipeline : Pipeline) (k : Rung) (answers : Answers) : Pipeline × Int :=
  let walk := walkUp k answers none pipeline.entries
  let pipeline := { pipeline with trace := pipeline.trace ++ walk.1 }
  match walk.2 with
  | .done => ({ pipeline with status := k.above }, 0)
  | .failed err prev => (pipeline.fall prev k, err)

/-- ks_pipeline_null_to_connected -/
def nullToConnected (pipeline : Pipeline) (answers : Answers) : Pipeline × Int :=
  pipeline.climb .connection answers

/-- ks_pipeline_connected_to_open -/
def connectedToOpen (pipeline : Pipeline) (answers : Answers) : Pipeline × Int :=
  { pipeline with mtu := pipeline.negotiateMtu }.climb .opening answers

/-- ks_pipeline_open_to_flowing -/
def openToFlowing (pipeline : Pipeline) (answers : Answers) : Pipeline × Int :=
  pipeline.climb .flow answers

/-- if (err < 0) goto failed; -/
def andThen (result : Pipeline × Int) (next : Pipeline → Pipeline × Int) : Pipeline × Int :=
  if result.2 < 0 then result else next result.1

/-- ks_pipeline_change_status -/
def changeStatus (pipeline : Pipeline) (status : PipelineStatus) (answers : Answers) : Pipeline × Int :=
  match pipeline.status with
  | .null =>
    match status with
    | .null => (pipeline, 0)
    | .connected => pipeline.nullToConnected answers
    | .open => andThen (pipeline.nullToConnected answers) (·.connectedToOpen answers)
    | .flowing =>
      andThen (andThen (pipeline.nullToConnected answers) (·.connectedToOpen answers)) (·.openToFlowing answers)
  | .connected =>
    match status with
    | .null => (pipeline.connectedToNull none, 0)
    | .connected => (pipeline, 0)
    | .open => pipeline.connectedToOpen answers
    | .flowing => andThen (pipeline.connectedToOpen answers) (·.openToFlowing answers)
  | .open =>
    match status with
    | .null => ((pipeline.openToConnected none).connectedToNull none, 0)
    | .connected => (pipeline.openToConnected none, 0)
    | .open => (pipeline, 0)
    | .flowing => pipeline.openToFlowing answers
  | .flowing =>
    match status with
    | .null => (((pipeline.flowingToOpen none).openToConnected none).connectedToNull none, 0)
    | .connected => ((pipeline.flowingToOpen none).openToConnected none, 0)
    | .open => (pipeline.flowingToOpen none, 0)
    | .flowing => (pipeline, 0)

end Pipeline
end Vstuff.Kstreamer
