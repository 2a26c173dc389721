import Vstuff.Kstreamer.Pipeline
import Vstuff.Kstreamer.Netlink

/-! The channels and pipelines the streaming core knows, and the requests that
create, change and delete a pipeline. All of them run under the topology lock,
so one request is one step; a step that gives nothing is one the kernel does not
come back from, an assertion that fails or an entry taken off a list twice. -/
namespace Vstuff.Kstreamer
set_option linter.all false

def ENOMEM : Int := 12
def ENODEV : Int := 19

def PipelineStatus.ofNat? : Nat → Option PipelineStatus
  | 0 => some .null
  | 1 => some .connected
  | 2 => some .open
  | 3 => some .flowing
  | _ => none

/-- struct ks_attr, with the 32-bit word at `KS_ATTR_DATA`. -/
structure Attr where
  type : Nat
  value : Nat
  deriving Repr, DecidableEq

namespace Attr

/-- KS_PIPELINEATTR_ID -/
def isId (attr : Attr) : Bool := attr.type = 1

/-- KS_PIPELINEATTR_STATUS -/
def isStatus (attr : Attr) : Bool := attr.type = 3

/-- KS_PIPELINEATTR_CHAN_ID -/
def isChanId (attr : Attr) : Bool := attr.type = 4

end Attr

/-- A pipeline object: `ptr` stands for the pointer, `refs` is the count of its
kobject. -/
structure Pipe where
  ptr : Nat
  id : Nat := 0
  refs : Int := 1
  body : Pipeline := {}

namespace Pipe

def get (pipe : Pipe) : Pipe := { pipe with refs := pipe.refs + 1 }

def put (pipe : Pipe) : Pipe := { pipe with refs := pipe.refs - 1 }

def members (pipe : Pipe) : List Nat := pipe.body.entries.map Chan.id

end Pipe

structure Kernel where
  /-- ks_chans_list, each channel with its id. -/
  chans : List (Nat × Chan) := []
  /-- The static `cur_id` of `_ks_chan_new_id`. -/
  chan_cur_id : Nat := 0
  /-- The references to a channel held by the core. -/
  chan_refs : Nat → Int := fun _ => 0
  /-- chan->pipeline -/
  pipeline_of : Nat → Option Nat := fun _ => none
  /-- ks_pipelines_list -/
  pipelines : List Pipe := []
  /-- Pipelines off the list that something still refers to. -/
  loose : List Pipe := []
  /-- The static `cur_id` of `_ks_pipeline_new_id`. -/
  cur_id : Nat := 0
  /-- Pointers from here on have not been handed out. -/
  next : Nat := 0

/-- ++cur_id, and 1 instead of a negative number. -/
def following (cur_id : Nat) : Nat := if 2 ^ 31 ≤ cur_id + 1 then 1 else cur_id + 1

/-- `_ks_pipeline_new_id` and `_ks_chan_new_id`, for as many turns as it takes to
get past the ids in use. -/
def newId (taken : Nat → Bool) : Nat → Nat → Option Nat
  | 0, _ => none
  | turns + 1, cur_id =>
    if taken (following cur_id) then newId taken turns (following cur_id) else some (following cur_id)

namespace Kernel

/-- ks_chan_get_by_id -/
def chan (k : Kernel) (id : Nat) : Option Chan := k.chans.lookup id

/-- ks_pipeline_get_by_id -/
def pipeline (k : Kernel) (id : Nat) : Option Pipe := k.pipelines.find? (·.id = id)

/-- ks_pipeline_get_by_nlid: the first attribute of this type decides. -/
def pipelineByNlid (k : Kernel) (attrs : List Attr) : Option Pipe :=
  (attrs.find? Attr.isId).bind fun attr => k.pipeline attr.value

/-- chan->pipeline = ks_pipeline_get(pipeline), and the channel at the end of
the entries. -/
def attach (k : Kernel) (pipe : Pipe) (chan : Chan) : Kernel × Pipe :=
  ({ k with
      pipeline_of := Function.update k.pipeline_of chan.id (some pipe.ptr)
      chan_refs := Function.update k.chan_refs chan.id (k.chan_refs chan.id + 1) },
    { pipe.get with body := { pipe.body with entries := pipe.body.entries ++ [chan] } })

/-- One turn of the loop that takes the channels out of a pipeline. -/
def detach (s : Kernel × Pipe) (chan : Chan) : Kernel × Pipe :=
  ({ s.1 with
      pipeline_of := Function.update s.1.pipeline_of chan.id none
      chan_refs := Function.update s.1.chan_refs chan.id (s.1.chan_refs chan.id - 1) },
    s.2.put)

/-- `ks_pipeline_change_status`, with what happens to the channels that
`ks_pipeline_connected_to_null` takes out. -/
def changeTo (k : Kernel) (pipe : Pipe) (status : PipelineStatus) (answers : Answers) : (Kernel × Pipe) × Int :=
  let changed := pipe.body.changeStatus status answers
  let out := pipe.body.entries.filter (· ∉ changed.1.entries)
  (out.foldl detach (k, { pipe with body := changed.1 }), changed.2)

/-- A status that is none of the four has no case in the switch. -/
def change (k : Kernel) (pipe : Pipe) (status : Nat) (answers : Answers) : (Kernel × Pipe) × Int :=
  match PipelineStatus.ofNat? status with
  | some status => k.changeTo pipe status answers
  | none => ((k, pipe), 0)

/-- The last put: an object without references is gone. -/
def drop (k : Kernel) (pipe : Pipe) : Kernel :=
  if pipe.refs = 0 then k else { k with loose := k.loose ++ [pipe] }

/-- What happened to an object of the list. -/
def store (k : Kernel) (pipe : Pipe) : Kernel :=
  { k with pipelines := k.pipelines.map fun other => if other.ptr = pipe.ptr then pipe else other }

/-- One turn of the loop of `ks_pipeline_create_from_nlmsg`. -/
def parseAttr (k : Kernel) (pipe : Pipe) (status : Nat) (attr : Attr) : Except Int ((Kernel × Pipe) × Nat) :=
  if attr.isStatus then .ok ((k, pipe), attr.value)
  else if attr.isChanId then
    if pipe.body.status ≠ .null then .error (-EINVAL)
    else
      match k.chan attr.value with
      | none => .error (-ENODEV)
      | some chan => if (k.pipeline_of chan.id).isSome then .error (-EBUSY) else .ok (k.attach pipe chan, status)
  else .error (-EINVAL)

/-- The loop: the status asked for, or why it stops. -/
def parse (k : Kernel) (pipe : Pipe) (status : Nat) : List Attr → (Kernel × Pipe) × Except Int Nat
  | [] => ((k, pipe), .ok status)
  | attr :: attrs =>
    match k.parseAttr pipe status attr with
    | .error err => ((k, pipe), .error err)
    | .ok ((k, pipe), status) => k.parse pipe status attrs

/-- The error path of `ks_pipeline_create_from_nlmsg`. -/
def abandon (s : Kernel × Pipe) : Kernel × Pipe :=
  let left := s.2.body.entries.foldl detach s
  (left.1, { left.2.put with body := { left.2.body with entries := [] } })

/-- What `ks_pipeline_create_from_nlmsg` does behind its loop; in case of an error
the pipeline is the one it has given up. -/
def created (answers : Answers) : (Kernel × Pipe) × Except Int Nat → (Kernel × Pipe) × Int
  | (s, .error err) => (abandon s, err)
  | (s, .ok status) =>
    let changed := s.1.change s.2 (if status = 0 then 1 else status) answers
    if changed.2 < 0 then (abandon changed.1, changed.2) else (changed.1, 0)

/-- ks_pipeline_create_from_nlmsg -/
def create (k : Kernel) (attrs : List Attr) (answers : Answers) : (Kernel × Pipe) × Int :=
  created answers ({ k with next := k.next + 1 }.parse { ptr := k.next } 0 attrs)

/-- if (pipeline->status != KS_PIPELINE_STATUS_NULL) -/
def toNull (s : Kernel × Pipe) (answers : Answers) : Kernel × Pipe :=
  if s.2.body.status ≠ .null then (s.1.changeTo s.2 .null answers).1 else s

/-- What a request answers, with the driver callbacks of the pipeline it was
about. -/
structure Answered where
  kernel : Kernel
  err : Int
  calls : List Callback := []

/-- What `ks_pipeline_cmd_new` does with a pipeline created, or not; `added` is what
`kobject_add` returns. -/
def register (answers : Answers) (added : Int) (created : (Kernel × Pipe) × Int) : Option Answered :=
  let k := created.1.1
  let pipe := created.1.2
  if created.2 < 0 then some ⟨k.drop pipe, created.2, pipe.body.trace⟩
  else
    (newId (fun id => k.pipelines.any (·.id = id)) (k.pipelines.length + 1) k.cur_id).map fun id =>
      let pipe := { pipe with id := id }.get
      if added < 0 then
        -- off the list again
        let left := toNull ({ k with cur_id := id }, pipe.put) answers
        ⟨left.1.drop left.2.put, added, left.2.body.trace⟩
      else ⟨{ k with cur_id := id, pipelines := k.pipelines ++ [pipe.put] }, 0, pipe.body.trace⟩

/-- `ks_pipeline_cmd_new`; `alloc` is whether there is memory for the pipeline. -/
def cmdNew (k : Kernel) (attrs : List Attr) (alloc : Bool) (answers : Answers) (added : Int) : Option Answered :=
  if ¬ alloc then some ⟨k, -ENOMEM, []⟩ else register answers added (k.create attrs answers)

/-- ks_pipeline_unregister_no_topology_lock -/
def unregisterPipeline (s : Kernel × Pipe) (answers : Answers) : Kernel × Pipe :=
  let changed := (s.1.changeTo s.2 .null answers).1
  ({ changed.1 with pipelines := changed.1.pipelines.filter (·.ptr ≠ changed.2.ptr) }, changed.2.put)

/-- What `ks_pipeline_cmd_del` does with the pipeline it has looked up. -/
def delete (k : Kernel) (answers : Answers) : Option Pipe → Answered
  | none => ⟨k, -ENOENT, []⟩
  | some pipe =>
    let left := unregisterPipeline (toNull (k, pipe.get) answers) answers
    ⟨left.1.drop left.2.put, 0, left.2.body.trace⟩

/-- ks_pipeline_cmd_del -/
def cmdDel (k : Kernel) (attrs : List Attr) (answers : Answers) : Answered := k.delete answers (k.pipelineByNlid attrs)

/-- Why the loop of `ks_pipeline_update_from_nlsmsg` stops: its `BUG_ON`, or an
attribute it does not expect. -/
inductive Halt where
  | bug
  | error (err : Int)
  deriving Repr, DecidableEq

/-- One turn of the loop. -/
def updateAttr (pipe : Pipe) (status : Nat) (attr : Attr) : Except Halt Nat :=
  if attr.isId then if attr.value ≠ pipe.id then .error .bug else .ok status
  else if attr.isStatus then .ok attr.value
  else .error (.error (-EINVAL))

/-- The loop of `ks_pipeline_update_from_nlsmsg`. -/
def updated (pipe : Pipe) (status : Nat) : List Attr → Except Halt Nat
  | [] => .ok status
  | attr :: attrs =>
    match updateAttr pipe status attr with
    | .error halt => .error halt
    | .ok status => updated pipe status attrs

/-- What `ks_pipeline_cmd_set` does with the pipeline it has looked up, once the
attributes have been read. -/
def update (k : Kernel) (answers : Answers) (pipe : Pipe) : Except Halt Nat → Option Answered
  | .error .bug => none
  | .error (.error err) => some ⟨k.store pipe.get.put, err, []⟩
  | .ok status =>
    let changed := k.change pipe.get status answers
    some ⟨changed.1.1.store changed.1.2.put, changed.2, changed.1.2.body.trace⟩

/-- ks_pipeline_cmd_set -/
def cmdSet (k : Kernel) (attrs : List Attr) (answers : Answers) : Option Answered :=
  match k.pipelineByNlid attrs with
  | none => some ⟨k, -ENOENT, []⟩
  | some pipe => k.update answers pipe (updated pipe 0 attrs)

/-- `ks_chan_register_no_topology_lock`; `added` is what `kobject_add`, or one of
the links after it, returns. -/
def registerChan (k : Kernel) (chan : Chan) (added : Int) : Option Kernel :=
  if k.chans.any (·.2.id = chan.id) ∨ (k.pipeline_of chan.id).isSome then none
  else
    (newId (fun id => k.chans.any (·.1 = id)) (k.chans.length + 1) k.chan_cur_id).map fun id =>
      if added < 0 then { k with chan_cur_id := id }
      else
        { k with
          chan_cur_id := id
          chans := k.chans ++ [(id, chan)]
          chan_refs := Function.update k.chan_refs chan.id (k.chan_refs chan.id + 1) }

/-- What a channel leaves when it is taken off the list. -/
def removeChan (k : Kernel) (ptr : Nat) : Kernel :=
  { k with
    chans := k.chans.filter (·.2.id ≠ ptr)
    chan_refs := Function.update k.chan_refs ptr (k.chan_refs ptr - 1) }

/-- `ks_chan_unregister_no_topology_lock`; its pipeline has to be on the list it
is taken off. -/
def unregisterChan (k : Kernel) (ptr : Nat) (answers : Answers) : Option Kernel :=
  if ¬ k.chans.any (·.2.id = ptr) then none
  else
    match k.pipeline_of ptr with
    | none => some (k.removeChan ptr)
    | some p =>
      (k.pipelines.find? (·.ptr = p)).map fun pipe =>
        let left := unregisterPipeline (k, pipe.get) answers
        (left.1.drop left.2.put).removeChan ptr

/-- A request of a client, or a driver that brings a channel or takes it away. -/
inductive Event where
  | register (chan : Chan) (added : Int)
  | unregister (ptr : Nat) (answers : Answers)
  | new (attrs : List Attr) (alloc : Bool) (answers : Answers) (added : Int)
  | set (attrs : List Attr) (answers : Answers)
  | del (attrs : List Attr) (answers : Answers)

def step (k : Kernel) : Event → Option Kernel
  | .register chan added => k.registerChan chan added
  | .unregister ptr answers => k.unregisterChan ptr answers
  | .new attrs alloc answers added => (k.cmdNew attrs alloc answers added).map (·.kernel)
  | .set attrs answers => (k.cmdSet attrs answers).map (·.kernel)
  | .del attrs answers => some (k.cmdDel attrs answers).kernel

end Kernel
end Vstuff.Kstreamer
