import Vstuff.Q931.Message

/-! The global call of an interface (`global.c`), which restarts channels: the
messages it receives, the confirmations of the calls, its two timers and the
request of the management. Where the source would look at an element that is not
there, or reaches an assertion that fails, the step says so instead of giving a
state. -/
namespace Vstuff.Q931.Global
open Lapd (IntfRole)
set_option linter.all false

/-- `enum q931_global_state`. -/
inductive State where
  | null | restartRequest | restart
  deriving DecidableEq, Repr

/-- `enum q931_ie_restart_indicator_restart_class`. -/
def classIndicated : Nat := 0

def classSingleInterface : Nat := 6

def classAllInterfaces : Nat := 7

/-- The value of a call state element for the global call
(`q931_global_state_to_ie_state`). -/
def State.toIeState : State → Nat
  | .null => 0x00
  | .restartRequest => 0x3d
  | .restart => 0x3e

/-- What the global call does besides changing its state: messages sent with
their elements, and primitives for the call control. A confirmation carries the
channels restarted, or nothing if the restart has failed. -/
inductive Output where
  | send (type : MessageType) (ies : List Content)
  | managementRestartConfirm (channels : Option (List Nat))
  | statusManagementIndication
  | timeoutManagementIndication
  deriving DecidableEq, Repr

/-- Why a step ends the program: an element that is not there is looked at, an
`assert(0)` is reached, or another assertion fails. -/
inductive Crash where
  | absentIe
  | assertZero
  | assertion
  deriving DecidableEq, Repr

/-- `struct q931_global_call`. The timers are pending or not; `designated` is not
in the source: it remembers the channels a RESTART message was for. -/
structure Gc where
  intf : Intf
  state : State := .null
  t316 : Bool := false
  t317 : Bool := false
  t317Expired : Bool := false
  restartRetransmitCount : Nat := 0
  restartResponded : Bool := false
  restartAcknowledged : Bool := false
  restartIndicator : Option Nat := none
  restartReqdChans : List Nat := []
  restartAckedChans : List Nat := []
  designated : List Nat := []
  out : List Output := []
  deriving DecidableEq, Repr

/-- A received message: its type and the elements `q931_gc_decode_ies` has found
in it. -/
structure Message where
  type : UInt8
  ies : List Content
  deriving DecidableEq, Repr

/-- What a channel is to a restart: it has no call, its call confirms while it is
asked to restart, or it confirms later. -/
inductive Occupant where
  | free | confirms | defers
  deriving DecidableEq, Repr

/-- The channels of the interface when a RESTART is received: which may be
restarted (`q931_channel_is_restartable`), and who is on them. -/
structure Channels where
  restartable : Nat → Bool
  occupant : Nat → Occupant

def emit (gc : Gc) (output : Output) : Gc := { gc with out := gc.out ++ [output] }

/-! ## Chansets -/

/-- `q931_chanset_del`. -/
def chansetDel (chanset : List Nat) (channel : Nat) : Except Crash (List Nat) :=
  if chanset = [] then .error .assertion else .ok (chanset.erase channel)

/-- `q931_chanset_add`. -/
def chansetAddOr (chanset : List Nat) (channel : Nat) : Except Crash (List Nat) :=
  match chansetAdd chanset channel with
  | none => .error .assertion
  | some chanset => .ok chanset

/-- `q931_chanset_intersect`. The channel behind one that is deleted moves to its
place and is not looked at. -/
def chansetIntersect (chanset2 : List Nat) : List Nat → List Nat
  | [] => []
  | channel :: rest =>
    if channel ∈ chanset2 then channel :: chansetIntersect chanset2 rest
    else match rest with
      | [] => []
      | next :: rest => next :: chansetIntersect chanset2 rest

/-- `q931_chanset_merge`. -/
def chansetMerge (chanset : List Nat) (src : List Nat) : Except Crash (List Nat) :=
  src.foldlM (fun chanset channel => if channel ∈ chanset then .ok chanset else chansetAddOr chanset channel)
    chanset

/-! ## Messages -/

/-- The channel identification of a RESTART or RESTART ACKNOWLEDGE. -/
def channelsElement (gc : Gc) (channels : List Nat) : Content :=
  .channelIdentification {
    interfacePrimary := gc.intf.type == .pra
    preferredExclusive := 1
    chanset := channels }

/-- The elements that name the channels of a restart. -/
def namedChannels (gc : Gc) (channels : List Nat) : List Content :=
  [channelsElement gc channels, .restartIndicator classIndicated]

/-- A STATUS with a cause; the location is what `q931_ie_cause_location_gc`
gives. -/
def sendStatus (gc : Gc) (location value : Nat) : Gc :=
  emit gc (.send .status [.cause { codingStandard := 0, location := location, value := value }])

def invalidCallReferenceValue : Nat := 81

def identifiedChannelDoesNotExist : Nat := 82

/-! ## Requests and confirmations -/

/-- `q931_management_restart_request`. The elements are given up before the
message is sent, which then has none. -/
def managementRestartRequest (gc : Gc) (chanset : List Nat) : Except Crash Gc :=
  match gc.state with
  | .null =>
    let gc := {
      gc with
      t317Expired := false
      restartRetransmitCount := 0
      restartResponded := false
      restartAcknowledged := false }
    match gc.restartIndicator with
    | none => .error .absentIe
    | some cls =>
      if cls = classAllInterfaces then .error .assertZero
      else
        let gc :=
          if cls = classIndicated then
            { gc with restartAckedChans := [], restartReqdChans := chanset }
          else gc
        .ok { emit gc (.send .restart []) with t316 := true, state := .restartRequest }
  | .restartRequest | .restart => .ok gc

/-- A channel is moved from those requested to those confirmed. -/
def moveChannel (gc : Gc) : Option Nat → Except Crash Gc
  | none => .ok gc
  | some channel => do
    let reqd ← chansetDel gc.restartReqdChans channel
    let acked ← chansetAddOr gc.restartAckedChans channel
    .ok { gc with restartReqdChans := reqd, restartAckedChans := acked }

/-- The elements of a RESTART ACKNOWLEDGE. -/
def acknowledgeElements (gc : Gc) : Except Crash (List Content) :=
  match gc.restartIndicator with
  | none => .error .absentIe
  | some cls =>
    if cls = classIndicated then .ok (namedChannels gc gc.restartAckedChans)
    else if cls = classSingleInterface then .ok [.restartIndicator classSingleInterface]
    else if cls = classAllInterfaces then .error .assertZero
    else .ok []

/-- `q931_global_restart_confirm`. The chanset of the confirmation is an empty
one: the intersection is made in the requested channels. -/
def restartConfirm (gc : Gc) (channel : Option Nat) : Except Crash Gc :=
  match gc.state with
  | .restartRequest => do
    let gc ← moveChannel gc channel
    if gc.restartReqdChans = [] then
      let gc := { gc with t317 := false }
      if gc.restartAcknowledged then
        let gc := {
          gc with
          restartReqdChans := chansetIntersect gc.restartAckedChans gc.restartReqdChans
          state := .null }
        .ok (emit gc (.managementRestartConfirm (some [])))
      else .ok { gc with restartResponded := true }
    else .ok gc
  | .restart => do
    let gc ← moveChannel gc channel
    if gc.restartReqdChans = [] then
      let gc := { gc with t317 := false, state := .null }
      let ies ← acknowledgeElements gc
      .ok (emit gc (.send .restartAcknowledge ies))
    else .ok gc
  | .null => .ok gc

/-! ## Received messages -/

/-- The value of a call state element. -/
def callStateOf : Content → Option Nat
  | .callState cs => some cs.value
  | _ => none

/-- `q931_global_handle_status`. -/
def handleStatus (gc : Gc) (msg : Message) : Except Crash Gc :=
  match gc.state with
  | .null => .ok gc
  | .restartRequest | .restart =>
    match msg.ies.findSome? callStateOf with
    | none => .error .absentIe
    | some value =>
      if value = gc.state.toIeState then .ok gc else .ok (emit gc .statusManagementIndication)

/-- The channels that may be restarted are added to those requested. -/
def requestChannels (channels : Channels) (reqd : List Nat) (chanset : List Nat) :
    Except Crash (List Nat) :=
  chanset.foldlM (fun reqd channel =>
    if channels.restartable channel then chansetAddOr reqd channel else .ok reqd) reqd

/-- One element of a RESTART. -/
def restartElement (channels : Channels) (gc : Gc) : Content → Except Crash Gc
  | .channelIdentification ci => do
    let reqd ← requestChannels channels gc.restartReqdChans ci.chanset
    .ok { gc with restartReqdChans := reqd }
  | .restartIndicator cls => .ok { gc with restartIndicator := some cls }
  | _ => .ok gc

/-- A message has a channel identification. -/
def hasChannels (ies : List Content) : Bool :=
  ies.any fun | .channelIdentification _ => true | _ => false

/-- One channel to be restarted: its call is asked, or it is confirmed at
once. -/
def restartChannel (channels : Channels) (gc : Gc) (channel : Nat) : Except Crash Gc :=
  match channels.occupant channel with
  | .free => restartConfirm gc (some channel)
  | .confirms => do
    let gc ← restartConfirm gc (some channel)
    .ok { gc with t317 := true }
  | .defers => .ok { gc with t317 := true }

/-- `q931_global_handle_restart`. -/
def handleRestart (gc : Gc) (location : Nat) (channels : Channels) (msg : Message) : Except Crash Gc :=
  match gc.state with
  | .null => do
    let gc := {
      gc with
      t317Expired := false
      restartRetransmitCount := 0
      restartResponded := false
      restartAcknowledged := false
      restartReqdChans := []
      restartAckedChans := [] }
    let gc ← msg.ies.foldlM (restartElement channels) gc
    let reqd ←
      if hasChannels msg.ies then .ok gc.restartReqdChans
      else requestChannels channels gc.restartReqdChans (List.range gc.intf.nChannels)
    let gc := { gc with restartReqdChans := reqd, designated := reqd }
    if reqd = [] then .ok (sendStatus gc location identifiedChannelDoesNotExist)
    else reqd.foldlM (restartChannel channels) { gc with state := .restart }
  | .restartRequest | .restart => .ok (sendStatus gc location invalidCallReferenceValue)

/-- The chanset of a channel identification. -/
def chansetOf : Content → Option (List Nat)
  | .channelIdentification ci => some ci.chanset
  | _ => none

/-- `q931_global_handle_restart_acknowledge`. -/
def handleRestartAcknowledge (gc : Gc) (location : Nat) (msg : Message) : Except Crash Gc :=
  match gc.state with
  | .restartRequest =>
    let gc := { gc with t316 := false }
    if gc.restartResponded || gc.t317Expired then
      let gc := {
        gc with
        restartReqdChans := chansetIntersect gc.restartAckedChans gc.restartReqdChans }
      .ok { emit gc (.managementRestartConfirm (some [])) with state := .null }
    else do
      let acked ← match msg.ies.findSome? chansetOf with
        | none => .ok gc.restartAckedChans
        | some chanset => chansetMerge gc.restartAckedChans chanset
      .ok { gc with restartAckedChans := acked, restartAcknowledged := true }
  | .null | .restart => .ok (sendStatus gc location invalidCallReferenceValue)

/-- `q931_dispatch_global_message`. -/
def dispatchGlobalMessage (gc : Gc) (location : Nat) (channels : Channels) (msg : Message) :
    Except Crash Gc :=
  if msg.type = MessageType.status.code then handleStatus gc msg
  else if msg.type = MessageType.restart.code then handleRestart gc location channels msg
  else if msg.type = MessageType.restartAcknowledge.code then handleRestartAcknowledge gc location msg
  else
    .ok (emit gc (.send .status [
      .cause { codingStandard := 0, location := location, value := invalidCallReferenceValue },
      .callState { codingStandard := 0, value := gc.state.toIeState }]))

/-! ## Timers -/

/-- The elements of a RESTART that is sent again. -/
def retransmitElements (gc : Gc) : Except Crash (List Content) :=
  match gc.restartIndicator with
  | none => .error .absentIe
  | some cls =>
    if cls = classIndicated then .ok (namedChannels gc gc.restartReqdChans)
    else if cls = classSingleInterface then .ok [.restartIndicator classSingleInterface]
    else if cls = classAllInterfaces then .ok []
    else .error .assertZero

/-- `q931_global_timer_T316`; the timer has expired. -/
def timerT316 (gc : Gc) : Except Crash Gc :=
  match gc.state with
  | .restartRequest =>
    let gc := { gc with restartRetransmitCount := gc.restartRetransmitCount + 1 }
    if gc.restartRetransmitCount ≥ 2 then
      .ok (emit { gc with state := .null } (.managementRestartConfirm none))
    else do
      let ies ← retransmitElements gc
      .ok { emit gc (.send .restart ies) with t316 := true }
  | .null | .restart => .ok gc

/-- `q931_global_timer_T317`. The channels confirmed are named in a RESTART. -/
def timerT317 (gc : Gc) : Except Crash Gc :=
  match gc.state with
  | .null => .ok gc
  | .restartRequest =>
    if gc.restartAcknowledged then
      let gc := {
        gc with
        restartReqdChans := chansetIntersect gc.restartAckedChans gc.restartReqdChans
        state := .null }
      .ok (emit gc (.managementRestartConfirm (some [])))
    else .ok { gc with t317Expired := true }
  | .restart =>
    let gc :=
      if gc.restartAckedChans = [] then gc
      else emit gc (.send .restart (namedChannels gc gc.restartAckedChans))
    .ok (emit { gc with state := .null } .timeoutManagementIndication)

/-! ## Events -/

/-- What happens to a global call. -/
inductive Event where
  | message (location : Nat) (channels : Channels) (msg : Message)
  | confirm (channel : Option Nat)
  | t316
  | t317
  | management (chanset : List Nat)

/-- What the program does with an event. A timer expires when it is pending. -/
def handle (gc : Gc) (e : Event) : Except Crash Gc :=
  let gc := { gc with out := [] }
  match e with
  | .message location channels msg => dispatchGlobalMessage gc location channels msg
  | .confirm channel => restartConfirm gc channel
  | .t316 => timerT316 { gc with t316 := false }
  | .t317 => timerT317 { gc with t317 := false }
  | .management chanset => managementRestartRequest gc chanset

/-- An event that can happen. -/
def enabled (gc : Gc) : Event → Bool
  | .t316 => gc.t316
  | .t317 => gc.t317
  | _ => true

/-- One step of the global call, unless the event cannot happen or ends the
program. -/
def step (gc : Gc) (e : Event) : Option Gc :=
  if enabled gc e then (handle gc e).toOption else none

/-- `q931_global_init`, on a cleared structure. -/
def init (intf : Intf) : Gc := { intf := intf }

end Vstuff.Q931.Global
