import Vstuff.Q931.Call

/-! The messages a call receives: the `q931_handle_*` functions of `call.c` and
their dispatch, and what `q931_receive` does with a message for an unknown call
reference. -/
namespace Vstuff.Q931.Call
set_option linter.all false

/-- What a STATUS says of the state of the peer: no call state is there, the null
state of our side, the state of the call, or another one. -/
inductive Reported where
  | absent | null | same | other
  deriving DecidableEq, Repr

/-- What the causes of a STATUS say to a pending status enquiry: the enquiry was
not understood, it is answered, or neither. -/
inductive Answer where
  | refused | answered | none
  deriving DecidableEq, Repr

/-- The progress indicator of a PROGRESS: none, one that ends the overlap
sending, or another. -/
inductive Progress where
  | absent | endsOverlap | other
  deriving DecidableEq, Repr

instance (p : Reported → Prop) [DecidablePred p] : Decidable (∀ reported, p reported) :=
  decidableForall [.absent, .null, .same, .other] (fun reported => by cases reported <;> decide) p

instance (p : Answer → Prop) [DecidablePred p] : Decidable (∀ answer, p answer) :=
  decidableForall [.refused, .answered, .none] (fun answer => by cases answer <;> decide) p

instance (p : Progress → Prop) [DecidablePred p] : Decidable (∀ progress, p progress) :=
  decidableForall [.absent, .endsOverlap, .other] (fun progress => by cases progress <;> decide) p

section Handlers
variable (state : State)

/-- `_q931_call_message_not_compatible_with_state`. The network side comes to the
second condition in the state it has just entered. -/
def messageNotCompatibleWithState : List Act :=
  match state with
  | .n0 => [.send .release, .start .t308, .setState .n19, .send .status]
  | .u0 => [.send .release, .start .t308, .setState .n19]
  | _ => [.send .status]

/-- A terminal answers a broadcast call that has been aborted. -/
def refuseLate : List Act := [.cesAlloc, .ces .release]

/-- The channel of a response is not acceptable: the network side clears. -/
def refuseChannel : List Act :=
  [.send .release, .start .t308, .setState .n19, .primitive .releaseIndication]

/-- `q931_handle_alerting`; `selected` is what `q931_channel_select_response`
returns, here and below. -/
def handleAlerting (broadcastSetup selected : Bool) : List Act :=
  match state with
  | .n6 =>
    .decode ::
      if broadcastSetup then
        [.cesAlloc, .selectResponse] ++
          if selected then
            [.stop .t303, .start .t301, .setState .n7, .primitive .alertingIndication, .ces .alerting]
          else [.ces .release]
      else
        [.stop .t303, .selectResponse] ++
          if selected then [.start .t301, .setState .n7, .primitive .alertingIndication]
          else refuseChannel
  | .n7 =>
    if broadcastSetup then
      [.decode, .cesAlloc, .selectResponse, if selected then .ces .alerting else .ces .release]
    else messageNotCompatibleWithState state
  | .n8 =>
    if broadcastSetup then .decode :: refuseLate else messageNotCompatibleWithState state
  | .n9 =>
    .decode ::
      if broadcastSetup then
        [.cesAlloc, .selectResponse] ++
          if selected then
            [.stop .t310, .start .t301, .setState .n7, .primitive .alertingIndication, .ces .alerting]
          else [.ces .release]
      else [.stop .t310, .start .t301, .setState .n7, .primitive .alertingIndication]
  | .n22 => refuseLate
  | .n25 =>
    .decode ::
      if broadcastSetup then
        [.cesAlloc, .selectResponse] ++
          if selected then
            [.start .t301, .setState .n7, .primitive .alertingIndication, .ces .alerting]
          else [.ces .release]
      else [.stop .t304, .start .t301, .setState .n7, .primitive .alertingIndication]
  | .u2 => [.decode, .stop .t304, .control, .setState .u4, .primitive .alertingIndication]
  | .u3 => [.decode, .control, .setState .u4, .primitive .alertingIndication]
  | _ => messageNotCompatibleWithState state

/-- `q931_handle_call_proceeding`. -/
def handleCallProceeding (broadcastSetup selected : Bool) : List Act :=
  match state with
  | .n6 =>
    .decode ::
      if broadcastSetup then
        [.cesAlloc, .selectResponse] ++
          if selected then
            [.stop .t303, .start .t310, .primitive .proceedingIndication, .ces .callProceeding,
              .setState .n9]
          else [.ces .release]
      else
        [.stop .t303, .selectResponse] ++
          if selected then [.start .t310, .setState .n9, .primitive .proceedingIndication]
          else refuseChannel
  | .n7 | .n9 =>
    if broadcastSetup then
      [.decode, .cesAlloc, .selectResponse, if selected then .ces .callProceeding else .ces .release]
    else messageNotCompatibleWithState state
  | .n8 => if broadcastSetup then refuseLate else messageNotCompatibleWithState state
  | .n22 => refuseLate
  | .n25 =>
    .decode ::
      if broadcastSetup then
        [.cesAlloc, .selectResponse] ++
          if selected then
            [.start .t310, .setState .n9, .primitive .proceedingIndication, .ces .callProceeding]
          else [.ces .release]
      else [.stop .t304, .start .t310, .setState .n9, .primitive .proceedingIndication]
  | .u1 =>
    [.decode, .stop .t303, .selectResponse] ++
      if selected then [.setState .u3, .control, .primitive .proceedingIndication]
      else [.send .release, .start .t308, .primitive .releaseIndication]
  | .u2 => [.decode, .stop .t304, .control, .setState .u3, .primitive .proceedingIndication]
  | _ => messageNotCompatibleWithState state

/-- `q931_handle_connect`. -/
def handleConnect (broadcastSetup selected : Bool) : List Act :=
  match state with
  | .n6 =>
    .decode ::
      if broadcastSetup then
        [.cesAlloc, .selectResponse] ++
          if selected then
            [.stop .t303, .preselect, .setState .n8, .primitive (.setupConfirm true), .ces .connect]
          else [.ces .release]
      else
        [.stop .t303, .selectResponse] ++
          if selected then [.setState .n8, .primitive (.setupConfirm true)] else refuseChannel
  | .n7 =>
    .decode ::
      if broadcastSetup then
        [.cesAlloc, .selectResponse] ++
          if selected then
            [.stop .t301, .preselect, .setState .n8, .primitive .connectIndication, .ces .connect]
          else [.ces .release]
      else [.stop .t301, .setState .n8, .primitive .connectIndication]
  | .n8 => if broadcastSetup then refuseLate else messageNotCompatibleWithState state
  | .n9 =>
    .decode ::
      if broadcastSetup then
        [.cesAlloc, .selectResponse] ++
          if selected then
            [.stop .t310, .preselect, .setState .n8, .primitive .connectIndication, .ces .connect]
          else [.ces .release]
      else [.stop .t310, .setState .n8, .primitive .connectIndication]
  | .n22 => refuseLate
  | .n25 =>
    .decode ::
      if broadcastSetup then
        [.cesAlloc, .selectResponse] ++
          if selected then
            [.preselect, .setState .n8, .primitive .connectIndication, .ces .connect]
          else [.ces .release]
      else [.stop .t304, .setState .n8, .primitive .connectIndication]
  | .u2 =>
    [.decode, .stop .t304, .connect, .send .connectAcknowledge, .setState .u10,
      .primitive (.setupConfirm true)]
  | .u3 | .u4 =>
    [.decode, .connect, .send .connectAcknowledge, .setState .u10, .primitive (.setupConfirm true)]
  | _ => messageNotCompatibleWithState state

/-- `q931_handle_connect_acknowledge`. -/
def handleConnectAcknowledge : List Act :=
  match state with
  | .n10 => []
  | .u8 =>
    [.decode, .stop .t313, .connect, .setState .u10, .primitive (.setupCompleteIndication true)]
  | _ => messageNotCompatibleWithState state

/-- `q931_handle_progress`. -/
def handleProgress (broadcastSetup : Bool) (progress : Progress) : List Act :=
  match state with
  | .n7 | .n25 =>
    if broadcastSetup then messageNotCompatibleWithState state
    else [.decode, .primitive .progressIndication]
  | .n9 =>
    if broadcastSetup then messageNotCompatibleWithState state
    else [.decode, .stop .t310, .primitive .progressIndication]
  | .u2 =>
    [.decode, .control] ++
      (match progress with
      | .absent => [.absentIe]
      | .endsOverlap => [.stop .t304]
      | .other => []) ++ [.primitive .progressIndication]
  | .u3 | .u4 => [.decode, .control, .primitive .progressIndication]
  | _ => messageNotCompatibleWithState state

/-- `q931_handle_setup`; `found` says whether `q931_channel_select_setup` returns
a channel. A terminal does not mark it. -/
def handleSetup (digits found : Bool) : List Act :=
  match state with
  | .n0 =>
    .decode :: (if digits then [.setDigitsDialled] else []) ++
      if found then [.take true, .setState .n1, .primitive .setupIndication]
      else [.send .releaseComplete, .releaseReference]
  | .u0 =>
    .decode ::
      if found then [.take false, .setState .u6, .primitive .setupIndication]
      else [.forget, .send .releaseComplete, .setState .u0, .releaseReference]
  | _ => []

/-- `q931_handle_setup_acknowledge`. -/
def handleSetupAcknowledge (broadcastSetup selected : Bool) : List Act :=
  match state with
  | .n6 =>
    .decode ::
      if broadcastSetup then
        .selectResponse ::
          if selected then
            [.stop .t303, .cesAlloc, .start .t304, .setState .n25, .primitive .moreInfoIndication,
              .ces .setupAck]
          else refuseLate
      else
        [.stop .t303, .selectResponse] ++
          if selected then [.start .t304, .setState .n25, .primitive .moreInfoIndication]
          else refuseChannel
  | .n7 | .n9 | .n25 =>
    if broadcastSetup then
      [.decode, .cesAlloc, .selectResponse, if selected then .ces .setupAck else .ces .release]
    else messageNotCompatibleWithState state
  | .n8 =>
    if broadcastSetup then .decode :: refuseLate else messageNotCompatibleWithState state
  | .n22 => refuseLate
  | .u1 =>
    [.decode, .stop .t303, .selectResponse] ++
      if selected then [.start .t304, .setState .u2, .control, .primitive .moreInfoIndication]
      else [.send .release, .start .t308, .primitive .releaseIndication]
  | _ => messageNotCompatibleWithState state

/-- The network side receives a DISCONNECT and gives up the channel. -/
def disconnected : List Act := [.disconnect, .setState .n11, .primitive .disconnectIndication]

/-- The user side receives a DISCONNECT. -/
def disconnectedUser : List Act := [.setState .u12, .primitive .disconnectIndication]

/-- `q931_handle_disconnect`. -/
def handleDisconnect (broadcastSetup : Bool) : List Act :=
  match state with
  | .n1 | .n3 | .n4 | .n10 | .n17 => .decode :: disconnected
  | .n2 => [.decode, .stop .t302] ++ disconnected
  | .n7 =>
    if broadcastSetup then [.send .status] else [.decode, .stop .t301] ++ disconnected
  | .n8 =>
    if broadcastSetup then [.send .status]
    else [.decode, .release, .setState .n11, .primitive .disconnectIndication]
  | .n9 =>
    if broadcastSetup then [.send .status] else [.decode, .stop .t310] ++ disconnected
  | .n12 =>
    [.stop .t305, .stop .t306, .stopTone, .send .release, .start .t308, .setState .n19]
  | .n19 => []
  | .n25 =>
    if broadcastSetup then [.send .status] else [.decode, .stop .t304] ++ disconnected
  | .u2 => [.decode, .stop .t304, .control] ++ disconnectedUser
  | .u3 | .u4 => [.decode, .control] ++ disconnectedUser
  | .u6 | .u7 | .u10 => .decode :: disconnectedUser
  | .u8 | .u9 => [.decode, .stop .t313] ++ disconnectedUser
  | .u11 => [.stop .t305, .send .release, .start .t308, .setState .u19]
  | .u15 => [.decode, .stop .t319] ++ disconnectedUser
  | .u17 => [.stop .t318, .send .release, .start .t308, .setState .u19]
  | .u19 => []
  | .u25 => [.decode, .stop .t302] ++ disconnectedUser
  | _ => messageNotCompatibleWithState state

/-- The call is cleared by a RELEASE. -/
def cleared (null : State) : List Act :=
  [.release, .send .releaseComplete, .setState null, .releaseReference, .primitive .releaseIndication]

/-- The call has ended: the channel is free and the call gone. -/
def ended (null : State) (primitive : Primitive) : List Act :=
  [.release, .setState null, .releaseReference, .primitive primitive]

/-- `q931_handle_release`. -/
def handleRelease (broadcastSetup : Bool) : List Act :=
  match state with
  | .n0 | .u0 => [.send .releaseComplete, .releaseReference]
  | .n1 | .n3 | .n4 | .n10 | .n11 => .decode :: cleared .n0
  | .n2 => [.decode, .stop .t302] ++ cleared .n0
  | .n6 =>
    [.decode, .send .releaseComplete] ++
      if broadcastSetup then []
      else
        [.stop .t303, .release, .releaseReference, .setState .n0, .primitive .releaseIndication]
  | .n7 =>
    [.decode, .send .releaseComplete] ++
      if broadcastSetup then [] else .stop .t302 :: ended .n0 .releaseIndication
  | .n8 =>
    [.decode, .send .releaseComplete] ++
      if broadcastSetup then [] else ended .n0 .releaseIndication
  | .n9 =>
    [.decode, .send .releaseComplete] ++
      if broadcastSetup then [] else .stop .t310 :: ended .n0 .releaseIndication
  | .n12 => [.decode, .stop .t305, .stop .t306, .stopTone] ++ cleared .n0
  | .n19 => [.decode, .stop .t308] ++ ended .n0 (.releaseConfirm true)
  | .n22 => [.send .releaseComplete]
  | .n25 =>
    .decode ::
      if broadcastSetup then [.send .releaseComplete] else .stop .t304 :: cleared .n0
  | .u1 =>
    [.decode, .stop .t303, .send .releaseComplete, .setState .u0, .releaseReference,
      .primitive .releaseIndication]
  | .u2 => [.decode, .stop .t304] ++ cleared .u0
  | .u3 | .u4 | .u6 | .u7 | .u9 | .u10 | .u12 => .decode :: cleared .u0
  | .u8 => [.decode, .stop .t313] ++ cleared .u0
  | .u11 => [.decode, .stop .t305] ++ cleared .u0
  | .u15 => [.decode, .stop .t319] ++ cleared .u0
  | .u17 =>
    [.decode, .stop .t318, .send .releaseComplete, .setState .u0, .releaseReference,
      .primitive .releaseIndication]
  | .u19 => [.decode, .stop .t308] ++ ended .u0 (.releaseConfirm true)
  | .u25 => [.decode, .stop .t302, .send .releaseComplete] ++ ended .u0 .releaseIndication
  | .n15 | .n17 => messageNotCompatibleWithState state

/-- `q931_handle_release_complete`. -/
def handleReleaseComplete (broadcastSetup : Bool) : List Act :=
  .setReleaseCompleteReceived ::
  match state with
  | .n0 | .u0 | .n22 => []
  | .n1 | .n3 | .n4 =>
    [.decode, .release, .releaseReference, .setState .n0, .primitive .releaseIndication]
  | .n2 =>
    [.decode, .stop .t302, .release, .releaseReference, .setState .n0, .primitive .releaseIndication]
  | .n6 =>
    .decode ::
      if broadcastSetup then []
      else [.stop .t303, .release, .releaseReference, .setState .n0, .primitive .rejectIndication]
  | .n7 => .decode :: if broadcastSetup then [] else .stop .t301 :: ended .n0 .releaseIndication
  | .n8 => .decode :: if broadcastSetup then [] else ended .n0 .releaseIndication
  | .n9 => .decode :: if broadcastSetup then [] else .stop .t310 :: ended .n0 .releaseIndication
  | .n10 | .n11 => .decode :: ended .n0 .releaseIndication
  | .n12 => [.decode, .stop .t305, .stop .t306, .stopTone] ++ ended .n0 .releaseIndication
  | .n19 => [.decode, .stop .t308] ++ ended .n0 (.releaseConfirm true)
  | .n25 => .decode :: if broadcastSetup then [] else .stop .t304 :: ended .n0 .releaseIndication
  | .u1 =>
    [.decode, .release, .stop .t303, .releaseReference, .setState .u0, .primitive .rejectIndication]
  | .u2 => [.decode, .stop .t304] ++ ended .u0 .releaseIndication
  | .u3 | .u4 | .u6 | .u7 | .u9 | .u10 | .u12 => .decode :: ended .u0 .releaseIndication
  | .u8 => [.decode, .stop .t313] ++ ended .u0 .releaseIndication
  | .u11 => [.decode, .stop .t305] ++ ended .u0 .releaseIndication
  | .u15 => [.decode, .stop .t319] ++ ended .u0 .releaseIndication
  | .u17 =>
    [.decode, .stop .t318, .setState .u0, .releaseReference, .primitive .releaseIndication]
  | .u19 => [.decode, .stop .t308] ++ ended .u0 (.releaseConfirm true)
  | .u25 => [.decode, .stop .t302] ++ ended .u0 (.releaseConfirm true)
  | .n15 | .n17 => messageNotCompatibleWithState state

/-- A STATUS in a state other than the null state and that of a release. Either
side goes to the null state of the network side when the peer has no call. -/
def handleStatusActive (release : State) (reported : Reported) (answer : Answer) (t322 : Bool) :
    List Act :=
  .decode :: (if t322 && answer == .answered then [.stop .t322] else []) ++
  match reported with
  | .absent => [.absentIe]
  | .null =>
    [.stopAny, .release, .setState .n0, .releaseReference, .primitive (.statusIndication false),
      .primitive .releaseIndication]
  | .same => []
  | .other =>
    [.stopAny, .send .release, .start .t308, .setState release, .primitive (.statusIndication false),
      .primitive .releaseIndication]

/-- `q931_handle_status`. -/
def handleStatus (reported : Reported) (answer : Answer) (t322 : Bool) : List Act :=
  match state with
  | .n0 | .u0 =>
    let release : State := if state.isUser then .u19 else .n19
    .decode ::
      match reported with
      | .absent => [.absentIe]
      | .null | .same => []
      | .other => [.send .release, .setState release, .start .t308]
  | .n19 | .u19 =>
    let null : State := if state.isUser then .u0 else .n0
    .decode ::
      match reported with
      | .absent => [.absentIe]
      | .null => .stop .t308 :: ended null (.statusIndication false)
      | .same | .other => []
  | .n1 | .n2 | .n3 | .n4 | .n6 | .n7 | .n8 | .n9 | .n10 | .n11 | .n12 | .n15 | .n17 | .n22 | .n25 =>
    handleStatusActive .n19 reported answer t322
  | .u1 | .u2 | .u3 | .u4 | .u6 | .u7 | .u8 | .u9 | .u10 | .u11 | .u12 | .u15 | .u17 | .u25 =>
    handleStatusActive .u19 reported answer t322

/-- `q931_handle_info`. -/
def handleInfo (broadcastSetup : Bool) : List Act :=
  match state with
  | .n2 => [.decode, .stop .t302, .stopTone, .start .t302, .primitive .infoIndication]
  | .n3 | .n4 | .n10 | .n11 | .n12 | .n19 => [.decode, .primitive .infoIndication]
  | .n7 | .n8 | .n9 | .n25 =>
    if broadcastSetup then [.send .status] else [.decode, .primitive .infoIndication]
  | .u2 | .u3 | .u4 | .u6 | .u8 | .u9 | .u10 | .u11 | .u12 | .u15 | .u19 =>
    [.decode, .primitive .infoIndication]
  | .u25 => [.decode, .restart .t302, .primitive .infoIndication]
  | _ => messageNotCompatibleWithState state

/-- `q931_handle_notify`. -/
def handleNotify : List Act :=
  match state with
  | .n10 | .u10 | .u11 | .u15 => [.decode, .primitive .notifyIndication]
  | _ => []

/-- `q931_handle_resume`. -/
def handleResume (basic : Bool) : List Act :=
  match state with
  | .n0 =>
    if basic then [.decode, .setState .n17, .primitive .resumeIndication]
    else [.send .release, .start .t308, .setState .n19]
  | _ => messageNotCompatibleWithState state

/-- `q931_handle_resume_acknowledge`. -/
def handleResumeAcknowledge : List Act :=
  match state with
  | .u17 => [.decode, .stop .t318, .connect, .setState .u10, .primitive (.resumeConfirm .ok)]
  | _ => messageNotCompatibleWithState state

/-- `q931_handle_resume_reject`. -/
def handleResumeReject : List Act :=
  match state with
  | .u17 =>
    [.decode, .stop .t318, .setState .u0, .releaseReference, .primitive (.resumeConfirm .error)]
  | _ => messageNotCompatibleWithState state

/-- `q931_handle_suspend`. -/
def handleSuspend (basic : Bool) : List Act :=
  match state with
  | .n10 =>
    if basic then [.decode, .setState .n15, .primitive .suspendIndication]
    else [.send .suspendReject]
  | _ => messageNotCompatibleWithState state

/-- `q931_handle_suspend_acknowledge`. -/
def handleSuspendAcknowledge : List Act :=
  match state with
  | .u15 => [.decode, .stop .t319] ++ ended .u0 (.suspendConfirm .ok)
  | _ => messageNotCompatibleWithState state

/-- `q931_handle_suspend_reject`. -/
def handleSuspendReject : List Act :=
  match state with
  | .u15 => [.decode, .stop .t319, .setState .u10, .primitive (.suspendConfirm .error)]
  | _ => messageNotCompatibleWithState state

/-- A message `q931_dispatch_message` has no handler for. The network side comes
to the second condition in the state it has just entered. -/
def unrecognizedMessage : List Act :=
  match state with
  | .n0 => [.send .release, .start .t308, .setState .n19, .send .status]
  | .u0 => [.send .release, .start .t308, .setState .u19]
  | _ => [.send .status]

end Handlers

end Vstuff.Q931.Call
