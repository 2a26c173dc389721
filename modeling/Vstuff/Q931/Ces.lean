import Vstuff.Q931.CallEnd

/-! The terminals of a broadcast call (`ces.c`): the network side keeps a connection
endpoint for each terminal that has answered its SETUP, with a state machine of its
own that indicates to the call what its terminal does. -/
namespace Vstuff.Q931.Call
set_option linter.all false

/-- `enum q931_ces_state`. -/
inductive CesState where
  | i0 | i7 | i8 | i9 | i19 | i25
  deriving DecidableEq, Repr

def CesState.all : List CesState := [.i0, .i7, .i8, .i9, .i19, .i25]

theorem CesState.mem_all (state : CesState) : state ∈ CesState.all := by cases state <;> decide

instance (p : CesState → Prop) [DecidablePred p] : Decidable (∀ state, p state) :=
  decidableForall CesState.all CesState.mem_all p

/-- The timers of `struct q931_ces`. -/
inductive CesTimer where
  | t304 | t308 | t322
  deriving DecidableEq, Repr

instance (p : CesTimer → Prop) [DecidablePred p] : Decidable (∀ timer, p timer) :=
  decidableForall [.t304, .t308, .t322] (fun timer => by cases timer <;> decide) p

/-- What a terminal indicates to its call: the `q931_int_*` functions of `call.c`. -/
inductive Indication where
  | alerting | connect | callProceeding | releaseComplete | info | progress | release
  deriving DecidableEq, Repr

def Indication.event : Indication → Event
  | alerting => .intAlertingIndication
  | connect => .intConnectIndication
  | callProceeding => .intCallProceedingIndication
  | releaseComplete => .intReleaseCompleteIndication
  | info => .intInfoIndication
  | progress => .intProgressIndication
  | release => .intReleaseIndication

/-- What a handler of a terminal does. -/
inductive CesAct where
  | setState (state : CesState)
  | send (type : MessageType)
  | start (timer : CesTimer)
  | stop (timer : CesTimer)
  | stopAny
  | indicate (indication : Indication)
  /-- `q931_call_primitive1` with a status indication of the call. -/
  | statusIndication
  | setT308Fired
  | senqAgain
  /-- `q931_call_decode_ies`, which may end the handler. -/
  | decode
  /-- What `q931_call_decode_ies` reports, on the link of the call. -/
  | report (type : MessageType)
  /-- An element is looked at that is not there. -/
  | absentIe
  deriving DecidableEq, Repr

/-! ## Requests of the call -/

section Requests
variable (state : CesState)

/-- `q931_ces_alerting_request`. -/
def cesAlertingRequest : List CesAct :=
  match state with
  | .i0 => [.setState .i7]
  | _ => []

/-- `q931_ces_connect_request`. -/
def cesConnectRequest : List CesAct :=
  match state with
  | .i0 => [.setState .i8]
  | _ => []

/-- `q931_ces_call_proceeding_request`. -/
def cesCallProceedingRequest : List CesAct :=
  match state with
  | .i0 => [.setState .i9]
  | _ => []

/-- `q931_ces_setup_ack_request`. -/
def cesSetupAckRequest : List CesAct :=
  match state with
  | .i0 => [.start .t304, .setState .i25]
  | _ => []

/-- `q931_ces_release_request`. -/
def cesReleaseRequest : List CesAct :=
  match state with
  | .i0 | .i7 | .i8 | .i9 => [.start .t308, .send .release, .setState .i19]
  | .i25 => [.stop .t304, .start .t308, .send .release, .setState .i19]
  | .i19 => []

/-- `q931_ces_info_request`. -/
def cesInfoRequest : List CesAct :=
  match state with
  | .i7 | .i8 | .i9 => [.send .information]
  | .i25 => [.stop .t304, .send .information, .start .t304]
  | .i0 | .i19 => []

/-- `q931_ces_status_enquiry_request`; `callT322` says whether T322 of the call is
running, here and below. -/
def cesStatusEnquiryRequest (callT322 : Bool) : List CesAct :=
  match state with
  | .i0 => []
  | _ => if callT322 then [] else [.send .statusEnquiry, .start .t322]

def cesRequest (callT322 : Bool) : CesRequest → List CesAct
  | .alerting => cesAlertingRequest state
  | .connect => cesConnectRequest state
  | .callProceeding => cesCallProceedingRequest state
  | .setupAck => cesSetupAckRequest state
  | .release => cesReleaseRequest state
  | .info => cesInfoRequest state
  | .statusEnquiry => cesStatusEnquiryRequest state callT322

end Requests

/-! ## Messages -/

/-- What the last cause of a STATUS says to a status enquiry of the call. -/
inductive CesCause where
  | absent | refused | answered | other
  deriving DecidableEq, Repr

instance (p : CesCause → Prop) [DecidablePred p] : Decidable (∀ cause, p cause) :=
  decidableForall [.absent, .refused, .answered, .other] (fun cause => by cases cause <;> decide) p

section Messages
variable (state : CesState)

/-- `_q931_ces_message_not_compatible_with_state`. -/
def cesMessageNotCompatibleWithState : List CesAct :=
  match state with
  | .i0 => []
  | _ => [.send .status]

/-- `q931_ces_handle_alerting`. -/
def cesHandleAlerting : List CesAct :=
  match state with
  | .i9 => [.decode, .setState .i7, .indicate .alerting]
  | .i25 => [.decode, .stop .t304, .setState .i7, .indicate .alerting]
  | _ => cesMessageNotCompatibleWithState state

/-- `q931_ces_handle_call_proceeding`. -/
def cesHandleCallProceeding : List CesAct :=
  match state with
  | .i25 => [.decode, .stop .t304, .setState .i9, .indicate .callProceeding]
  | _ => cesMessageNotCompatibleWithState state

/-- `q931_ces_handle_connect`. -/
def cesHandleConnect : List CesAct :=
  match state with
  | .i7 | .i9 => [.decode, .setState .i8, .indicate .connect]
  | .i25 => [.decode, .stop .t304, .setState .i8, .indicate .connect]
  | _ => cesMessageNotCompatibleWithState state

/-- `q931_ces_handle_progress`. -/
def cesHandleProgress : List CesAct :=
  match state with
  | .i7 | .i9 => [.decode, .indicate .progress]
  | .i25 => [.decode, .stop .t304, .indicate .progress]
  | _ => cesMessageNotCompatibleWithState state

/-- `q931_ces_handle_disconnect`. -/
def cesHandleDisconnect : List CesAct :=
  match state with
  | .i7 | .i8 | .i9 => [.decode, .send .release, .start .t308, .setState .i19, .indicate .release]
  | .i19 => []
  | .i25 => [.decode, .stop .t304, .send .release, .start .t308, .setState .i19, .indicate .release]
  | .i0 => cesMessageNotCompatibleWithState state

/-- `q931_ces_handle_release`. -/
def cesHandleRelease : List CesAct :=
  match state with
  | .i7 | .i8 | .i9 =>
    [.decode, .send .releaseComplete, .indicate .release, .indicate .releaseComplete]
  | .i19 => [.decode, .stop .t308, .indicate .releaseComplete]
  | .i25 =>
    [.decode, .stop .t304, .send .releaseComplete, .indicate .release, .indicate .releaseComplete]
  | .i0 => cesMessageNotCompatibleWithState state

/-- `q931_ces_handle_release_complete`. -/
def cesHandleReleaseComplete : List CesAct :=
  match state with
  | .i7 | .i8 | .i9 => [.decode, .indicate .release, .indicate .releaseComplete]
  | .i19 => [.decode, .stop .t308, .indicate .releaseComplete]
  | .i25 => [.decode, .stop .t304, .indicate .release, .indicate .releaseComplete]
  | .i0 => cesMessageNotCompatibleWithState state

/-- What is done about the call state of a STATUS. -/
def cesReported : Reported → List CesAct
  | .null => [.stopAny, .indicate .release, .indicate .releaseComplete]
  | .same => []
  | .absent | .other =>
    [.stopAny, .send .release, .start .t308, .setState .i19, .statusIndication, .indicate .release]

/-- `q931_ces_handle_status`. T322 of the call is looked at, not that of the terminal. -/
def cesHandleStatus (callT322 : Bool) (cause : CesCause) (reported : Reported) : List CesAct :=
  match state with
  | .i7 | .i8 | .i9 | .i25 =>
    .decode ::
      if callT322 then
        match cause with
        | .absent => [.absentIe]
        | .refused => []
        | .answered => .stop .t322 :: cesReported reported
        | .other => cesReported reported
      else cesReported reported
  | .i19 =>
    .decode ::
      match reported with
      | .null => [.stop .t308, .indicate .releaseComplete]
      | .absent | .same | .other => []
  | .i0 => cesMessageNotCompatibleWithState state

/-- `q931_ces_handle_info`. -/
def cesHandleInfo : List CesAct :=
  match state with
  | .i7 | .i8 | .i9 => [.decode, .indicate .info]
  | .i19 | .i25 => []
  | .i0 => cesMessageNotCompatibleWithState state

/-- `q931_ces_handle_status_enquiry`. -/
def cesHandleStatusEnquiry : List CesAct := [.send .status]

end Messages

/-! ## Timers and the data link -/

section Timers
variable (state : CesState)

/-- `q931_ces_timer_T304`. -/
def cesTimerT304 : List CesAct :=
  match state with
  | .i25 => [.send .release, .start .t308, .setState .i19, .indicate .release]
  | _ => []

/-- `q931_ces_timer_T308`. -/
def cesTimerT308 (t308Fired : Bool) : List CesAct :=
  match state with
  | .i19 =>
    if !t308Fired then [.send .release, .start .t308, .setT308Fired] else [.indicate .releaseComplete]
  | _ => []

/-- `q931_ces_timer_T322`; `given` says whether `senq_cnt` is above three. -/
def cesTimerT322 (received given : Bool) : List CesAct :=
  match state with
  | .i0 => []
  | _ =>
    if received then []
    else if given then [.send .release, .start .t308, .indicate .release]
    else [.send .statusEnquiry, .start .t322, .senqAgain]

/-- `q931_ces_dl_establish_indication`. -/
def cesDlEstablishIndication : List CesAct :=
  match state with
  | .i25 => [.stop .t304, .send .release, .start .t308, .setState .i19, .indicate .release]
  | _ => []

/-- `q931_ces_dl_release_indication`. -/
def cesDlReleaseIndication : List CesAct :=
  match state with
  | .i0 => []
  | _ => [.stopAny, .indicate .release, .indicate .releaseComplete]

end Timers

/-! ## What a terminal does -/

instance (p : CesRequest → Prop) [DecidablePred p] : Decidable (∀ request, p request) :=
  decidableForall [.alerting, .connect, .callProceeding, .setupAck, .release, .info, .statusEnquiry]
    (fun request => by cases request <;> decide) p

/-- A handler of a terminal with the conditions it finds. -/
inductive CesBranch where
  | request (callT322 : Bool) (request : CesRequest)
  | handleAlerting
  | handleCallProceeding
  | handleConnect
  | handleProgress
  | handleDisconnect
  | handleRelease
  | handleReleaseComplete
  | handleStatus (callT322 : Bool) (cause : CesCause) (reported : Reported)
  | handleInfo
  | handleStatusEnquiry
  | messageNotCompatibleWithState
  | timerT304
  | timerT308 (t308Fired : Bool)
  | timerT322 (received given : Bool)
  | dlEstablishIndication
  | dlReleaseIndication
  | nothing
  deriving DecidableEq, Repr

section
variable (p : CesBranch → Prop)

/-- Something is true of each branch. -/
def CesBranch.Each : Prop :=
  (∀ callT322 request, p (.request callT322 request)) ∧
  p .handleAlerting ∧ p .handleCallProceeding ∧ p .handleConnect ∧ p .handleProgress ∧ p .handleDisconnect ∧
  p .handleRelease ∧ p .handleReleaseComplete ∧
  (∀ callT322 cause reported, p (.handleStatus callT322 cause reported)) ∧
  p .handleInfo ∧ p .handleStatusEnquiry ∧ p .messageNotCompatibleWithState ∧ p .timerT304 ∧
  (∀ t308Fired, p (.timerT308 t308Fired)) ∧
  (∀ received given, p (.timerT322 received given)) ∧
  p .dlEstablishIndication ∧ p .dlReleaseIndication ∧ p .nothing

theorem CesBranch.each_iff : CesBranch.Each p ↔ ∀ branch, p branch := by
  constructor
  · intro every branch
    simp only [CesBranch.Each] at every
    cases branch <;> simp only [every]
  · intro every
    simp only [CesBranch.Each, every, implies_true, and_self]

instance [DecidablePred p] : Decidable (CesBranch.Each p) := by unfold CesBranch.Each; infer_instance

instance [DecidablePred p] : Decidable (∀ branch, p branch) := decidable_of_iff _ (CesBranch.each_iff p)

end

/-- What is done in a state. -/
def CesBranch.acts (state : CesState) : CesBranch → List CesAct
  | request callT322 asked => cesRequest state callT322 asked
  | handleAlerting => cesHandleAlerting state
  | handleCallProceeding => cesHandleCallProceeding state
  | handleConnect => cesHandleConnect state
  | handleProgress => cesHandleProgress state
  | handleDisconnect => cesHandleDisconnect state
  | handleRelease => cesHandleRelease state
  | handleReleaseComplete => cesHandleReleaseComplete state
  | handleStatus callT322 cause reported => cesHandleStatus state callT322 cause reported
  | handleInfo => cesHandleInfo state
  | handleStatusEnquiry => cesHandleStatusEnquiry
  | messageNotCompatibleWithState => cesMessageNotCompatibleWithState state
  | timerT304 => cesTimerT304 state
  | timerT308 t308Fired => cesTimerT308 state t308Fired
  | timerT322 received given => cesTimerT322 state received given
  | dlEstablishIndication => cesDlEstablishIndication state
  | dlReleaseIndication => cesDlReleaseIndication state
  | nothing => []

/-! ## A terminal -/

/-- `struct q931_ces`: its address, its link, its state, timers and flags. `releases`,
`repeats` and `answered` are not in the source: how often a RELEASE has been sent
outside the release state, and in it, and that T308 has been stopped for an answer. -/
structure Ces where
  id : Nat
  link : Nat
  state : CesState := .i0
  pending : CesTimer → Bool := fun _ => false
  t308Fired : Bool
  senqReceived : Bool
  senqCnt : Int
  releases : Nat := 0
  repeats : Nat := 0
  answered : Bool := false

namespace Ces

def setPending (ces : Ces) (timer : CesTimer) (value : Bool) : Ces :=
  { ces with pending := Function.update ces.pending timer value }

/-- A RELEASE is counted where it is sent. -/
def sends (ces : Ces) (type : MessageType) : Ces :=
  if type = .release then
    if ces.state = .i19 then { ces with repeats := ces.repeats + 1 } else { ces with releases := ces.releases + 1 }
  else ces

/-- What an act does to the terminal. -/
def act (ces : Ces) : CesAct → Ces
  | .setState state => { ces with state := state }
  | .send type => ces.sends type
  | .start timer => ces.setPending timer true
  | .stop timer => { ces.setPending timer false with answered := ces.answered || timer == .t308 }
  | .stopAny => { ces with pending := fun _ => false }
  | .setT308Fired => { ces with t308Fired := true }
  | .senqAgain => { ces with senqCnt := ces.senqCnt + 1 }
  | .indicate _ | .statusIndication | .decode | .report _ | .absentIe => ces

/-- The acts one after the other. -/
def perform (ces : Ces) (acts : List CesAct) : Ces := acts.foldl Ces.act ces

/-- The handler of a timer. -/
def expire (ces : Ces) : CesTimer → CesBranch
  | .t304 => .timerT304
  | .t308 => .timerT308 ces.t308Fired
  | .t322 => .timerT322 ces.senqReceived (decide (ces.senqCnt > 3))

end Ces

/-- `q931_ces_state_to_ie_state`. -/
def CesState.toIeState : CesState → Nat
  | .i0 => 0x00
  | .i7 => 0x07
  | .i8 => 0x08
  | .i9 => 0x09
  | .i19 => 0x13
  | .i25 => 0x19

/-- What the last call state of a STATUS says of a terminal. -/
def CesState.reportedBy (state : CesState) (ies : List Content) : Reported :=
  match (ies.filterMap fun | .callState ie => some ie.value | _ => none).getLast? with
  | none => .absent
  | some value => if value = 0 then .null else if value = state.toIeState then .same else .other

/-- What the last cause says. -/
def cesCauseIn (ies : List Content) : CesCause :=
  match (ies.filterMap fun | .cause ie => some ie.value | _ => none).getLast? with
  | none => .absent
  | some value =>
    if value = messageTypeNonExistentOrImplemented then .refused
    else if value = responseToStatusEnquiry then .answered
    else .other

/-- The messages a terminal does not expect at all. -/
def cesUnexpected : List MessageType := [
  .connectAcknowledge, .setupAcknowledge, .restart, .restartAcknowledge, .userInformation, .segment,
  .congestionControl, .facility, .notify, .hold, .holdAcknowledge, .holdReject, .retrieve,
  .retrieveAcknowledge, .retrieveReject, .resume, .resumeAcknowledge, .resumeReject, .suspend,
  .suspendAcknowledge, .suspendReject]

/-- `q931_ces_dispatch_message`. -/
def Ces.dispatchMessage (ces : Ces) (callT322 : Bool) (msg : Received) : CesBranch :=
  if msg.type = MessageType.alerting.code then .handleAlerting
  else if msg.type = MessageType.callProceeding.code then .handleCallProceeding
  else if msg.type = MessageType.connect.code then .handleConnect
  else if msg.type = MessageType.progress.code then .handleProgress
  else if msg.type = MessageType.disconnect.code then .handleDisconnect
  else if msg.type = MessageType.release.code then .handleRelease
  else if msg.type = MessageType.releaseComplete.code then .handleReleaseComplete
  else if msg.type = MessageType.status.code then
    .handleStatus callT322 (cesCauseIn msg.ies) (ces.state.reportedBy msg.ies)
  else if msg.type = MessageType.information.code then .handleInfo
  else if msg.type = MessageType.statusEnquiry.code then .handleStatusEnquiry
  else if cesUnexpected.any (·.code == msg.type) then .messageNotCompatibleWithState
  else .nothing

/-- The elements of the message are decoded where the handler says so, and the
rest of it is executed if they are in order. -/
def cesDecoded (judgement : Judgement) : List CesAct → List CesAct
  | [] => []
  | .decode :: rest =>
    judgement.sent.map (.report ·.type) ++ if judgement.handled then cesDecoded judgement rest else []
  | act :: rest => act :: cesDecoded judgement rest

/-- What is not a matter of a message has nothing to decode. -/
def unjudged : Judgement := { handled := true, sent := [] }

end Vstuff.Q931.Call
