import Mathlib.Data.List.TakeWhile
import Mathlib.Logic.Function.Basic
import Vstuff.Lib.Machine
import Vstuff.Q931.Mandatory
import Vstuff.Q931.CallMessages

/-! The process of one call as a machine: its state, timers and flags, the events
that happen to it, and what is done with them. What the process sees of the rest
of the interface (the channels, the terminals of a broadcast call) comes with the
event. -/
namespace Vstuff.Q931.Call
set_option linter.all false

/-- `struct q931_call` without its channel and its terminals. `released`, `sent` and
`fresh` are not in the source: how often `q931_call_release_reference` has been
executed, the messages sent in the last step, and that nothing has happened yet. -/
structure Process where
  state : State
  pending : Timer → Bool := fun _ => false
  broadcastSetup : Bool := false
  tonesOption : Bool := false
  t303Fired : Bool := false
  t308Fired : Bool := false
  senqReceived : Bool := false
  senqCnt : Nat := 0
  disconnectIndicationSent : Bool := false
  releaseCompleteReceived : Bool := false
  digitsDialled : Bool := false
  preselected : Bool := false
  released : Nat := 0
  sent : List MessageType := []
  fresh : Bool := true

/-- The call is on `intf->calls`. -/
def Process.listed (call : Process) : Bool := call.released == 0

/-- What the process sees of the rest of the interface: its configuration, whether
the call has a channel, what the functions that select one return, and what the
terminals of the call are like. -/
structure Env where
  basic : Bool
  multipoint : Bool
  enableBumping : Bool
  attached : Bool
  selected : Bool
  acquired : Bool
  found : Bool
  ableToProceed : Bool
  cesEmpty : Bool
  deriving DecidableEq, Repr

/-- A received message: its type, and what `q931_decode_ies` has found in it. -/
structure Received where
  type : UInt8
  location : Nat
  ds : DecoderStatus Content

/-- What `q931_call_decode_ies` makes of the message. -/
def Received.judgement (msg : Received) : Judgement := callJudge msg.location msg.type msg.ds

/-- The elements of the message. -/
def Received.ies (msg : Received) : List Content := msg.ds.ies.map (·.ie.content)

/-- What can happen to a call. -/
inductive Event where
  | alertingRequest | disconnectRequest | infoRequest | moreInfoRequest | notifyRequest
  | proceedingRequest | progressRequest | rejectRequest | releaseRequest | resumeRequest
  | resumeRejectRequest | resumeResponse | setupCompleteRequest | setupRequest | setupResponse
  | statusEnquiryRequest (one : Bool)
  | suspendRejectRequest | suspendResponse | suspendRequest | restartRequest
  | intAlertingIndication | intConnectIndication | intCallProceedingIndication
  | intReleaseCompleteIndication | intInfoIndication | intProgressIndication | intReleaseIndication
  | timer (timer : Timer)
  | message (msg : Received)
  /-- The first message with a call reference that is not in use. -/
  | unknown (toOriginating : Bool) (msg : Received)
  | dlEstablishIndication | dlEstablishConfirm | dlReleaseIndication | dlReleaseConfirm

/-! ## What a message says -/

/-- `q931_call_state_to_ie_state`. -/
def State.toIeState : State → Nat
  | .u0 | .n0 => 0x00
  | .u1 | .n1 => 0x01
  | .u2 | .n2 => 0x02
  | .u3 | .n3 => 0x03
  | .u4 | .n4 => 0x04
  | .u6 | .n6 => 0x06
  | .u7 | .n7 => 0x07
  | .u8 | .n8 => 0x08
  | .u9 | .n9 => 0x09
  | .u10 | .n10 => 0x0a
  | .u11 | .n11 => 0x0b
  | .u12 | .n12 => 0x0c
  | .u15 | .n15 => 0x0f
  | .u17 | .n17 => 0x11
  | .u19 | .n19 => 0x13
  | .n22 => 0x16
  | .u25 | .n25 => 0x19

/-- What the last call state of a STATUS says. -/
def reportedBy (state : State) (ies : List Content) : Reported :=
  match (ies.filterMap fun | .callState ie => some ie.value | _ => none).getLast? with
  | none => .absent
  | some value => if value = 0 then .null else if value = state.toIeState then .same else .other

/-- `q931_ies_contain_cause`. -/
def containCause (ies : List Content) (value : Nat) : Bool :=
  ies.any fun | .cause ie => ie.value == value | _ => false

def messageTypeNonExistentOrImplemented : Nat := 97

def messageTypeNotCompatibleWithState : Nat := 98

def responseToStatusEnquiry : Nat := 30

/-- What the causes of a STATUS say to a status enquiry. -/
def answerIn (ies : List Content) : Answer :=
  if containCause ies messageTypeNonExistentOrImplemented || containCause ies messageTypeNotCompatibleWithState
  then .refused
  else if containCause ies responseToStatusEnquiry then .answered
  else .none

/-- The first progress indicator of a PROGRESS. -/
def progressIn (ies : List Content) : Progress :=
  match ies.findSome? (fun | .progressIndicator ie => some ie.progressDescription | _ => none) with
  | none => .absent
  | some description => if description = 1 ∨ description = 2 then .endsOverlap else .other

/-- A called party number has digits. -/
def hasDigits (ies : List Content) : Bool :=
  ies.any fun | .calledPartyNumber ie => ie.number != [] | _ => false

/-! ## What is done about an event -/

/-- A handler with the conditions it finds; they are named as its parameters. -/
inductive Branch where
  | alertingRequest
  | disconnectRequest (broadcastSetup tonesOption t312 : Bool)
  | infoRequest (broadcastSetup t304 : Bool)
  | moreInfoRequest (broadcastSetup tonesOption digitsDialled : Bool)
  | notifyRequest
  | proceedingRequest
  | progressRequest
  | rejectRequest
  | releaseRequest
  | resumeRequest
  | resumeRejectRequest
  | resumeResponse
  | setupCompleteRequest (broadcastSetup : Bool)
  | setupRequest (acquired enableBumping multipoint : Bool)
  | setupResponse
  | statusEnquiryRequest (broadcastSetup one t322 : Bool)
  | suspendRejectRequest
  | suspendResponse
  | suspendRequest
  | restartRequest
  | intAlertingIndication
  | intConnectIndication (selected : Bool)
  | intCallProceedingIndication
  | intReleaseCompleteIndication (cesEmpty disconnectIndicationSent : Bool)
  | intInfoIndication
  | intProgressIndication
  | intReleaseIndication (ableToProceed preselected t312 : Bool)
  | timerT301 (broadcastSetup t312 : Bool)
  | timerT302
  | timerT303 (broadcastSetup t303Fired releaseCompleteReceived : Bool)
  | timerT304 (broadcastSetup t312 : Bool)
  | timerT305
  | timerT306
  | timerT308 (t308Fired multipoint attached : Bool)
  | timerT309
  | timerT310 (broadcastSetup t312 : Bool)
  | timerT312 (ableToProceed cesEmpty disconnectIndicationSent : Bool)
  | timerT313
  | timerT318
  | timerT319
  | timerT322 (received given : Bool)
  | handleAlerting (broadcastSetup selected : Bool)
  | handleCallProceeding (broadcastSetup selected : Bool)
  | handleConnect (broadcastSetup selected : Bool)
  | handleConnectAcknowledge
  | handleProgress (broadcastSetup : Bool) (progress : Progress)
  | handleSetup (digits found : Bool)
  | handleSetupAcknowledge (broadcastSetup selected : Bool)
  | handleDisconnect (broadcastSetup : Bool)
  | handleRelease (broadcastSetup : Bool)
  | handleReleaseComplete (broadcastSetup : Bool)
  | handleStatus (reported : Reported) (answer : Answer) (t322 : Bool)
  | handleStatusEnquiry
  | handleInfo (broadcastSetup : Bool)
  | handleNotify
  | handleResume (basic : Bool)
  | handleResumeAcknowledge
  | handleResumeReject
  | handleSuspend (basic : Bool)
  | handleSuspendAcknowledge
  | handleSuspendReject
  | unrecognizedMessage
  | unknownRelease
  | unknownReleaseComplete
  | unknownMessage
  | dlEstablishIndication (broadcastSetup tonesOption : Bool)
  | dlEstablishConfirm
  | dlReleaseIndication (broadcastSetup t309 : Bool)
  | nothing
  deriving DecidableEq, Repr

section Each
variable (p : Branch → Prop)

def Branch.EachRequest : Prop :=
  p .alertingRequest ∧
  (∀ broadcastSetup tonesOption t312, p (.disconnectRequest broadcastSetup tonesOption t312)) ∧
  (∀ broadcastSetup t304, p (.infoRequest broadcastSetup t304)) ∧
  (∀ broadcastSetup tonesOption digitsDialled, p (.moreInfoRequest broadcastSetup tonesOption digitsDialled)) ∧
  p .notifyRequest ∧
  p .proceedingRequest ∧
  p .progressRequest ∧
  p .rejectRequest ∧
  p .releaseRequest ∧
  p .resumeRequest ∧
  p .resumeRejectRequest ∧
  p .resumeResponse ∧
  (∀ broadcastSetup, p (.setupCompleteRequest broadcastSetup)) ∧
  (∀ acquired enableBumping multipoint, p (.setupRequest acquired enableBumping multipoint)) ∧
  p .setupResponse ∧
  (∀ broadcastSetup one t322, p (.statusEnquiryRequest broadcastSetup one t322)) ∧
  p .suspendRejectRequest ∧
  p .suspendResponse ∧
  p .suspendRequest ∧
  p .restartRequest

def Branch.EachIndication : Prop :=
  p .intAlertingIndication ∧
  (∀ selected, p (.intConnectIndication selected)) ∧
  p .intCallProceedingIndication ∧
  (∀ cesEmpty disconnectIndicationSent, p (.intReleaseCompleteIndication cesEmpty disconnectIndicationSent)) ∧
  p .intInfoIndication ∧
  p .intProgressIndication ∧
  (∀ ableToProceed preselected t312, p (.intReleaseIndication ableToProceed preselected t312))

def Branch.EachTimer : Prop :=
  (∀ broadcastSetup t312, p (.timerT301 broadcastSetup t312)) ∧
  p .timerT302 ∧
  (∀ broadcastSetup t303Fired releaseCompleteReceived, p (.timerT303 broadcastSetup t303Fired releaseCompleteReceived)) ∧
  (∀ broadcastSetup t312, p (.timerT304 broadcastSetup t312)) ∧
  p .timerT305 ∧
  p .timerT306 ∧
  (∀ t308Fired multipoint attached, p (.timerT308 t308Fired multipoint attached)) ∧
  p .timerT309 ∧
  (∀ broadcastSetup t312, p (.timerT310 broadcastSetup t312)) ∧
  (∀ ableToProceed cesEmpty disconnectIndicationSent, p (.timerT312 ableToProceed cesEmpty disconnectIndicationSent)) ∧
  p .timerT313 ∧
  p .timerT318 ∧
  p .timerT319 ∧
  (∀ received given, p (.timerT322 received given))

def Branch.EachMessage : Prop :=
  (∀ broadcastSetup selected, p (.handleAlerting broadcastSetup selected)) ∧
  (∀ broadcastSetup selected, p (.handleCallProceeding broadcastSetup selected)) ∧
  (∀ broadcastSetup selected, p (.handleConnect broadcastSetup selected)) ∧
  p .handleConnectAcknowledge ∧
  (∀ broadcastSetup progress, p (.handleProgress broadcastSetup progress)) ∧
  (∀ digits found, p (.handleSetup digits found)) ∧
  (∀ broadcastSetup selected, p (.handleSetupAcknowledge broadcastSetup selected)) ∧
  (∀ broadcastSetup, p (.handleDisconnect broadcastSetup)) ∧
  (∀ broadcastSetup, p (.handleRelease broadcastSetup)) ∧
  (∀ broadcastSetup, p (.handleReleaseComplete broadcastSetup)) ∧
  (∀ reported answer t322, p (.handleStatus reported answer t322)) ∧
  p .handleStatusEnquiry ∧
  (∀ broadcastSetup, p (.handleInfo broadcastSetup)) ∧
  p .handleNotify ∧
  (∀ basic, p (.handleResume basic)) ∧
  p .handleResumeAcknowledge ∧
  p .handleResumeReject ∧
  (∀ basic, p (.handleSuspend basic)) ∧
  p .handleSuspendAcknowledge ∧
  p .handleSuspendReject ∧
  p .unrecognizedMessage ∧
  p .unknownRelease ∧
  p .unknownReleaseComplete ∧
  p .unknownMessage

def Branch.EachLink : Prop :=
  (∀ broadcastSetup tonesOption, p (.dlEstablishIndication broadcastSetup tonesOption)) ∧
  p .dlEstablishConfirm ∧
  (∀ broadcastSetup t309, p (.dlReleaseIndication broadcastSetup t309)) ∧
  p .nothing

/-- Something is true of each branch. -/
def Branch.Each : Prop :=
  Branch.EachRequest p ∧ Branch.EachIndication p ∧ Branch.EachTimer p ∧ Branch.EachMessage p ∧ Branch.EachLink p

theorem Branch.each_iff : Branch.Each p ↔ ∀ branch, p branch := by
  constructor
  · rintro ⟨requests, indications, timers, messages, links⟩ branch
    simp only [Branch.EachRequest, Branch.EachIndication, Branch.EachTimer, Branch.EachMessage, Branch.EachLink]
      at requests indications timers messages links
    cases branch <;> simp only [requests, indications, timers, messages, links]
  · intro every
    simp only [Branch.Each, Branch.EachRequest, Branch.EachIndication, Branch.EachTimer, Branch.EachMessage,
      Branch.EachLink, every, implies_true, and_self]

variable [DecidablePred p]

instance : Decidable (Branch.EachRequest p) := by unfold Branch.EachRequest; infer_instance

instance : Decidable (Branch.EachIndication p) := by unfold Branch.EachIndication; infer_instance

instance : Decidable (Branch.EachTimer p) := by unfold Branch.EachTimer; infer_instance

instance : Decidable (Branch.EachMessage p) := by unfold Branch.EachMessage; infer_instance

instance : Decidable (Branch.EachLink p) := by unfold Branch.EachLink; infer_instance

instance : Decidable (Branch.Each p) := by unfold Branch.Each; infer_instance

instance decidableBranches : Decidable (∀ branch, p branch) := decidable_of_iff _ (Branch.each_iff p)

end Each

/-- What is done in a state. The last ones before the data link are what
`q931_receive` does with a message for a call that has just been made for it. -/
def Branch.acts (state : State) : Branch → List Act
  | alertingRequest => Call.alertingRequest state
  | disconnectRequest broadcastSetup tonesOption t312 =>
    Call.disconnectRequest state broadcastSetup tonesOption t312
  | infoRequest broadcastSetup t304 => Call.infoRequest state broadcastSetup t304
  | moreInfoRequest broadcastSetup tonesOption digitsDialled =>
    Call.moreInfoRequest state broadcastSetup tonesOption digitsDialled
  | notifyRequest => Call.notifyRequest state
  | proceedingRequest => Call.proceedingRequest state
  | progressRequest => Call.progressRequest state
  | rejectRequest => Call.rejectRequest state
  | releaseRequest => Call.releaseRequest state
  | resumeRequest => Call.resumeRequest state
  | resumeRejectRequest => Call.resumeRejectRequest state
  | resumeResponse => Call.resumeResponse state
  | setupCompleteRequest broadcastSetup => Call.setupCompleteRequest state broadcastSetup
  | setupRequest acquired enableBumping multipoint =>
    Call.setupRequest state acquired enableBumping multipoint
  | setupResponse => Call.setupResponse state
  | statusEnquiryRequest broadcastSetup one t322 => Call.statusEnquiryRequest state broadcastSetup one t322
  | suspendRejectRequest => Call.suspendRejectRequest state
  | suspendResponse => Call.suspendResponse state
  | suspendRequest => Call.suspendRequest state
  | restartRequest => Call.restartRequest state
  | intAlertingIndication => Call.intAlertingIndication state
  | intConnectIndication selected => Call.intConnectIndication state selected
  | intCallProceedingIndication => Call.intCallProceedingIndication state
  | intReleaseCompleteIndication cesEmpty disconnectIndicationSent =>
    Call.intReleaseCompleteIndication state cesEmpty disconnectIndicationSent
  | intInfoIndication => Call.intInfoIndication state
  | intProgressIndication => Call.intProgressIndication state
  | intReleaseIndication ableToProceed preselected t312 =>
    Call.intReleaseIndication state ableToProceed preselected t312
  | timerT301 broadcastSetup t312 => Call.timerT301 state broadcastSetup t312
  | timerT302 => Call.timerT302 state
  | timerT303 broadcastSetup t303Fired releaseCompleteReceived =>
    Call.timerT303 state broadcastSetup t303Fired releaseCompleteReceived
  | timerT304 broadcastSetup t312 => Call.timerT304 state broadcastSetup t312
  | timerT305 => Call.timerT305 state
  | timerT306 => Call.timerT306 state
  | timerT308 t308Fired multipoint attached => Call.timerT308 state t308Fired multipoint attached
  | timerT309 => Call.timerT309 state
  | timerT310 broadcastSetup t312 => Call.timerT310 state broadcastSetup t312
  | timerT312 ableToProceed cesEmpty disconnectIndicationSent =>
    Call.timerT312 state ableToProceed cesEmpty disconnectIndicationSent
  | timerT313 => Call.timerT313 state
  | timerT318 => Call.timerT318 state
  | timerT319 => Call.timerT319 state
  | timerT322 received given => Call.timerT322 state received given
  | handleAlerting broadcastSetup selected => Call.handleAlerting state broadcastSetup selected
  | handleCallProceeding broadcastSetup selected => Call.handleCallProceeding state broadcastSetup selected
  | handleConnect broadcastSetup selected => Call.handleConnect state broadcastSetup selected
  | handleConnectAcknowledge => Call.handleConnectAcknowledge state
  | handleProgress broadcastSetup progress => Call.handleProgress state broadcastSetup progress
  | handleSetup digits found => Call.handleSetup state digits found
  | handleSetupAcknowledge broadcastSetup selected =>
    Call.handleSetupAcknowledge state broadcastSetup selected
  | handleDisconnect broadcastSetup => Call.handleDisconnect state broadcastSetup
  | handleRelease broadcastSetup => Call.handleRelease state broadcastSetup
  | handleReleaseComplete broadcastSetup => Call.handleReleaseComplete state broadcastSetup
  | handleStatus reported answer t322 => Call.handleStatus state reported answer t322
  | handleStatusEnquiry => [.send .status]
  | handleInfo broadcastSetup => Call.handleInfo state broadcastSetup
  | handleNotify => Call.handleNotify state
  | handleResume basic => Call.handleResume state basic
  | handleResumeAcknowledge => Call.handleResumeAcknowledge state
  | handleResumeReject => Call.handleResumeReject state
  | handleSuspend basic => Call.handleSuspend state basic
  | handleSuspendAcknowledge => Call.handleSuspendAcknowledge state
  | handleSuspendReject => Call.handleSuspendReject state
  | unrecognizedMessage => Call.unrecognizedMessage state
  | unknownRelease => [.send .releaseComplete, .releaseReference]
  | unknownReleaseComplete => [.releaseReference]
  | unknownMessage => [.send .release, .start .t308, .setState (if state = .n0 then .n19 else .u19)]
  | dlEstablishIndication broadcastSetup tonesOption =>
    Call.dlEstablishIndication state broadcastSetup tonesOption
  | dlEstablishConfirm => Call.dlEstablishConfirm state
  | dlReleaseIndication broadcastSetup t309 => Call.dlReleaseIndication state broadcastSetup t309
  | nothing => []

section
variable (call : Process) (env : Env)

/-- `q931_dispatch_message`. -/
def dispatchMessage (msg : Received) : Branch :=
  if msg.type = MessageType.alerting.code then .handleAlerting call.broadcastSetup env.selected
  else if msg.type = MessageType.callProceeding.code then
    .handleCallProceeding call.broadcastSetup env.selected
  else if msg.type = MessageType.connect.code then .handleConnect call.broadcastSetup env.selected
  else if msg.type = MessageType.connectAcknowledge.code then .handleConnectAcknowledge
  else if msg.type = MessageType.progress.code then
    .handleProgress call.broadcastSetup (progressIn msg.ies)
  else if msg.type = MessageType.setup.code then .handleSetup (hasDigits msg.ies) env.found
  else if msg.type = MessageType.setupAcknowledge.code then
    .handleSetupAcknowledge call.broadcastSetup env.selected
  else if msg.type = MessageType.disconnect.code then .handleDisconnect call.broadcastSetup
  else if msg.type = MessageType.release.code then .handleRelease call.broadcastSetup
  else if msg.type = MessageType.releaseComplete.code then .handleReleaseComplete call.broadcastSetup
  else if msg.type = MessageType.status.code then
    .handleStatus (reportedBy call.state msg.ies) (answerIn msg.ies) (call.pending .t322)
  else if msg.type = MessageType.statusEnquiry.code then .handleStatusEnquiry
  else if msg.type = MessageType.information.code then .handleInfo call.broadcastSetup
  else if msg.type = MessageType.notify.code then .handleNotify
  else if msg.type = MessageType.resume.code then .handleResume env.basic
  else if msg.type = MessageType.resumeAcknowledge.code then .handleResumeAcknowledge
  else if msg.type = MessageType.resumeReject.code then .handleResumeReject
  else if msg.type = MessageType.suspend.code then .handleSuspend env.basic
  else if msg.type = MessageType.suspendAcknowledge.code then .handleSuspendAcknowledge
  else if msg.type = MessageType.suspendReject.code then .handleSuspendReject
  else .unrecognizedMessage

/-- The handlers of the messages. -/
def Branch.ofMessage : Branch → Bool
  | handleAlerting _ _ | handleCallProceeding _ _ | handleConnect _ _ | handleConnectAcknowledge
  | handleProgress _ _ | handleSetup _ _ | handleSetupAcknowledge _ _ | handleDisconnect _
  | handleRelease _ | handleReleaseComplete _ | handleStatus _ _ _ | handleStatusEnquiry | handleInfo _
  | handleNotify | handleResume _ | handleResumeAcknowledge | handleResumeReject | handleSuspend _
  | handleSuspendAcknowledge | handleSuspendReject | unrecognizedMessage => true
  | _ => false

theorem dispatchMessage_ofMessage (msg : Received) : (dispatchMessage call env msg).ofMessage := by
  unfold dispatchMessage
  repeat' refine iteInduction (motive := fun branch => Branch.ofMessage branch = true) (fun _ => ?_) (fun _ => ?_)
  all_goals rfl

/-- `q931_receive` with a message for a call that has just been made for it. -/
def receiveUnknown (toOriginating : Bool) (msg : Received) : Branch :=
  if msg.type = MessageType.release.code then .unknownRelease
  else if msg.type = MessageType.releaseComplete.code then .unknownReleaseComplete
  else if msg.type = MessageType.setup.code ∨ msg.type = MessageType.resume.code then
    if toOriginating then .unknownReleaseComplete else dispatchMessage call env msg
  else if msg.type = MessageType.status.code then dispatchMessage call env msg
  else .unknownMessage

/-- The handler of a timer. -/
def expire : Timer → Branch
  | .t301 => .timerT301 call.broadcastSetup (call.pending .t312)
  | .t302 => .timerT302
  | .t303 => .timerT303 call.broadcastSetup call.t303Fired call.releaseCompleteReceived
  | .t304 => .timerT304 call.broadcastSetup (call.pending .t312)
  | .t305 => .timerT305
  | .t306 => .timerT306
  | .t308 => .timerT308 call.t308Fired env.multipoint env.attached
  | .t309 => .timerT309
  | .t310 => .timerT310 call.broadcastSetup (call.pending .t312)
  | .t312 => .timerT312 env.ableToProceed env.cesEmpty call.disconnectIndicationSent
  | .t313 => .timerT313
  | .t318 => .timerT318
  | .t319 => .timerT319
  | .t322 => .timerT322 call.senqReceived (decide (call.senqCnt > 3))
  | .t314 | .t316 | .t320 | .t321 => .nothing

/-- The branch an event takes. -/
def choose : Event → Branch
  | .alertingRequest => .alertingRequest
  | .disconnectRequest => .disconnectRequest call.broadcastSetup call.tonesOption (call.pending .t312)
  | .infoRequest => .infoRequest call.broadcastSetup (call.pending .t304)
  | .moreInfoRequest => .moreInfoRequest call.broadcastSetup call.tonesOption call.digitsDialled
  | .notifyRequest => .notifyRequest
  | .proceedingRequest => .proceedingRequest
  | .progressRequest => .progressRequest
  | .rejectRequest => .rejectRequest
  | .releaseRequest => .releaseRequest
  | .resumeRequest => .resumeRequest
  | .resumeRejectRequest => .resumeRejectRequest
  | .resumeResponse => .resumeResponse
  | .setupCompleteRequest => .setupCompleteRequest call.broadcastSetup
  | .setupRequest => .setupRequest env.acquired env.enableBumping env.multipoint
  | .setupResponse => .setupResponse
  | .statusEnquiryRequest one => .statusEnquiryRequest call.broadcastSetup one (call.pending .t322)
  | .suspendRejectRequest => .suspendRejectRequest
  | .suspendResponse => .suspendResponse
  | .suspendRequest => .suspendRequest
  | .restartRequest => .restartRequest
  | .intAlertingIndication => .intAlertingIndication
  | .intConnectIndication => .intConnectIndication env.selected
  | .intCallProceedingIndication => .intCallProceedingIndication
  | .intReleaseCompleteIndication =>
    .intReleaseCompleteIndication env.cesEmpty call.disconnectIndicationSent
  | .intInfoIndication => .intInfoIndication
  | .intProgressIndication => .intProgressIndication
  | .intReleaseIndication =>
    .intReleaseIndication env.ableToProceed call.preselected (call.pending .t312)
  | .timer timer => expire call env timer
  | .message msg => dispatchMessage call env msg
  | .unknown toOriginating msg => receiveUnknown call env toOriginating msg
  | .dlEstablishIndication => .dlEstablishIndication call.broadcastSetup call.tonesOption
  | .dlEstablishConfirm => .dlEstablishConfirm
  | .dlReleaseIndication => .dlReleaseIndication call.broadcastSetup (call.pending .t309)
  | .dlReleaseConfirm => .nothing

/-- What `q931_call_decode_ies` makes of the message of an event. -/
def Event.judgement : Event → Judgement
  | .message msg | .unknown _ msg => msg.judgement
  | _ => { handled := true, sent := [] }

/-- The elements of the message are decoded where the handler says so, and the
rest of it is executed if they are in order. -/
def decoded (judgement : Judgement) : List Act → List Act
  | [] => []
  | .decode :: rest =>
    judgement.sent.map (.send ·.type) ++ if judgement.handled then decoded judgement rest else []
  | act :: rest => act :: decoded judgement rest

/-- The acts an event leads to. -/
def respond (e : Event) : List Act := decoded e.judgement ((choose call env e).acts call.state)

end

/-! ## What the acts do to the process -/

def Process.setPending (call : Process) (timer : Timer) (value : Bool) : Process :=
  { call with pending := Function.update call.pending timer value }

/-- What an act does to the call, apart from its channel and its terminals. A
timer that is started again stays pending. -/
def Process.act (call : Process) : Act → Process
  | .setState state => { call with state := state }
  | .send type => { call with sent := call.sent ++ [type] }
  | .sendSetupBc => { call with sent := call.sent ++ [.setup] }
  | .start timer | .restart timer => call.setPending timer true
  | .stop timer => call.setPending timer false
  | .stopAny => { call with pending := fun _ => false }
  | .releaseReference => { call with released := call.released + 1 }
  | .preselect => { call with preselected := true }
  | .setBroadcast => { call with broadcastSetup := true }
  | .setDigitsDialled => { call with digitsDialled := true }
  | .setDisconnectIndicationSent => { call with disconnectIndicationSent := true }
  | .setReleaseCompleteReceived => { call with releaseCompleteReceived := true }
  | .setT303Fired => { call with t303Fired := true }
  | .setT308Fired => { call with t308Fired := true }
  | .senqReset => { call with senqReceived := false, senqCnt := 0 }
  | .senqAgain => { call with senqCnt := call.senqCnt + 1 }
  | .connect | .control | .disconnect | .release | .maintain | .startTone | .stopTone | .chansetAdd
  | .acquire | .selectResponse | .take _ | .forget | .primitive _ | .restartConfirm | .decode | .absentIe
  | .cesAlloc | .cesFree | .cesFreeSelected | .ces _ | .cesAll _ => call

/-- The acts one after the other. -/
def Process.perform (call : Process) (acts : List Act) : Process := acts.foldl Process.act call

/-- The call when an event comes: nothing has been sent, and a timer that expires
is not pending any more. -/
def Process.ready (call : Process) : Event → Process
  | .timer timer => { call.setPending timer false with sent := [], fresh := false }
  | _ => { call with sent := [], fresh := false }

/-- An event that can happen: a timer expires when it is pending; messages, the
data link and restarts reach the calls on `intf->calls`; and a call is made for a
message with an unknown call reference. -/
def Process.enabled (call : Process) : Event → Bool
  | .timer timer => call.pending timer
  | .message _ | .restartRequest | .dlEstablishIndication | .dlEstablishConfirm | .dlReleaseIndication
  | .dlReleaseConfirm => call.listed
  | .unknown _ _ => call.fresh
  | _ => true

/-- One step of the process; the program ends when it looks at an element that is
not there. -/
def Process.step (call : Process) (e : Env × Event) : Option Process :=
  if call.enabled e.2 then
    let call := call.ready e.2
    let acts := respond call e.1 e.2
    if .absentIe ∈ acts then none else some (call.perform acts)
  else none

/-- `q931_call_alloc`; who makes the call says whether it is for the broadcast
link, and whether the network provides tones. -/
def alloc (role : Lapd.IntfRole) (broadcastSetup tonesOption : Bool) : Process where
  state := if role = .te then .u0 else .n0
  broadcastSetup := broadcastSetup
  tonesOption := tonesOption

/-! ## Acts and decoding -/

/-- The messages sent by acts. -/
def sends : List Act → List MessageType
  | [] => []
  | .send type :: rest => type :: sends rest
  | .sendSetupBc :: rest => .setup :: sends rest
  | _ :: rest => sends rest

theorem sends_append (first second : List Act) : sends (first ++ second) = sends first ++ sends second := by
  induction first with
  | nil => rfl
  | cons act first ih => cases act <;> simp [sends, ih]

theorem sends_reports (reports : List Report) : sends (reports.map (.send ·.type)) = reports.map (·.type) := by
  induction reports with
  | nil => rfl
  | cons report reports ih => simp [sends, ih]

theorem perform_sent (acts : List Act) : ∀ call : Process, (call.perform acts).sent = call.sent ++ sends acts := by
  induction acts with
  | nil => intro call; simp [Process.perform, sends]
  | cons act acts ih =>
    intro call
    have rest := ih (call.act act)
    simp only [Process.perform, List.foldl_cons] at rest ⊢
    rw [rest]
    cases act <;> simp [Process.act, sends, Process.setPending]

/-- The acts that are reached when the elements of the message are in order, or are
not. -/
def reached (handled : Bool) (acts : List Act) : List Act :=
  if handled then acts else acts.takeWhile (· != .decode)

theorem decoded_cons {judgement : Judgement} {act : Act} {acts : List Act} (plain : act ≠ .decode) :
    decoded judgement (act :: acts) = act :: decoded judgement acts := by
  cases act <;> first | rfl | exact absurd rfl plain

theorem reached_cons {handled : Bool} {act : Act} {acts : List Act} (plain : act ≠ .decode) :
    reached handled (act :: acts) = act :: reached handled acts := by
  cases handled with
  | true => rfl
  | false => simp [reached, plain]

theorem reached_subset (handled : Bool) (acts : List Act) : reached handled acts ⊆ acts := by
  cases handled with
  | true => exact List.Subset.refl acts
  | false => exact (List.takeWhile_sublist _).subset

/-- Nothing is done before the elements are decoded, but for a note that a RELEASE
COMPLETE has come. -/
def upToDecode (branch : Branch) : List Act → Bool
  | .decode :: _ | .setReleaseCompleteReceived :: .decode :: _ => branch.ofMessage
  | acts => !acts.contains .decode

theorem branch_upToDecode : ∀ (branch : Branch) (state : State), upToDecode branch (branch.acts state) := by
  intro branch state
  revert branch
  cases state
  all_goals decide +kernel

theorem reached_false {branch : Branch} {acts : List Act} (early : upToDecode branch acts) :
    reached false acts = acts ∨
    branch.ofMessage ∧ (reached false acts = [] ∨ reached false acts = [.setReleaseCompleteReceived]) := by
  unfold upToDecode at early
  split at early
  · exact .inr ⟨early, .inl rfl⟩
  · exact .inr ⟨early, .inr rfl⟩
  · refine .inl (List.takeWhile_eq_self_iff.mpr fun act member => ?_)
    rw [bne_iff_ne]
    rintro rfl
    rw [List.contains_iff_mem.mpr member] at early
    cases early

/-- What is true of all acts of a branch, and of none or of the note alone where it
is a message, is true of those that are reached. -/
theorem of_reached {p : List Act → Prop} {branch : Branch} {state : State} (handled : Bool)
    (all : p (branch.acts state)) (none : branch.ofMessage → p [] ∧ p [.setReleaseCompleteReceived]) :
    p (reached handled (branch.acts state)) := by
  cases handled with
  | true => exact all
  | false =>
    rcases reached_false (branch_upToDecode branch state) with same | ⟨message, nothing | note⟩
    · rw [same]
      exact all
    · rw [nothing]
      exact (none message).1
    · rw [note]
      exact (none message).2

theorem decoded_of_no_decode {judgement : Judgement} {acts : List Act} (none : .decode ∉ acts) :
    decoded judgement acts = acts := by
  induction acts with
  | nil => rfl
  | cons first acts ih =>
    obtain ⟨here, later⟩ := not_or.mp (mt List.mem_cons.mpr none)
    rw [decoded_cons (Ne.symm here), ih later]

theorem perform_cons (call : Process) (act : Act) (acts : List Act) :
    call.perform (act :: acts) = (call.act act).perform acts := rfl

theorem perform_append (call : Process) (first second : List Act) :
    call.perform (first ++ second) = (call.perform first).perform second := List.foldl_append ..

theorem perform_fresh (acts : List Act) : ∀ call : Process, (call.perform acts).fresh = call.fresh := by
  induction acts with
  | nil => intro call; rfl
  | cons act acts ih =>
    intro call
    rw [perform_cons, ih]
    cases act <;> rfl

/-- A timer that is pending afterwards has been started, or was and has not been
stopped. -/
theorem perform_pending (acts : List Act) {timer : Timer} :
    ∀ call : Process, (call.perform acts).pending timer →
      (.start timer ∈ acts ∨ .restart timer ∈ acts) ∨
      call.pending timer ∧ .stop timer ∉ acts ∧ .stopAny ∉ acts := by
  induction acts with
  | nil => intro call pending; exact .inr ⟨pending, nofun, nofun⟩
  | cons act acts ih =>
    intro call pending
    have updated : ∀ {other value}, (call.setPending other value).pending timer →
        other = timer ∧ value ∨ other ≠ timer ∧ call.pending timer := by
      intro other value now
      by_cases same : other = timer
      · subst same
        exact .inl ⟨rfl, by simpa [Process.setPending] using now⟩
      · exact .inr ⟨same, by simpa [Process.setPending, Function.update_of_ne (Ne.symm same)] using now⟩
    rcases ih (call.act act) pending with started | ⟨before, running, kept⟩
    · exact .inl (started.imp (List.mem_cons_of_mem _) (List.mem_cons_of_mem _))
    · cases act with
      | start other =>
        rcases updated before with ⟨rfl, -⟩ | ⟨-, before⟩
        · exact .inl (.inl (List.mem_cons_self ..))
        · exact .inr ⟨before, by simp [running], by simp [kept]⟩
      | restart other =>
        rcases updated before with ⟨rfl, -⟩ | ⟨-, before⟩
        · exact .inl (.inr (List.mem_cons_self ..))
        · exact .inr ⟨before, by simp [running], by simp [kept]⟩
      | stop other =>
        rcases updated before with ⟨-, ⟨⟩⟩ | ⟨other, before⟩
        exact .inr ⟨before, by simp [running, Ne.symm other], by simp [kept]⟩
      | stopAny => cases before
      | _ => exact .inr ⟨before, by simp [running], by simp [kept]⟩

/-- The state after the acts. -/
def lastState (state : State) : List Act → State
  | [] => state
  | .setState next :: rest => lastState next rest
  | _ :: rest => lastState state rest

theorem perform_state (acts : List Act) : ∀ call : Process, (call.perform acts).state = lastState call.state acts := by
  induction acts with
  | nil => intro call; rfl
  | cons act acts ih =>
    intro call
    rw [perform_cons, ih]
    cases act <;> rfl

theorem perform_released (acts : List Act) :
    ∀ call : Process, (call.perform acts).released = call.released + acts.count .releaseReference := by
  induction acts with
  | nil => intro call; rfl
  | cons act acts ih =>
    intro call
    rw [perform_cons, ih, List.count_cons]
    cases act <;> first | rfl | exact Nat.add_right_comm ..

/-- What has been sent makes no difference. -/
theorem perform_with_sent (acts : List Act) : ∀ (call : Process) (sent : List MessageType),
    ({ call with sent := sent } : Process).perform acts = { call.perform acts with sent := sent ++ sends acts } := by
  induction acts with
  | nil => intro call sent; simp [Process.perform, sends]
  | cons act acts ih =>
    intro call sent
    have first : ({ call with sent := sent } : Process).act act =
        { call.act act with sent := sent ++ sends [act] } := by
      cases act <;> simp [Process.act, Process.setPending, sends]
    rw [perform_cons, perform_cons, first, ih, List.append_assoc, ← sends_append]
    rfl

theorem perform_reports (reports : List Report) : ∀ call : Process,
    call.perform (reports.map (.send ·.type)) = { call with sent := call.sent ++ reports.map (·.type) } := by
  induction reports with
  | nil => intro call; simp [Process.perform]
  | cons report reports ih =>
    intro call
    rw [List.map_cons, perform_cons, ih]
    simp [Process.act]

/-- But for the reports, what is reached is done. -/
theorem perform_decoded (judgement : Judgement) (acts : List Act) : ∀ call : Process,
    ∃ sent, call.perform (decoded judgement acts) =
      { call.perform (reached judgement.handled acts) with sent := sent } := by
  induction acts with
  | nil => intro call; exact ⟨call.sent, by cases judgement.handled <;> rfl⟩
  | cons act acts ih =>
    intro call
    by_cases decodes : act = .decode
    · subst decodes
      rw [decoded, perform_append, perform_reports]
      cases handled : judgement.handled with
      | true =>
        rw [if_pos rfl, perform_with_sent]
        rw [handled] at ih
        obtain ⟨sent, same⟩ := ih call
        exact ⟨_, by rw [same]; rfl⟩
      | false => exact ⟨_, rfl⟩
    · rw [decoded_cons decodes, reached_cons decodes, perform_cons, perform_cons]
      exact ih (call.act act)

/-- What a step does. -/
theorem step_eq_some {call next : Process} {e : Env × Event} (took : call.step e = some next) :
    call.enabled e.2 ∧ .absentIe ∉ respond (call.ready e.2) e.1 e.2 ∧
      next = (call.ready e.2).perform (respond (call.ready e.2) e.1 e.2) := by
  unfold Process.step at took
  by_cases enabled : call.enabled e.2
  · rw [if_pos enabled] at took
    by_cases absent : .absentIe ∈ respond (call.ready e.2) e.1 e.2
    · rw [if_pos absent] at took
      cases took
    · rw [if_neg absent, Option.some.injEq] at took
      exact ⟨enabled, absent, took.symm⟩
  · rw [if_neg enabled] at took
    cases took

theorem step_of_present {call : Process} {e : Env × Event} (enabled : call.enabled e.2)
    (present : .absentIe ∉ respond (call.ready e.2) e.1 e.2) :
    call.step e = some ((call.ready e.2).perform (respond (call.ready e.2) e.1 e.2)) := by
  simp only [Process.step, if_pos enabled, if_neg present]

@[simp] theorem ready_state (call : Process) (e : Event) : (call.ready e).state = call.state := by cases e <;> rfl

@[simp] theorem ready_sent (call : Process) (e : Event) : (call.ready e).sent = [] := by cases e <;> rfl

@[simp] theorem ready_fresh (call : Process) (e : Event) : (call.ready e).fresh = false := by cases e <;> rfl

theorem ready_pending {call : Process} {e : Event} {timer : Timer} (pending : (call.ready e).pending timer) :
    call.pending timer := by
  cases e with
  | timer expired =>
    by_cases same : timer = expired
    · subst same
      simp [Process.ready, Process.setPending] at pending
    · simpa [Process.ready, Process.setPending, Function.update_of_ne same] using pending
  | _ => exact pending

/-- The branch an event takes in a step. -/
def Process.takes (call : Process) (e : Env × Event) : Branch := choose (call.ready e.2) e.1 e.2

/-- What is reached of it. -/
def Process.does (call : Process) (e : Env × Event) : List Act :=
  reached e.2.judgement.handled ((call.takes e).acts call.state)

section Step
variable {call next : Process} {e : Env × Event}

theorem step_does (took : call.step e = some next) :
    ∃ sent, next = { (call.ready e.2).perform (call.does e) with sent := sent } := by
  obtain ⟨-, -, rfl⟩ := step_eq_some took
  obtain ⟨sent, same⟩ := perform_decoded e.2.judgement
    ((call.takes e).acts (call.ready e.2).state) (call.ready e.2)
  rw [ready_state] at same
  exact ⟨sent, by rw [respond, ready_state]; exact same⟩

theorem step_state (took : call.step e = some next) : next.state = lastState call.state (call.does e) := by
  obtain ⟨sent, rfl⟩ := step_does took
  rw [perform_state, ready_state]

theorem step_released (took : call.step e = some next) :
    next.released = call.released + (call.does e).count .releaseReference := by
  obtain ⟨sent, rfl⟩ := step_does took
  have same : (call.ready e.2).released = call.released := by cases e.2 <;> rfl
  rw [perform_released, same]

theorem step_fresh (took : call.step e = some next) : next.fresh = false := by
  obtain ⟨sent, rfl⟩ := step_does took
  rw [perform_fresh, ready_fresh]

theorem step_pending (took : call.step e = some next) {timer : Timer} (pending : next.pending timer) :
    (.start timer ∈ call.does e ∨ .restart timer ∈ call.does e) ∨
    (call.ready e.2).pending timer ∧ .stop timer ∉ call.does e ∧ .stopAny ∉ call.does e := by
  obtain ⟨sent, rfl⟩ := step_does took
  exact perform_pending _ _ pending

end Step

end Vstuff.Q931.Call
