import Vstuff.Q931.Message

/-! The process of one call (`call.c`): what it does when the call control asks for
something, a timer expires, the data link comes or goes, or one of the terminals of
a broadcast call reports. A handler looks at the state of the call and at a few
conditions and lists the effects of the branch it takes, in the order of the
source; logging and the elements of the messages are left out. -/
namespace Vstuff.Q931.Call
set_option linter.all false

/-- What is asked of every value can be tried when the values can be listed. -/
def decidableForall {α : Type} (all : List α) (complete : ∀ a, a ∈ all) (p : α → Prop) [DecidablePred p] :
    Decidable (∀ a, p a) :=
  decidable_of_iff (∀ a ∈ all, p a) ⟨fun every a => every a (complete a), fun every a _ => every a⟩

/-- `enum q931_call_state`; the letter is the side, the number that of the
state. -/
inductive State where
  | u0 | u1 | u2 | u3 | u4 | u6 | u7 | u8 | u9 | u10 | u11 | u12 | u15 | u17 | u19 | u25
  | n0 | n1 | n2 | n3 | n4 | n6 | n7 | n8 | n9 | n10 | n11 | n12 | n15 | n17 | n19 | n22 | n25
  deriving DecidableEq, Repr

def State.all : List State := [
  .u0, .u1, .u2, .u3, .u4, .u6, .u7, .u8, .u9, .u10, .u11, .u12, .u15, .u17, .u19, .u25,
  .n0, .n1, .n2, .n3, .n4, .n6, .n7, .n8, .n9, .n10, .n11, .n12, .n15, .n17, .n19, .n22, .n25]

theorem State.mem_all (state : State) : state ∈ State.all := by cases state <;> decide

instance (p : State → Prop) [DecidablePred p] : Decidable (∀ state, p state) :=
  decidableForall State.all State.mem_all p

/-- The timers of `struct q931_call`. -/
inductive Timer where
  | t301 | t302 | t303 | t304 | t305 | t306 | t308 | t309 | t310 | t312 | t313 | t314 | t316 | t318
  | t319 | t320 | t321 | t322
  deriving DecidableEq, Repr

def Timer.all : List Timer := [
  .t301, .t302, .t303, .t304, .t305, .t306, .t308, .t309, .t310, .t312, .t313, .t314, .t316, .t318,
  .t319, .t320, .t321, .t322]

theorem Timer.mem_all (timer : Timer) : timer ∈ Timer.all := by cases timer <;> decide

instance (p : Timer → Prop) [DecidablePred p] : Decidable (∀ timer, p timer) :=
  decidableForall Timer.all Timer.mem_all p

/-- The status of a SUSPEND-CONFIRM or RESUME-CONFIRM. -/
inductive ConfirmStatus where
  | ok | error | timeout
  deriving DecidableEq, Repr

/-- The `Q931_CCB_*` primitives of a call. -/
inductive Primitive where
  | alertingIndication | connectIndication | disconnectIndication | infoIndication
  | moreInfoIndication | notifyIndication | proceedingIndication | progressIndication
  | rejectIndication | releaseIndication | resumeIndication | setupIndication | suspendIndication
  | releaseConfirm (ok : Bool)
  | setupConfirm (ok : Bool)
  | setupCompleteIndication (ok : Bool)
  | statusIndication (ok : Bool)
  | resumeConfirm (status : ConfirmStatus)
  | suspendConfirm (status : ConfirmStatus)
  deriving DecidableEq, Repr

/-- The requests of `ces.c`. -/
inductive CesRequest where
  | alerting | connect | callProceeding | setupAck | release | info | statusEnquiry
  deriving DecidableEq, Repr

/-- What a handler does. The channel is that of the call; the acts on it have the
names of the functions in `channel.c`. -/
inductive Act where
  | setState (state : State)
  | send (type : MessageType)
  | sendSetupBc
  | start (timer : Timer)
  | restart (timer : Timer)
  | stop (timer : Timer)
  | stopAny
  | connect
  | control
  | disconnect
  | release
  | maintain
  | startTone
  | stopTone
  | chansetAdd
  | acquire
  | selectResponse
  /-- The channel of a SETUP is given to the call, and marked or not. -/
  | take (marked : Bool)
  /-- The call has no channel any more, or none was found. -/
  | forget
  | releaseReference
  | primitive (primitive : Primitive)
  | restartConfirm
  /-- `q931_call_decode_ies`, which may end the handler. -/
  | decode
  /-- An element is looked at that is not there. -/
  | absentIe
  | cesAlloc
  | cesFree
  | cesFreeSelected
  | ces (request : CesRequest)
  | cesAll (request : CesRequest)
  | preselect
  | setBroadcast
  | setDigitsDialled
  | setDisconnectIndicationSent
  | setReleaseCompleteReceived
  | setT303Fired
  | setT308Fired
  | senqReset
  | senqAgain
  deriving DecidableEq, Repr

/-! ## Requests of the call control -/

section Requests
variable (state : State)

/-- `q931_alerting_request`. -/
def alertingRequest : List Act :=
  match state with
  | .n2 => [.stop .t302, .send .alerting, .setState .n4]
  | .n3 => [.send .alerting, .setState .n4]
  | .u6 => [.chansetAdd, .send .alerting, .setState .u7]
  | .u8 | .u9 => [.send .alerting, .setState .u7]
  | .u25 => [.stop .t302, .send .alerting, .setState .u7]
  | _ => []

/-- The network disconnects, with a tone if it provides them. -/
def disconnectWithTone (tonesOption : Bool) : List Act :=
  (if tonesOption then [.send .disconnect, .startTone, .start .t306]
  else [.disconnect, .send .disconnect, .start .t305]) ++ [.setState .n12]

/-- A broadcast call is given up: its terminals are released, and the call waits
for late ones while T312 runs. -/
def abandon (t312 : Bool) : List Act :=
  .release :: if t312 then [.setState .n22, .cesAll .release]
  else [.setState .n0, .releaseReference, .cesAll .release, .primitive .releaseIndication]

/-- `q931_disconnect_request`. -/
def disconnectRequest (broadcastSetup tonesOption t312 : Bool) : List Act :=
  .setDisconnectIndicationSent ::
  match state with
  | .n2 => .stop .t302 :: disconnectWithTone tonesOption
  | .n3 | .n4 | .n10 | .n15 => disconnectWithTone tonesOption
  | .n6 =>
    .stop .t303 ::
      if broadcastSetup then [.disconnect, .setState .n22] else disconnectWithTone tonesOption
  | .n7 =>
    .stop .t301 ::
      if broadcastSetup then
        .release :: if t312 then [.setState .n22, .cesAll .release]
        else [.cesAll .release, .primitive .releaseIndication, .setState .n0, .releaseReference]
      else [.send .disconnect, .start .t305, .setState .n12]
  | .n8 =>
    if broadcastSetup then abandon t312 else [.send .disconnect, .start .t305, .setState .n12]
  | .n9 =>
    .stop .t310 ::
      if broadcastSetup then abandon t312
      else [.send .disconnect, .release, .start .t305, .setState .n12]
  | .n25 =>
    .stop .t304 ::
      if broadcastSetup then abandon t312
      else [.send .disconnect, .disconnect, .start .t305, .setState .n12]
  | .u1 => [.stop .t303, .send .disconnect, .start .t305, .setState .u11]
  | .u2 => [.stop .t304, .disconnect, .send .disconnect, .start .t305, .setState .u11]
  | .u3 | .u4 | .u7 | .u9 | .u10 => [.disconnect, .send .disconnect, .start .t305, .setState .u11]
  | .u8 => [.stop .t313, .disconnect, .send .disconnect, .start .t305, .setState .u11]
  | .u25 => [.stop .t302, .disconnect, .send .disconnect, .start .t305, .setState .u11]
  | _ => []

/-- `q931_info_request`. -/
def infoRequest (broadcastSetup t304 : Bool) : List Act :=
  match state with
  | .n2 | .n3 | .n4 | .n10 | .n11 | .n12 => [.send .information]
  | .n6 => []
  | .n7 | .n8 | .n9 => if broadcastSetup then [.cesAll .info] else [.send .information]
  | .u1 => []
  | .u2 => .send .information :: if t304 then [.restart .t304] else []
  | .u3 | .u4 | .u7 | .u8 | .u9 | .u10 | .u11 | .u12 | .u25 => [.send .information]
  | _ => []

/-- `q931_more_info_request`. -/
def moreInfoRequest (broadcastSetup tonesOption digitsDialled : Bool) : List Act :=
  match state with
  | .n1 =>
    [.start .t302, .chansetAdd, .send .setupAcknowledge, .connect] ++
      (if !digitsDialled && tonesOption then [.startTone] else []) ++ [.setState .n2]
  | .n25 => if broadcastSetup then [.cesAll .info] else [.send .information, .start .t304]
  | .u6 => [.chansetAdd, .send .setupAcknowledge, .start .t302, .setState .u25]
  | _ => []

/-- `q931_notify_request`. -/
def notifyRequest : List Act :=
  match state with
  | .n10 | .n15 | .u10 => [.send .notify]
  | _ => []

/-- `q931_proceeding_request`. -/
def proceedingRequest : List Act :=
  match state with
  | .n1 => [.chansetAdd, .send .callProceeding, .connect, .setState .n3]
  | .n2 => [.stop .t302, .send .callProceeding, .setState .n3]
  | .u6 => [.chansetAdd, .send .callProceeding, .setState .u9]
  | .u25 => [.stop .t302, .send .callProceeding, .setState .u9]
  | _ => []

/-- `q931_progress_request`. -/
def progressRequest : List Act :=
  match state with
  | .n2 | .n3 | .n4 | .u7 | .u8 => [.send .progress]
  | .u25 => [.stop .t302, .send .progress]
  | _ => []

/-- `q931_reject_request`. A terminal keeps the channel. -/
def rejectRequest : List Act :=
  match state with
  | .n1 => [.send .releaseComplete, .release, .setState .n0, .releaseReference]
  | .u6 => [.send .releaseComplete, .setState .u0, .releaseReference]
  | _ => []

/-- `q931_release_request`. -/
def releaseRequest : List Act :=
  match state with
  | .n11 => [.send .release, .start .t308, .setState .n19]
  | .u12 => [.disconnect, .send .release, .start .t308, .setState .u19]
  | _ => []

/-- `q931_resume_request`. On a primary access the request is reported as
unexpected and carried out. -/
def resumeRequest : List Act :=
  match state with
  | .u0 => [.send .resume, .start .t318, .setState .u17]
  | _ => []

/-- `q931_resume_reject_request`. -/
def resumeRejectRequest : List Act :=
  match state with
  | .n17 => [.send .resumeReject, .releaseReference, .setState .n0]
  | _ => []

/-- `q931_resume_response`. -/
def resumeResponse : List Act :=
  match state with
  | .n17 => [.send .resumeAcknowledge, .setState .n10]
  | _ => []

/-- `q931_setup_complete_request`. -/
def setupCompleteRequest (broadcastSetup : Bool) : List Act :=
  match state with
  | .n8 =>
    .connect ::
      (if broadcastSetup then [.send .connectAcknowledge, .cesFreeSelected, .cesAll .release]
      else [.send .connectAcknowledge]) ++ [.setState .n10]
  | _ => []

/-- `q931_setup_request`; `acquired` says whether `q931_channel_acquire` has found
a channel. -/
def setupRequest (acquired enableBumping multipoint : Bool) : List Act :=
  match state with
  | .n0 =>
    .acquire ::
      if acquired || enableBumping then
        .start .t303 :: (if acquired then [.chansetAdd] else []) ++
          (if multipoint then [.setBroadcast, .start .t312, .sendSetupBc] else [.send .setup]) ++
          [.setState .n6]
      else [.primitive .releaseIndication]
  | .u0 => [.send .setup, .start .t303, .setState .u1]
  | _ => []

/-- `q931_setup_response`. -/
def setupResponse : List Act :=
  match state with
  | .n2 => [.stop .t302, .send .connect, .setState .n10]
  | .n3 | .n4 => [.send .connect, .setState .n10]
  | .u6 => [.chansetAdd, .send .connect, .start .t313, .setState .u8]
  | .u7 | .u9 => [.send .connect, .start .t313, .setState .u8]
  | .u25 => [.stop .t302, .send .connect, .start .t313, .setState .u8]
  | _ => []

/-- The peer is asked for its state, unless it has been. -/
def enquire (t322 : Bool) : List Act :=
  if t322 then [] else [.send .statusEnquiry, .senqReset, .start .t322]

/-- `q931_status_enquiry_request`; `one` says whether it is for a single
terminal. -/
def statusEnquiryRequest (broadcastSetup one t322 : Bool) : List Act :=
  match state with
  | .n6 => if broadcastSetup then [] else enquire t322
  | .n0 | .n7 | .n8 | .n9 | .n19 | .n25 =>
    if broadcastSetup then if one then [.ces .statusEnquiry] else [.cesAll .statusEnquiry]
    else enquire t322
  | _ => enquire t322

/-- `q931_suspend_reject_request`. -/
def suspendRejectRequest : List Act :=
  match state with
  | .n15 => [.send .suspendReject, .setState .n10]
  | _ => []

/-- `q931_suspend_response`. -/
def suspendResponse : List Act :=
  match state with
  | .n15 => [.send .suspendAcknowledge, .releaseReference, .setState .n0]
  | _ => []

/-- `q931_suspend_request`. -/
def suspendRequest : List Act :=
  match state with
  | .u10 => [.send .suspend, .start .t319, .setState .u15]
  | _ => []

/-- The states of the user side. -/
def State.isUser : State → Bool
  | .u0 | .u1 | .u2 | .u3 | .u4 | .u6 | .u7 | .u8 | .u9 | .u10 | .u11 | .u12 | .u15 | .u17 | .u19
  | .u25 => true
  | _ => false

/-- `q931_restart_request`. -/
def restartRequest : List Act :=
  [.stopAny, .release, .setState (if state.isUser then .u0 else .n0), .releaseReference,
    .primitive .releaseIndication, .restartConfirm]

end Requests

/-! ## Indications of the terminals of a broadcast call -/

section Indications
variable (state : State)

/-- `q931_int_alerting_indication`. -/
def intAlertingIndication : List Act :=
  match state with
  | .n9 => [.stop .t310, .start .t301, .setState .n7, .primitive .alertingIndication]
  | .n25 => [.stop .t304, .start .t301, .setState .n7, .primitive .alertingIndication]
  | _ => []

/-- `q931_int_connect_indication`; `selected` is what
`q931_channel_select_response` returns. -/
def intConnectIndication (selected : Bool) : List Act :=
  match state with
  | .n7 =>
    .selectResponse ::
      if selected then [.preselect, .stop .t301, .setState .n8, .primitive .connectIndication]
      else [.ces .release]
  | .n9 => [.stop .t310, .preselect, .setState .n8, .primitive .connectIndication]
  | .n25 => [.stop .t304, .preselect, .setState .n8, .primitive .connectIndication]
  | _ => []

/-- `q931_int_call_proceeding_indication`. -/
def intCallProceedingIndication : List Act :=
  match state with
  | .n25 => [.stop .t304, .start .t310, .setState .n9, .primitive .proceedingIndication]
  | _ => []

/-- `q931_int_release_complete_indication`; `cesEmpty` says whether the terminal
was the last one. -/
def intReleaseCompleteIndication (cesEmpty disconnectIndicationSent : Bool) : List Act :=
  match state with
  | .n0 | .n6 | .n7 | .n8 | .n9 | .n10 | .n19 | .n25 => [.cesFree]
  | .n22 =>
    .cesFree ::
      if cesEmpty then
        (if disconnectIndicationSent then [.primitive .releaseIndication] else []) ++
          [.release, .setState .n0, .releaseReference]
      else []
  | _ => []

/-- `q931_int_info_indication`. -/
def intInfoIndication : List Act :=
  match state with
  | .n7 | .n8 | .n9 | .n19 | .n25 => [.primitive .infoIndication]
  | _ => []

/-- `q931_int_progress_indication`. -/
def intProgressIndication : List Act :=
  match state with
  | .n7 | .n8 | .n25 => [.primitive .progressIndication]
  | .n9 => [.stop .t310, .primitive .progressIndication]
  | _ => []

/-- `q931_int_release_indication`; `ableToProceed` says whether another terminal
is. -/
def intReleaseIndication (ableToProceed preselected t312 : Bool) : List Act :=
  match state with
  | .n7 =>
    if ableToProceed || t312 then []
    else [.stop .t301, .release, .setState .n0, .releaseReference, .primitive .releaseIndication]
  | .n8 =>
    if preselected then
      [.cesAll .release, .release] ++
        (if t312 then [.setState .n22] else [.setState .n0, .releaseReference]) ++
        [.primitive .releaseIndication]
    else []
  | .n9 =>
    if ableToProceed || t312 then []
    else [.stop .t310, .release, .releaseReference, .setState .n0, .primitive .releaseIndication]
  | .n25 =>
    if ableToProceed || t312 then []
    else [.release, .setState .n0, .releaseReference, .primitive .releaseIndication]
  | _ => []

end Indications

/-! ## Timers -/

section Timers
variable (state : State)

/-- `q931_timer_T301`. -/
def timerT301 (broadcastSetup t312 : Bool) : List Act :=
  match state with
  | .n7 =>
    (if broadcastSetup then
      [.cesAll .release, .release] ++
        if t312 then [.setState .n22] else [.setState .n0, .releaseReference]
    else [.send .disconnect, .start .t305, .setState .n12]) ++ [.primitive .releaseIndication]
  | _ => []

/-- `q931_timer_T302`. -/
def timerT302 : List Act :=
  match state with
  | .n2 | .u25 => [.primitive .infoIndication]
  | _ => []

/-- `q931_timer_T303`. -/
def timerT303 (broadcastSetup t303Fired releaseCompleteReceived : Bool) : List Act :=
  (match state with
  | .n6 =>
    if !t303Fired then
      if broadcastSetup then
        if releaseCompleteReceived then [.release, .setState .n22, .primitive .releaseIndication]
        else [.sendSetupBc, .start .t303, .restart .t312]
      else [.send .setup, .start .t303]
    else if broadcastSetup then [.release, .setState .n22, .primitive .releaseIndication]
    else [.start .t305, .send .disconnect, .setState .n12, .primitive .disconnectIndication]
  | .u1 =>
    if !t303Fired then [.send .setup, .start .t303]
    else
      [.primitive .releaseIndication, .send .releaseComplete, .setState .u0, .releaseReference]
  | _ => []) ++ [.setT303Fired]

/-- `q931_timer_T304`. -/
def timerT304 (broadcastSetup t312 : Bool) : List Act :=
  match state with
  | .n25 =>
    (if broadcastSetup then
      .release :: (if t312 then [.setState .n22] else [.setState .n0, .releaseReference]) ++
        [.cesAll .release]
    else [.send .disconnect, .disconnect, .start .t305, .setState .n12]) ++
      [.primitive .releaseIndication]
  | .u2 =>
    [.disconnect, .send .disconnect, .start .t305, .setState .u11, .primitive (.setupConfirm false)]
  | _ => []

/-- `q931_timer_T305`. -/
def timerT305 : List Act :=
  match state with
  | .n12 => [.send .release, .start .t308, .setState .n19]
  | .u11 => [.send .release, .start .t308, .setState .u19]
  | _ => []

/-- `q931_timer_T306`. -/
def timerT306 : List Act :=
  match state with
  | .n12 => [.stopTone, .send .release, .start .t308, .setState .n19]
  | _ => []

/-- `q931_timer_T308`; `attached` says whether the call has a channel. The network
side repeats its RELEASE when the timer has expired before. -/
def timerT308 (t308Fired multipoint attached : Bool) : List Act :=
  (match state with
  | .n19 =>
    if t308Fired then [.send .release, .start .t308]
    else
      (if attached then if multipoint then [.release] else [.maintain] else []) ++
        [.setState .n0, .releaseReference, .primitive (.releaseConfirm true)]
  | .u19 =>
    if !t308Fired then [.send .release, .start .t308]
    else
      (if !multipoint && attached then [.maintain] else []) ++
        [.release, .setState .u0, .releaseReference, .primitive (.releaseConfirm false)]
  | _ => []) ++ [.setT308Fired]

/-- `q931_timer_T309`. -/
def timerT309 : List Act :=
  match state with
  | .n10 => [.release, .setState .n0, .releaseReference, .primitive .releaseIndication]
  | .u10 => [.release, .setState .u0, .releaseReference, .primitive .releaseIndication]
  | _ => []

/-- `q931_timer_T310`. -/
def timerT310 (broadcastSetup t312 : Bool) : List Act :=
  match state with
  | .n9 =>
    (if broadcastSetup then
      .release :: (if t312 then [.setState .n22] else [.setState .n0, .releaseReference]) ++
        [.cesAll .release]
    else [.send .disconnect, .release, .start .t305, .setState .n12]) ++
      [.primitive .releaseIndication]
  | _ => []

/-- `q931_timer_T312`. -/
def timerT312 (ableToProceed cesEmpty disconnectIndicationSent : Bool) : List Act :=
  match state with
  | .n7 =>
    if ableToProceed then []
    else [.stop .t301, .release, .setState .n0, .releaseReference, .primitive .releaseIndication]
  | .n9 =>
    if ableToProceed then []
    else [.stop .t310, .release, .setState .n0, .releaseReference, .primitive .releaseIndication]
  | .n22 =>
    if cesEmpty then
      (if disconnectIndicationSent then [.primitive .releaseIndication] else []) ++
        [.release, .setState .n0, .releaseReference]
    else []
  | .n25 =>
    if ableToProceed then []
    else [.release, .setState .n0, .releaseReference, .primitive .releaseIndication]
  | _ => []

/-- `q931_timer_T313`. -/
def timerT313 : List Act :=
  match state with
  | .u8 =>
    [.disconnect, .send .disconnect, .start .t305, .setState .u11,
      .primitive (.setupCompleteIndication false)]
  | _ => []

/-- `q931_timer_T318`. -/
def timerT318 : List Act :=
  match state with
  | .u17 => [.send .release, .start .t308, .setState .u19, .primitive (.resumeConfirm .timeout)]
  | _ => []

/-- `q931_timer_T319`. -/
def timerT319 : List Act :=
  match state with
  | .n15 => [.primitive (.suspendConfirm .timeout), .setState .u10]
  | _ => []

/-- `q931_timer_T322`; `given` says whether `senq_cnt` is above three. -/
def timerT322 (received given : Bool) : List Act :=
  match state with
  | .n0 | .u0 => []
  | _ =>
    if received then []
    else if given then
      [.send .release, .start .t308, .setState .n19, .primitive .releaseIndication]
    else [.send .statusEnquiry, .start .t322, .senqAgain]

end Timers

/-! ## The data link -/

section DataLink
variable (state : State)

/-- `q931_call_dl_establish_indication`. -/
def dlEstablishIndication (broadcastSetup tonesOption : Bool) : List Act :=
  match state with
  | .n2 => .stopAny :: disconnectWithTone tonesOption ++ [.primitive .disconnectIndication]
  | .n25 =>
    if broadcastSetup then []
    else
      [.disconnect, .send .disconnect, .start .t305, .setState .n12, .primitive .releaseIndication]
  | .u2 =>
    [.stop .t304, .release, .send .disconnect, .start .t305, .setState .u11,
      .primitive .disconnectIndication]
  | .u25 =>
    [.stop .t302, .release, .send .disconnect, .start .t305, .setState .u11,
      .primitive .disconnectIndication]
  | _ => []

/-- `q931_call_dl_establish_confirm`. -/
def dlEstablishConfirm : List Act :=
  match state with
  | .n10 | .u10 => [.stop .t309, .send .status]
  | _ => []

/-- `q931_call_dl_release_indication`. -/
def dlReleaseIndication (broadcastSetup t309 : Bool) : List Act :=
  match state with
  | .n0 | .u0 => []
  | .n6 => [.stopAny, .release, .setState .n0, .releaseReference, .primitive .releaseIndication]
  | .n1 | .n2 | .n3 | .n4 | .n7 | .n8 | .n9 | .n11 | .n12 | .n15 | .n17 | .n19 | .n22 | .n25 =>
    if broadcastSetup then []
    else [.stopAny, .release, .setState .n0, .releaseReference, .primitive .releaseIndication]
  | .n10 =>
    if t309 then
      [.stop .t309, .release, .setState .n0, .releaseReference, .primitive .releaseIndication]
    else [.start .t309]
  | .u1 | .u2 | .u3 | .u4 | .u6 | .u7 | .u8 | .u9 | .u11 | .u12 | .u15 | .u17 | .u19 | .u25 =>
    [.stopAny, .release, .setState .u0, .releaseReference, .primitive .releaseIndication]
  | .u10 =>
    if t309 then
      [.stop .t309, .release, .setState .n0, .releaseReference, .primitive .releaseIndication]
    else [.start .t309]

end DataLink

end Vstuff.Q931.Call
