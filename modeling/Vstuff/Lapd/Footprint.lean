import Vstuff.Lapd.Events

/-! What the procedures leave alone. A socket keeps the settings it was created
with, and whatever it transmits is recorded with the TEI assignment it had;
only the assignment and the removal of the TEI change that. -/
namespace Vstuff.Lapd
set_option linter.all false

/-- The fields of a socket that are set when it is created or bound. -/
structure Settings where
  dev : Device
  sap : Sap
  skState : SkState
  sapi : Nat
  usrTme : Bool
  rcvbuf : Nat

def Sock.settings (s : Sock) : Settings :=
  { dev := s.dev, sap := s.sap, skState := s.skState, sapi := s.sapi, usrTme := s.usrTme
    rcvbuf := s.rcvbuf }

/-- States 4 to 8: the socket believes it has a TEI. -/
def DatalinkState.assigned : DatalinkState → Bool
  | .teiAssigned | .awaitingEstablish | .awaitingRelease | .linkConnectionEstablished
  | .timerRecovery => true
  | _ => false

/-- The second socket is the first one after some work: it has sent frames
under the assignment of the first, and has queued no U frame. -/
structure Keeps (s t : Sock) : Prop where
  settings : t.settings = s.settings
  assigned : t.assigned = s.assigned
  sent : ∃ more, t.out = s.out ++ more ∧
    ∀ frame flag, .phDataRequest frame flag ∈ more → flag = s.assigned
  uQueue : t.uQueue ⊆ s.uQueue

/-- The second socket is the first one without its TEI. -/
structure Removed (s t : Sock) : Prop where
  settings : t.settings = s.settings
  assigned : t.assigned = false
  state : t.state.assigned = false
  sent : t.out = s.out
  uQueue : t.uQueue ⊆ s.uQueue

section Composition
variable {s t u : Sock}

/-- The part of a socket these relations speak of. -/
def Sock.footprint (s : Sock) : Settings × Bool × List Output × List Frame :=
  (s.settings, s.assigned, s.out, s.uQueue)

/-- Something left the socket under its assignment. -/
theorem Keeps.emits (more : List Output)
    (flags : ∀ frame flag, .phDataRequest frame flag ∈ more → flag = s.assigned)
    (same : t.footprint = (s.settings, s.assigned, s.out ++ more, s.uQueue)) : Keeps s t := by
  simp only [Sock.footprint, Prod.mk.injEq] at same
  obtain ⟨settings, assigned, out, uQueue⟩ := same
  exact ⟨settings, assigned, ⟨more, out, flags⟩, by rw [uQueue]; exact List.Subset.refl _⟩

/-- Nothing was sent. -/
theorem Keeps.still (same : t.footprint = s.footprint) : Keeps s t :=
  .emits [] (fun _ _ member => by cases member) (by rw [same, List.append_nil]; rfl)

theorem Keeps.refl (s : Sock) : Keeps s s := .still rfl

/-- One more frame was sent. -/
theorem Keeps.send (frame : Frame) (same : t.footprint =
    (s.settings, s.assigned, s.out ++ [.phDataRequest frame s.assigned], s.uQueue)) : Keeps s t :=
  .emits _ (fun _ _ member => by simp at member; exact member.2) same

theorem Keeps.trans (first : Keeps s t) (second : Keeps t u) : Keeps s u where
  settings := second.settings.trans first.settings
  assigned := second.assigned.trans first.assigned
  sent := by
    obtain ⟨early, sentEarly, flagsEarly⟩ := first.sent
    obtain ⟨late, sentLate, flagsLate⟩ := second.sent
    refine ⟨early ++ late, by rw [sentLate, sentEarly, List.append_assoc], ?_⟩
    intro frame flag member
    obtain inEarly | inLate := List.mem_append.mp member
    · exact flagsEarly frame flag inEarly
    · rw [flagsLate frame flag inLate, first.assigned]
  uQueue := List.Subset.trans second.uQueue first.uQueue

/-- The same with the later half first, whose sockets then are known. -/
theorem Keeps.after (second : Keeps t u) (first : Keeps s t) : Keeps s u := first.trans second

theorem Removed.before (second : Removed t u) (same : t.footprint = s.footprint) : Removed s u := by
  simp only [Sock.footprint, Prod.mk.injEq] at same
  obtain ⟨settings, _, out, uQueue⟩ := same
  exact ⟨second.settings.trans settings, second.assigned, second.state, second.sent.trans out,
    uQueue ▸ second.uQueue⟩

theorem Removed.primitive (first : Removed s t) (type : DlPrimitive) :
    Removed s (dlPrimitive t type) := by
  unfold dlPrimitive
  split
  · exact ⟨first.settings, first.assigned, first.state, first.sent, first.uQueue⟩
  · exact ⟨first.settings, first.assigned, first.state, first.sent, first.uQueue⟩

end Composition

variable (s : Sock)

/-! ## Queues and primitives -/

theorem discardUiQueue_keeps : Keeps s (discardUiQueue s) where
  settings := rfl
  assigned := rfl
  sent := ⟨[], (List.append_nil _).symm, fun _ _ member => by cases member⟩
  uQueue := List.nil_subset _

theorem dlPrimitive_keeps (type : DlPrimitive) : Keeps s (dlPrimitive s type) := by
  unfold dlPrimitive
  split <;> exact .still rfl

theorem transmitIframe_keeps (skb : Skb) : Keeps s (transmitIframe s skb) := by
  unfold transmitIframe
  dsimp only
  split
  · exact .send _ rfl
  · exact .send _ rfl

theorem sendLoop_keeps (sent rest : List Skb) : Keeps s (sendLoop s sent rest) := by
  induction rest generalizing s sent with
  | nil => exact .still rfl
  | cons skb rest ih =>
    unfold sendLoop
    split
    · exact .still rfl
    · exact (transmitIframe_keeps s _).trans (ih _ _)

theorem runIQueue_keeps : Keeps s (runIQueue s) := by
  unfold runIQueue
  split
  · exact .still rfl
  · split
    · exact .still rfl
    · split
      · exact .still rfl
      · split
        · exact .still rfl
        · exact sendLoop_keeps s _ _

theorem invokeRetransmission_keeps : Keeps s (invokeRetransmission s) := by
  unfold invokeRetransmission
  dsimp only
  refine Keeps.trans ?_ (runIQueue_keeps _)
  cases s.writeQueue <;> exact .still rfl

theorem acknowledge_keeps (nR : Seq) : Keeps s (acknowledge s nR) := by
  unfold acknowledge ackFrames
  split
  · exact .still rfl
  · exact .emits _ (fun _ _ member => by simp at member) rfl

theorem foldl_phDataRequest_keeps (frames : List Frame) : Keeps s (frames.foldl phDataRequest s) := by
  induction frames generalizing s with
  | nil => exact .refl s
  | cons frame frames ih => exact Keeps.trans (.send frame rfl) (ih (phDataRequest s frame))

theorem runUiQueue_keeps : Keeps s (runUiQueue s) :=
  (foldl_phDataRequest_keeps s s.uQueue).trans (discardUiQueue_keeps _)

/-! ## Layer management -/

theorem mdlRemoveRequest_removed : Removed s (mdlRemoveRequest s) := by
  have gone (t : Sock) (state : t.state = .teiUnassigned)
      (same : t.footprint = (s.settings, false, s.out, [])) : Removed s t := by
    simp only [Sock.footprint, Prod.mk.injEq] at same
    obtain ⟨settings, assigned, out, uQueue⟩ := same
    exact ⟨settings, assigned, by rw [state]; rfl, out, by rw [uQueue]; exact List.nil_subset _⟩
  unfold mdlRemoveRequest
  dsimp only
  split
  · exact gone _ rfl rfl
  · exact (gone _ rfl rfl).primitive _
  · exact (gone _ rfl rfl).primitive _
  · exact (gone _ rfl rfl).primitive _
  · exact (gone _ rfl rfl).primitive _
  · rename_i n4 n5 n6 n7 n8
    refine ⟨rfl, rfl, ?_, rfl, List.Subset.refl _⟩
    cases state : s.state <;> simp_all [DatalinkState.assigned]

theorem mdlErrorIndication_works (errors : List MdlError) :
    Keeps s (mdlErrorIndication s errors) ∨ Removed s (mdlErrorIndication s errors) := by
  unfold mdlErrorIndication
  split
  · split
    · split
      · exact .inl (.emits [.startTeiCheck s.tei] (fun _ _ member => by simp at member) rfl)
      · exact .inl (.refl s)
    · split
      · unfold utmeTeiRemove mdlPrimitiveWith
        split
        · exact .inl (.still rfl)
        · exact .inr (mdlRemoveRequest_removed s)
      · exact .inl (.refl s)
  · exact .inl (.refl s)

theorem indication_works (errors : List MdlError) :
    Keeps s (mdlPrimitive s (.errorIndication errors)) ∨
    Removed s (mdlPrimitive s (.errorIndication errors)) := by
  unfold mdlPrimitive mdlPrimitiveWith
  split
  · exact .inl (.still rfl)
  · exact mdlErrorIndication_works s errors

theorem indication_keeps (errors : List MdlError) (harmless : verifiesTei errors = false) :
    Keeps s (mdlPrimitive s (.errorIndication errors)) := by
  simp only [mdlPrimitive, mdlPrimitiveWith, mdlRecv, mdlErrorIndication, harmless]
  split <;> exact .still rfl

theorem mdlErrorResponse_keeps : Keeps s (mdlErrorResponse s) := by
  unfold mdlErrorResponse
  split
  · exact (discardUiQueue_keeps s).trans (.still rfl)
  · exact (dlPrimitive_keeps _ _).after ((discardUiQueue_keeps s).trans (.still rfl))
  · exact .refl s

theorem persistentDeactivation_keeps : Keeps s (persistentDeactivation s) := by
  unfold persistentDeactivation
  dsimp only
  split
  · exact (discardUiQueue_keeps s).trans (.still rfl)
  · exact (dlPrimitive_keeps _ _).after ((discardUiQueue_keeps s).trans (.still rfl))
  · exact discardUiQueue_keeps s
  · exact (dlPrimitive_keeps _ _).after ((discardUiQueue_keeps s).trans (.still rfl))
  · exact (dlPrimitive_keeps _ _).after ((discardUiQueue_keeps s).trans (.still rfl))
  · exact (dlPrimitive_keeps _ _).after ((discardUiQueue_keeps s).trans (.still rfl))
  · exact (dlPrimitive_keeps _ _).after ((discardUiQueue_keeps s).trans (.still rfl))
  · exact .refl s

/-! ## Frames -/

theorem establishDatalink_keeps : Keeps s (establishDatalink s) :=
  .send _ rfl

/-- The connection is set up anew after a harmless indication. -/
theorem reestablish_keeps (errors : List MdlError) (harmless : verifiesTei errors = false) :
    Keeps s (establishDatalink (mdlPrimitive s (.errorIndication errors))) :=
  (indication_keeps s errors harmless).trans (establishDatalink_keeps _)

theorem nrErrorRecovery_keeps : Keeps s (nrErrorRecovery s) :=
  (reestablish_keeps s [.J] rfl).trans (.still rfl)

theorem frameReject_keeps (error : FormatError) : Keeps s (frameReject s error) := by
  have told : Keeps s (mdlPrimitive s (.errorIndication
      [if error = .length then MdlError.O else .N])) := by
    cases error <;> exact indication_keeps s _ rfl
  unfold frameReject
  generalize mdlPrimitive s _ = indicated at told ⊢
  dsimp only
  split
  · exact (told.trans (establishDatalink_keeps _)).trans (.still rfl)
  · exact told

theorem enquiryResponse_keeps : Keeps s (enquiryResponse s) := by
  unfold enquiryResponse
  split
  · exact .send _ rfl
  · exact .send _ rfl

theorem transmitEnquiry_keeps : Keeps s (transmitEnquiry s) := by
  unfold transmitEnquiry
  dsimp only
  split
  · exact .send _ rfl
  · exact .send _ rfl

theorem clearOwnReceiverBusy_keeps : Keeps s (clearOwnReceiverBusy s) := by
  unfold clearOwnReceiverBusy
  split
  · split
    · exact .send _ rfl
    · exact .refl s
  · split
    · exact .send _ rfl
    · exact .refl s
  · exact .refl s

theorem setOwnReceiverBusy_keeps : Keeps s (setOwnReceiverBusy s) := by
  unfold setOwnReceiverBusy
  split
  · split
    · exact .refl s
    · exact .send _ rfl
  · split
    · exact .refl s
    · exact .send _ rfl
  · exact .refl s

theorem acceptIframe_keeps (skb : RxSkb) (nS : Seq) (p : Bool) : Keeps s (acceptIframe s skb nS p) := by
  unfold acceptIframe
  split
  · split
    · exact .send _ rfl
    · exact .refl s
  · split
    · have indicated : Keeps s (dlDataIndication { s with vR := s.vR + 1, rejectException := false } skb) :=
        .emits [.dataIndication skb.frame.data] (fun _ _ member => by simp at member) rfl
      refine indicated.trans ?_
      dsimp only
      generalize dlDataIndication _ _ = accepted
      split
      · exact .send _ rfl
      · exact .send _ rfl
    · dsimp only
      split
      · split
        · exact .send _ rfl
        · exact .refl s
      · split
        · exact .send _ rfl
        · exact .send _ rfl

theorem acknowledgeTimed_keeps (nR : Seq) : Keeps s (acknowledgeTimed s nR) := by
  unfold acknowledgeTimed
  split
  · exact (acknowledge_keeps s nR).trans (.still rfl)
  · split
    · exact (acknowledge_keeps s nR).trans (.still rfl)
    · exact .refl s

theorem handleIframe_keeps (skb : RxSkb) (nS nR : Seq) (p : Bool) :
    Keeps s (handleIframe s skb nS nR p) := by
  unfold handleIframe
  split
  · exact frameReject_keeps s .n201
  · have cleared : Keeps s (if s.rmemAlloc < s.rcvbuf ∧ s.ownReceiverBusy = true then
        clearOwnReceiverBusy s else s) := by
      split
      · exact clearOwnReceiverBusy_keeps s
      · exact .refl s
    generalize (if s.rmemAlloc < s.rcvbuf ∧ s.ownReceiverBusy = true then clearOwnReceiverBusy s
        else s) = ready at cleared ⊢
    refine cleared.trans ?_
    dsimp only
    have accepted := acceptIframe_keeps ready skb nS p
    have recovered : Keeps ready (nrErrorRecovery (changeState (acceptIframe ready skb nS p)
        .awaitingEstablish)) := (nrErrorRecovery_keeps _).after (accepted.trans (.still rfl))
    split
    · exact setOwnReceiverBusy_keeps ready
    · split
      · split
        · split
          · exact accepted.trans (acknowledge_keeps _ nR)
          · exact accepted.trans (acknowledgeTimed_keeps _ nR)
        · exact recovered
      · split
        · exact accepted.trans (acknowledge_keeps _ nR)
        · exact recovered
      · exact .refl ready

theorem answerPoll_keeps (cr pF : Bool) : Keeps s (answerPoll s cr pF) := by
  unfold answerPoll
  split
  · split
    · exact indication_keeps s _ rfl
    · exact enquiryResponse_keeps s
  · exact .refl s

theorem idleTimers_keeps : Keeps s (startT203 (stopT200 s)) := .still rfl

theorem busyTimers_keeps : Keeps s (startT200 (stopT203 s)) := .still rfl

theorem recoverySframe_keeps (cr pF : Bool) (nR : Seq) {timers : Sock → Sock}
    (kept : ∀ s, Keeps s (timers s)) : Keeps s (recoverySframe s cr nR pF timers) := by
  unfold recoverySframe
  split
  · split
    · split
      · exact (invokeRetransmission_keeps _).after
          (((acknowledge_keeps s nR).trans (kept _)).trans (.still rfl))
      · exact acknowledge_keeps s nR
    · exact (nrErrorRecovery_keeps s).trans (.still rfl)
  · dsimp only
    have answered : Keeps s (if pF = true then enquiryResponse s else s) := by
      split
      · exact enquiryResponse_keeps s
      · exact .refl s
    refine answered.trans ?_
    generalize (if pF = true then enquiryResponse s else s) = ready
    split
    · exact acknowledge_keeps ready nR
    · exact (nrErrorRecovery_keeps ready).trans (.still rfl)

theorem handleSframe_keeps (skb : RxSkb) (function : SframeFunction) (nR : Seq) (pF : Bool) :
    Keeps s (handleSframe s skb function nR pF) := by
  have polled (busy : Bool) : Keeps s (answerPoll { s with peerReceiverBusy := busy } skb.frame.cr pF) :=
    (answerPoll_keeps _ _ _).after (.still rfl)
  have error (t : Sock) (kept : Keeps s t) :
      Keeps s (nrErrorRecovery (changeState t .awaitingEstablish)) :=
    (nrErrorRecovery_keeps _).after (kept.trans (.still rfl))
  unfold handleSframe
  split
  · exact frameReject_keeps s .length
  · cases function with
    | rr =>
      dsimp only
      unfold handleSframeRr
      dsimp only
      split
      · split
        · exact (polled false).trans (acknowledgeTimed_keeps _ _)
        · exact error _ (polled false)
      · refine Keeps.trans (t := { s with peerReceiverBusy := false }) (.still rfl) ?_
        exact recoverySframe_keeps _ _ _ _ fun _ => .still rfl
      · exact .refl s
    | rnr =>
      dsimp only
      unfold handleSframeRnr
      dsimp only
      split
      · split
        · exact (((polled true).trans (acknowledge_keeps _ _)).trans
            (invokeRetransmission_keeps _)).trans (busyTimers_keeps _)
        · exact error _ (polled true)
      · refine Keeps.trans (t := { s with peerReceiverBusy := true }) (.still rfl) ?_
        exact recoverySframe_keeps _ _ _ _ fun _ => .still rfl
      · exact .refl s
    | rej =>
      dsimp only
      unfold handleSframeRej
      dsimp only
      split
      · split
        · exact (((polled false).trans (acknowledge_keeps _ _)).trans
            (idleTimers_keeps _)).trans (invokeRetransmission_keeps _)
        · exact error _ (polled false)
      · refine Keeps.trans (t := { s with peerReceiverBusy := false }) (.still rfl) ?_
        exact recoverySframe_keeps _ _ _ _ fun _ => .still rfl
      · exact .refl s
    | invalid => exact .refl s

/-- A U frame other than UA leaves the assignment alone. -/
theorem handleUframe_keeps (skb : RxSkb) (function : UframeFunction) (pF : Bool)
    (other : function ≠ .ua) : Keeps s (handleUframe s skb function pF) := by
  unfold handleUframe
  split
  · exact frameReject_keeps s .length
  · cases function with
    | sabme =>
      dsimp only
      unfold handleUframeSabme resetLink
      dsimp only
      have reset : Keeps s (mdlPrimitive (clearExceptionConditions (sendUframe s .ua pF))
          (.errorIndication [.F])) :=
        (indication_keeps _ _ rfl).after (.send _ rfl)
      split
      · split
        · exact (dlPrimitive_keeps _ _).after
            (.send _ rfl)
        · exact .send _ rfl
      · exact .send _ rfl
      · exact .send _ rfl
      · rw [if_neg (fun differ => differ rfl)]
        exact reset.trans (.still rfl)
      · rw [if_neg (fun differ => differ rfl)]
        exact reset.trans (.still rfl)
      · exact .refl s
    | dm =>
      dsimp only
      unfold handleUframeDm
      dsimp only
      split
      · split
        · exact (establishDatalink_keeps s).trans (.still rfl)
        · exact .refl s
      · split
        · exact (dlPrimitive_keeps _ _).after (.still rfl)
        · exact .refl s
      · split
        · exact (dlPrimitive_keeps _ _).after (.still rfl)
        · exact .refl s
      · split
        · exact indication_keeps s _ rfl
        · exact (reestablish_keeps s _ rfl).trans (.still rfl)
      · split
        · exact indication_keeps s _ rfl
        · exact (reestablish_keeps s _ rfl).trans (.still rfl)
      · exact .refl s
    | ui => exact .still rfl
    | disc =>
      dsimp only
      unfold handleUframeDisc
      dsimp only
      split
      · exact .send _ rfl
      · exact .send _ rfl
      · exact .send _ rfl
      · exact (dlPrimitive_keeps _ _).after (.send _ rfl)
      · exact (dlPrimitive_keeps _ _).after (.send _ rfl)
      · exact .refl s
    | ua => exact absurd rfl other
    | frmr => exact (reestablish_keeps s [.K] rfl).trans (.still rfl)
    | xid => exact .refl s
    | invalid => exact frameReject_keeps s .undefinedCommand

theorem handleUframeUa_works (pF : Bool) :
    Keeps s (handleUframeUa s pF) ∨ Removed s (handleUframeUa s pF) := by
  unfold handleUframeUa
  dsimp only
  split
  · exact indication_works s _
  · split
    · exact indication_works s _
    · refine .inl ?_
      split
      · exact (runIQueue_keeps _).after ((dlPrimitive_keeps _ _).after (.still rfl))
      · rw [if_neg (fun differ => differ rfl)]
        exact .still rfl
  · split
    · exact indication_works s _
    · exact .inl ((dlPrimitive_keeps _ _).after (.still rfl))
  · exact indication_works s _
  · exact indication_works s _
  · exact .inl (.refl s)

theorem frame_works (skb : RxSkb) :
    Keeps s (dlcRecv s (.frame skb)) ∨ Removed s (dlcRecv s (.frame skb)) := by
  unfold dlcRecv
  dsimp only
  split
  · exact .inl (handleIframe_keeps s skb _ _ _)
  · exact .inl (handleSframe_keeps s skb _ _ _)
  · rename_i function pF _
    by_cases ua : function = .ua
    · subst ua
      unfold handleUframe
      split
      · exact .inl (frameReject_keeps s .length)
      · exact handleUframeUa_works s pF
    · exact .inl (handleUframe_keeps s skb function pF ua)

/-! ## Requests and timers -/

theorem dlEstablishRequest_keeps : Keeps s (dlEstablishRequest s) := by
  unfold dlEstablishRequest
  dsimp only
  split
  · exact .emits [.assignIndication] (fun _ _ member => by simp at member) rfl
  · exact .still rfl
  · exact (establishDatalink_keeps s).trans (.still rfl)
  · exact (establishDatalink_keeps s).trans (.still rfl)
  · exact .send _ rfl
  · exact .send _ rfl
  · exact .refl s

theorem dlReleaseRequest_keeps : Keeps s (dlReleaseRequest s) := by
  unfold dlReleaseRequest
  dsimp only
  split
  · exact dlPrimitive_keeps s _
  · exact .send _ rfl
  · exact .send _ rfl
  · exact .refl s

theorem dlDataRequest_keeps (skb : Skb) : Keeps s (dlDataRequest s skb) := by
  unfold dlDataRequest
  split
  · split
    · exact .still rfl
    · exact .refl s
  · exact (runIQueue_keeps _).after (.still rfl)
  · exact .still rfl
  · exact .refl s

theorem timerT200_works : Keeps s (timerT200 s) ∨ Removed s (timerT200 s) := by
  unfold timerT200
  dsimp only
  split
  · exact .inl (.still rfl)
  · split
    · split
      · obtain kept | removed := indication_works
          (changeState (discardIQueue (stopT200 s)) .teiAssigned) [.G]
        · exact .inl ((dlPrimitive_keeps _ _).after (kept.after (.still rfl)))
        · have removed : Removed s _ := removed.before rfl
          exact .inr (removed.primitive _)
      · exact .inl (.send _ rfl)
    · split
      · have confirmed : Keeps s (dlPrimitive (changeState (stopT200 s) .teiAssigned)
            .releaseConfirm) := (dlPrimitive_keeps _ _).after (.still rfl)
        obtain kept | removed := indication_works
          (dlPrimitive (changeState (stopT200 s) .teiAssigned) .releaseConfirm) [.H]
        · exact .inl (confirmed.trans kept)
        · refine .inr (removed.before ?_)
          unfold dlPrimitive
          split <;> rfl
      · exact .inl (.send _ rfl)
    · refine .inl ?_
      refine Keeps.trans (t := { stopT200 s with retransCnt := 0 }) (.still rfl) ?_
      exact (transmitEnquiry_keeps _).trans (.still rfl)
    · refine .inl (Keeps.trans (t := stopT200 s) (.still rfl) ?_)
      split
      · exact (reestablish_keeps _ _ rfl).trans (.still rfl)
      · exact (transmitEnquiry_keeps _).trans (.still rfl)
    · exact .inl (.still rfl)

theorem timerT203_keeps : Keeps s (timerT203 s) := by
  unfold timerT203
  dsimp only
  split
  · exact .still rfl
  · split
    · refine Keeps.trans (t := stopT203 s) (.still rfl) ?_
      exact (transmitEnquiry_keeps _).trans (.still rfl)
    · exact .still rfl

/-! ## Every event -/

theorem mdlAssignRequest_settings (tei : Nat) : (mdlAssignRequest s tei).settings = s.settings := by
  unfold mdlAssignRequest
  dsimp only
  split <;> rfl

theorem mdlRecv_settings (pri : MdlPrimitive) : (mdlRecv s pri).settings = s.settings := by
  cases pri with
  | assignRequest tei => exact mdlAssignRequest_settings s tei
  | removeRequest => exact (mdlRemoveRequest_removed s).settings
  | errorResponse => exact (mdlErrorResponse_keeps s).settings
  | errorIndication errors =>
    obtain kept | removed := mdlErrorIndication_works s errors
    · exact kept.settings
    · exact removed.settings
  | persistentDeactivation => exact (persistentDeactivation_keeps s).settings

theorem dlcRecv_settings (item : Item) : (dlcRecv s item).settings = s.settings := by
  cases item with
  | mdl pri => exact mdlRecv_settings s pri
  | frame skb =>
    obtain kept | removed := frame_works s skb
    · exact kept.settings
    · exact removed.settings

theorem dlUnitDataRequest_settings (frame : Frame) :
    (dlUnitDataRequest s frame).settings = s.settings := by
  unfold dlUnitDataRequest
  dsimp only
  split
  · rfl
  · rfl
  · rfl
  · exact (runUiQueue_keeps _).settings

theorem perform_settings (e : Event) : (perform s e).settings = s.settings := by
  cases e with
  | lockSock => rfl
  | releaseSock => rfl
  | backlogRcv =>
    unfold perform backlogRcv
    cases s.backlog with
    | nil => rfl
    | cons item rest => exact dlcRecv_settings { s with backlog := rest } item
  | establishRequest => exact (dlEstablishRequest_keeps s).settings
  | releaseRequest => exact (dlReleaseRequest_keeps s).settings
  | dataRequest data nS nR => exact (dlDataRequest_keeps s _).settings
  | unitDataRequest data => exact dlUnitDataRequest_settings s _
  | frame skb =>
    unfold perform passFrame
    dsimp only
    split
    · split
      · rfl
      · exact dlcRecv_settings s _
    · rfl
  | mdl pri =>
    unfold perform mdlPrimitive mdlPrimitiveWith
    dsimp only
    split
    · rfl
    · exact mdlRecv_settings s pri
  | timerT200 =>
    obtain kept | removed := timerT200_works s
    · exact kept.settings
    · exact removed.settings
  | timerT203 => exact (timerT203_keeps s).settings
  | recvmsg =>
    unfold perform recvmsg
    dsimp only
    split <;> rfl

/-- No event changes what a socket was created with. -/
theorem step_settings {s t : Sock} {e : Event} (took : step s e = some t) :
    t.settings = s.settings := by
  obtain ⟨_, rfl, _⟩ := step_performs took
  exact perform_settings { s with out := [] } e

theorem step_sap {s t : Sock} {e : Event} (took : step s e = some t) : t.sap = s.sap :=
  congrArg Settings.sap (step_settings took)

end Vstuff.Lapd
