import Vstuff.Lapd.Footprint
import Vstuff.Lapd.LinkStep

/-! What the procedures do with the two queues, the TEI and the count of
retransmissions. I frames are sent in one place and UI frames in another, and the
count begins at 0 wherever it is not carried on in the same state; the timers, the
assignment of a TEI and the FRMR handler are the exceptions. -/
namespace Vstuff.Lapd
set_option linter.all false

/-- States 5, 6 and 8, in which T200 counts. -/
def DatalinkState.retries : DatalinkState → Bool
  | .awaitingEstablish | .awaitingRelease | .timerRecovery => true
  | _ => false

/-- States 1 to 3: the socket waits for a TEI. -/
def DatalinkState.waits : DatalinkState → Bool
  | .teiUnassigned | .awaitingTei | .establishAwaitingTei => true
  | _ => false

/-- An I frame that is sent. -/
def Output.iframe : Output → Option Frame
  | .phDataRequest frame _ => match frame.control with
    | .iframe _ _ _ => some frame
    | _ => none
  | _ => none

/-- A UI frame that is sent. -/
def Output.ui : Output → Option Frame
  | .phDataRequest frame _ => match frame.control with
    | .uframe .ui _ => some frame
    | _ => none
  | _ => none

/-- The I frames the event under way has sent. -/
def Sock.iSent (s : Sock) : List Frame := s.out.filterMap Output.iframe

/-- The UI frames the event under way has sent. -/
def Sock.uiSent (s : Sock) : List Frame := s.out.filterMap Output.ui

/-- The second socket is the first one after some work: it has sent nothing from
the U queue, which is as it was or has been discarded, and has come to no TEI. -/
structure Quiet (s t : Sock) : Prop where
  ui : t.uiSent = s.uiSent
  uQueue : t.uQueue = s.uQueue ∨ t.uQueue = []
  tei : t.tei = s.tei
  rises : t.state.waits = false → s.state.waits = false

/-- If T200 counts then it does so from 0 or where it was. -/
structure Steady (s t : Sock) : Prop extends Quiet s t where
  count : t.state.retries = true → t.retransCnt = 0 ∨ t.state = s.state ∧ t.retransCnt = s.retransCnt

/-- It has sent no I frame either. -/
structure Moves (s t : Sock) : Prop extends Steady s t where
  i : t.iSent = s.iSent

section Composition
variable {s t u : Sock}

/-- What these relations speak of. -/
def Sock.course (s : Sock) : List Output × List Frame × Nat × DatalinkState × Nat :=
  (s.out, s.uQueue, s.tei, s.state, s.retransCnt)

theorem Quiet.trans (first : Quiet s t) (second : Quiet t u) : Quiet s u where
  ui := second.ui.trans first.ui
  uQueue := by
    obtain same | empty := second.uQueue
    · rw [same]
      exact first.uQueue
    · exact .inr empty
  tei := second.tei.trans first.tei
  rises := first.rises ∘ second.rises

theorem Steady.trans (first : Steady s t) (second : Steady t u) : Steady s u where
  toQuiet := first.toQuiet.trans second.toQuiet
  count := by
    intro retries
    obtain zero | ⟨state, count⟩ := second.count retries
    · exact .inl zero
    · rw [state] at retries
      obtain zero | ⟨before, kept⟩ := first.count retries
      · exact .inl (count.trans zero)
      · exact .inr ⟨state.trans before, count.trans kept⟩

theorem Moves.trans (first : Moves s t) (second : Moves t u) : Moves s u where
  toSteady := first.toSteady.trans second.toSteady
  i := second.i.trans first.i

/-- The same with the later half first, whose sockets then are known. -/
theorem Moves.after (second : Moves t u) (first : Moves s t) : Moves s u := first.trans second

/-- The work ends in another state or begins the count. -/
theorem Moves.turns (sent : t.out = s.out) (uQueue : t.uQueue = s.uQueue ∨ t.uQueue = [])
    (tei : t.tei = s.tei) (count : t.state.retries = true → t.retransCnt = 0)
    (rises : t.state.waits = false → s.state.waits = false) : Moves s t where
  ui := by rw [Sock.uiSent, sent]; rfl
  uQueue := uQueue
  tei := tei
  count := fun retries => .inl (count retries)
  rises := rises
  i := by rw [Sock.iSent, sent]; rfl

/-- Something left the socket that came from no queue. -/
theorem Moves.emits (more : List Output) (other : more.filterMap Output.iframe = [] ∧ more.filterMap Output.ui = [])
    (same : t.course = (s.out ++ more, s.uQueue, s.tei, s.state, s.retransCnt)) : Moves s t := by
  simp only [Sock.course, Prod.mk.injEq] at same
  obtain ⟨out, uQueue, tei, state, count⟩ := same
  refine ⟨⟨⟨?_, .inl uQueue, tei, fun held => state ▸ held⟩, fun _ => .inr ⟨state, count⟩⟩, ?_⟩
  · rw [Sock.uiSent, out, List.filterMap_append, other.2, List.append_nil]
    rfl
  · rw [Sock.iSent, out, List.filterMap_append, other.1, List.append_nil]
    rfl

theorem Moves.still (same : t.course = s.course) : Moves s t :=
  .emits [] ⟨rfl, rfl⟩ (by rw [same, List.append_nil]; rfl)

theorem Steady.still (same : t.course = s.course) : Steady s t := (Moves.still same).toSteady

theorem Moves.refl (s : Sock) : Moves s s := .still rfl

/-- One more S or U frame was sent. -/
theorem Moves.send (frame : Frame) (other : Output.iframe (.phDataRequest frame s.assigned) = none ∧
      Output.ui (.phDataRequest frame s.assigned) = none)
    (same : t.course = (s.out ++ [.phDataRequest frame s.assigned], s.uQueue, s.tei, s.state, s.retransCnt)) :
    Moves s t :=
  .emits _ ⟨by rw [List.filterMap_cons_none other.1]; rfl, by rw [List.filterMap_cons_none other.2]; rfl⟩ same

/-- The connection is set up anew from a state with a TEI. -/
theorem Moves.restarts (before : Moves s t) (here : s.state.waits = false)
    (frame : Frame) (other : Output.iframe (.phDataRequest frame t.assigned) = none ∧
      Output.ui (.phDataRequest frame t.assigned) = none)
    (same : (u.out, u.uQueue, u.tei, u.retransCnt) = (t.out ++ [.phDataRequest frame t.assigned], t.uQueue, t.tei, 0)) :
    Moves s u := by
  have sent : Moves t { t with out := t.out ++ [.phDataRequest frame t.assigned] } := .send frame other rfl
  have whole := before.trans sent
  simp only [Prod.mk.injEq] at same
  obtain ⟨out, uQueue, tei, count⟩ := same
  refine ⟨⟨⟨?_, uQueue ▸ whole.uQueue, tei.trans whole.tei, fun _ => here⟩, fun _ => .inl count⟩, ?_⟩
  · rw [← whole.ui, Sock.uiSent, out]
    rfl
  · rw [← whole.i, Sock.iSent, out]
    rfl

end Composition

variable (s : Sock)

/-! ## Queues and primitives -/

theorem dlPrimitive_moves (type : DlPrimitive) : Moves s (dlPrimitive s type) := by
  unfold dlPrimitive
  split
  · exact .still rfl
  · exact .still rfl

theorem acknowledge_moves (nR : Seq) : Moves s (acknowledge s nR) := by
  unfold acknowledge ackFrames
  split
  · exact .still rfl
  · refine .emits _ ⟨?_, ?_⟩ rfl
    · simp [List.filterMap_map, Function.comp_def, Output.iframe]
    · simp [List.filterMap_map, Function.comp_def, Output.ui]

/-! ## Layer management -/

theorem mdlRemoveRequest_moves : Moves s (mdlRemoveRequest s) := by
  have gone (t : Sock) (state : t.state = .teiUnassigned) (same : (t.out, t.uQueue, t.tei) = (s.out, [], s.tei)) :
      Moves s t := by
    simp only [Prod.mk.injEq] at same
    obtain ⟨out, uQueue, tei⟩ := same
    exact .turns out (.inr uQueue) tei (by rw [state]; exact nofun) (by rw [state]; exact nofun)
  unfold mdlRemoveRequest
  dsimp only
  split
  · exact gone _ rfl rfl
  · exact (gone _ rfl rfl).trans (dlPrimitive_moves _ _)
  · exact (gone _ rfl rfl).trans (dlPrimitive_moves _ _)
  · exact (gone _ rfl rfl).trans (dlPrimitive_moves _ _)
  · exact (gone _ rfl rfl).trans (dlPrimitive_moves _ _)
  · exact .still rfl

theorem mdlErrorIndication_moves (errors : List MdlError) : Moves s (mdlErrorIndication s errors) := by
  unfold mdlErrorIndication
  split
  · split
    · split
      · exact .emits [.startTeiCheck s.tei] ⟨rfl, rfl⟩ rfl
      · exact .refl s
    · split
      · unfold utmeTeiRemove mdlPrimitiveWith
        split
        · exact .still rfl
        · exact mdlRemoveRequest_moves s
      · exact .refl s
  · exact .refl s

theorem indication_moves (errors : List MdlError) : Moves s (mdlPrimitive s (.errorIndication errors)) := by
  unfold mdlPrimitive mdlPrimitiveWith
  split
  · exact .still rfl
  · exact mdlErrorIndication_moves s errors

theorem mdlErrorResponse_moves : Moves s (mdlErrorResponse s) := by
  unfold mdlErrorResponse
  split
  · exact .turns rfl (.inr rfl) rfl nofun nofun
  · exact (dlPrimitive_moves _ _).after (.turns rfl (.inr rfl) rfl nofun nofun)
  · exact .refl s

theorem persistentDeactivation_moves : Moves s (persistentDeactivation s) := by
  unfold persistentDeactivation
  dsimp only
  split
  case h_1 => exact .turns rfl (.inr rfl) rfl nofun nofun
  case h_2 => exact (dlPrimitive_moves _ _).after (.turns rfl (.inr rfl) rfl nofun nofun)
  case h_3 here => exact .turns rfl (.inr rfl) rfl (by rw [discardUiQueue, here]; exact nofun) id
  case h_4 here =>
    exact (dlPrimitive_moves _ _).after (.turns rfl (.inr rfl) rfl nofun fun _ => by rw [here]; rfl)
  case h_5 here =>
    exact (dlPrimitive_moves _ _).after (.turns rfl (.inr rfl) rfl nofun fun _ => by rw [here]; rfl)
  case h_6 here =>
    exact (dlPrimitive_moves _ _).after (.turns rfl (.inr rfl) rfl nofun fun _ => by rw [here]; rfl)
  case h_7 here =>
    exact (dlPrimitive_moves _ _).after (.turns rfl (.inr rfl) rfl nofun fun _ => by rw [here]; rfl)
  case h_8 => exact .refl s

/-! ## Frames -/

/-- Whatever state the caller has set before. -/
theorem nrErrorRecovery_moves {t : Sock} (before : Moves s t) (here : s.state.waits = false)
    (next : DatalinkState) : Moves s (nrErrorRecovery (changeState t next)) := by
  unfold nrErrorRecovery mdlPrimitive mdlPrimitiveWith
  split
  · exact before.restarts here _ ⟨rfl, rfl⟩ rfl
  · exact before.restarts here _ ⟨rfl, rfl⟩ rfl

theorem frameReject_moves (error : FormatError) : Moves s (frameReject s error) := by
  have told := indication_moves s [if error = .length then MdlError.O else .N]
  unfold frameReject
  generalize mdlPrimitive s _ = indicated at told ⊢
  dsimp only
  split
  · rename_i connected
    refine told.restarts (told.rises ?_) _ ⟨rfl, rfl⟩ rfl
    obtain here | here := connected
    · rw [here]
      rfl
    · rw [here]
      rfl
  · exact told

theorem enquiryResponse_moves : Moves s (enquiryResponse s) := by
  unfold enquiryResponse
  split
  · exact .send _ ⟨rfl, rfl⟩ rfl
  · exact .send _ ⟨rfl, rfl⟩ rfl

theorem clearOwnReceiverBusy_moves : Moves s (clearOwnReceiverBusy s) := by
  unfold clearOwnReceiverBusy
  split
  · split
    · exact .send _ ⟨rfl, rfl⟩ rfl
    · exact .refl s
  · split
    · exact .send _ ⟨rfl, rfl⟩ rfl
    · exact .refl s
  · exact .refl s

theorem setOwnReceiverBusy_moves : Moves s (setOwnReceiverBusy s) := by
  unfold setOwnReceiverBusy
  split
  · split
    · exact .refl s
    · exact .send _ ⟨rfl, rfl⟩ rfl
  · split
    · exact .refl s
    · exact .send _ ⟨rfl, rfl⟩ rfl
  · exact .refl s

theorem acceptIframe_moves (skb : RxSkb) (nS : Seq) (p : Bool) : Moves s (acceptIframe s skb nS p) := by
  unfold acceptIframe
  split
  · split
    · exact .send _ ⟨rfl, rfl⟩ rfl
    · exact .refl s
  · split
    · have indicated : Moves s (dlDataIndication { s with vR := s.vR + 1, rejectException := false } skb) :=
        .emits [.dataIndication skb.frame.data] ⟨rfl, rfl⟩ rfl
      refine indicated.trans ?_
      dsimp only
      generalize dlDataIndication _ _ = accepted
      split
      · exact .send _ ⟨rfl, rfl⟩ rfl
      · exact .send _ ⟨rfl, rfl⟩ rfl
    · dsimp only
      split
      · split
        · exact .send _ ⟨rfl, rfl⟩ rfl
        · exact .refl s
      · split
        · exact .send _ ⟨rfl, rfl⟩ rfl
        · exact .send _ ⟨rfl, rfl⟩ rfl

theorem acknowledgeTimed_moves (nR : Seq) : Moves s (acknowledgeTimed s nR) := by
  unfold acknowledgeTimed
  split
  · exact (acknowledge_moves s nR).trans (.still rfl)
  · split
    · exact (acknowledge_moves s nR).trans (.still rfl)
    · exact .refl s

theorem handleIframe_moves (skb : RxSkb) (nS nR : Seq) (p : Bool) : Moves s (handleIframe s skb nS nR p) := by
  unfold handleIframe
  split
  · exact frameReject_moves s .n201
  · have cleared : Moves s (if s.rmemAlloc < s.rcvbuf ∧ s.ownReceiverBusy = true then
        clearOwnReceiverBusy s else s) := by
      split
      · exact clearOwnReceiverBusy_moves s
      · exact .refl s
    generalize (if s.rmemAlloc < s.rcvbuf ∧ s.ownReceiverBusy = true then clearOwnReceiverBusy s
        else s) = ready at cleared ⊢
    refine cleared.trans ?_
    dsimp only
    have accepted := acceptIframe_moves ready skb nS p
    split
    · exact setOwnReceiverBusy_moves ready
    · split
      · rename_i here
        split
        · split
          · exact accepted.trans (acknowledge_moves _ nR)
          · exact accepted.trans (acknowledgeTimed_moves _ nR)
        · exact nrErrorRecovery_moves ready accepted (by rw [here]; rfl) _
      · rename_i here
        split
        · exact accepted.trans (acknowledge_moves _ nR)
        · exact nrErrorRecovery_moves ready accepted (by rw [here]; rfl) _
      · exact .refl ready

theorem answerPoll_moves (cr pF : Bool) : Moves s (answerPoll s cr pF) := by
  unfold answerPoll
  split
  · split
    · exact indication_moves s _
    · exact enquiryResponse_moves s
  · exact .refl s

/-! ## The I queue -/

theorem transmitIframe_steady (skb : Skb) : Steady s (transmitIframe s skb) := by
  have sent (t : Sock) (same : (t.uQueue, t.tei, t.state, t.retransCnt) = (s.uQueue, s.tei, s.state, s.retransCnt))
      (out : t.out = s.out ++ [.phDataRequest (iframeOf s skb) s.assigned]) : Steady s t := by
    simp only [Prod.mk.injEq] at same
    obtain ⟨uQueue, tei, state, count⟩ := same
    refine ⟨⟨?_, .inl uQueue, tei, fun held => state ▸ held⟩, fun _ => .inr ⟨state, count⟩⟩
    rw [Sock.uiSent, out, List.filterMap_append]
    exact List.append_nil _
  unfold transmitIframe
  dsimp only
  split
  · exact sent _ rfl rfl
  · exact sent _ rfl rfl

theorem sendLoop_steady (sent rest : List Skb) : Steady s (sendLoop s sent rest) := by
  induction rest generalizing s sent with
  | nil => exact .still rfl
  | cons skb rest ih =>
    unfold sendLoop
    split
    · exact .still rfl
    · exact (transmitIframe_steady s _).trans (ih _ _)

theorem runIQueue_steady : Steady s (runIQueue s) := by
  unfold runIQueue
  split
  · exact .still rfl
  · split
    · exact .still rfl
    · split
      · exact .still rfl
      · split
        · exact .still rfl
        · exact sendLoop_steady s _ _

/-- What may be sent from the I queue in one event: nothing, or what
`lapd_run_i_queue` sends with nothing outstanding. -/
inductive Draws (s t : Sock) : Prop where
  | none (i : t.iSent = s.iSent)
  | run (u : Sock) (i : u.iSent = s.iSent) (sap : u.sap = s.sap) (rewound : u.vS = u.vA)
      (drawn : t.iSent = (runIQueue u).iSent) (vA : t.vA = (runIQueue u).vA)

theorem Moves.draws {t : Sock} (moves : Moves s t) : Draws s t := .none moves.i

/-- The work before a retransmission does not show in it. -/
theorem invokeRetransmission_draws {t : Sock} (before : Moves s t) (sap : t.sap = s.sap) :
    Steady s (invokeRetransmission t) ∧ Draws s (invokeRetransmission t) := by
  have rewound (u : Sock) (same : u.course = t.course) (sapSame : u.sap = t.sap) (reached : u.vS = u.vA) :
      Steady s (runIQueue u) ∧ Draws s (runIQueue u) := by
    have moved := before.trans (Moves.still same)
    exact ⟨moved.toSteady.trans (runIQueue_steady u), .run u moved.i (sapSame.trans sap) reached rfl rfl⟩
  unfold invokeRetransmission
  dsimp only
  cases t.writeQueue with
  | nil => exact rewound _ rfl rfl rfl
  | cons skb rest => exact rewound _ rfl rfl rfl

theorem Draws.settles {s t u : Sock} (draws : Draws s t) (i : u.iSent = t.iSent) (vA : u.vA = t.vA) :
    Draws s u := by
  cases draws with
  | none same => exact .none (i.trans same)
  | run before same sap rewound drawn last => exact .run before same sap rewound (i.trans drawn) (vA.trans last)

theorem recoverySframe_moves (cr pF : Bool) (nR : Seq) {timers : Sock → Sock} (here : s.state.waits = false)
    (kept : ∀ s, (timers s).course = s.course ∧ (timers s).sap = s.sap) :
    Steady s (recoverySframe s cr nR pF timers) ∧ Draws s (recoverySframe s cr nR pF timers) := by
  have both {t : Sock} (moves : Moves s t) : Steady s t ∧ Draws s t := ⟨moves.toSteady, moves.draws⟩
  have error (t : Sock) (before : Moves s t) : Moves s (changeState (nrErrorRecovery t) .awaitingEstablish) := by
    unfold nrErrorRecovery mdlPrimitive mdlPrimitiveWith
    split
    · exact before.restarts here _ ⟨rfl, rfl⟩ rfl
    · exact before.restarts here _ ⟨rfl, rfl⟩ rfl
  unfold recoverySframe
  split
  · split
    · split
      · have acked := acknowledge_moves s nR
        have state : (acknowledge s nR).toLink.state = s.state := by
          rw [acknowledge_toLink]
          rfl
        obtain ⟨same, sap⟩ := kept (acknowledge s nR)
        simp only [Sock.course, Prod.mk.injEq] at same
        obtain ⟨out, uQueue, tei, _, _⟩ := same
        have moved : Moves (acknowledge s nR)
            (changeState (timers (acknowledge s nR)) .linkConnectionEstablished) :=
          .turns out (.inl uQueue) tei nofun fun _ => by rw [state]; exact here
        exact invokeRetransmission_draws s (acked.trans moved) (sap.trans (acknowledge_sap s nR))
      · exact both (acknowledge_moves s nR)
    · exact both (error s (.refl s))
  · dsimp only
    have answered : Moves s (if pF = true then enquiryResponse s else s) := by
      split
      · exact enquiryResponse_moves s
      · exact .refl s
    generalize (if pF = true then enquiryResponse s else s) = ready at answered ⊢
    split
    · exact both (answered.trans (acknowledge_moves ready nR))
    · exact both (error ready answered)

theorem handleSframe_moves (skb : RxSkb) (function : SframeFunction) (nR : Seq) (pF : Bool) :
    Steady s (handleSframe s skb function nR pF) ∧ Draws s (handleSframe s skb function nR pF) := by
  have both {t : Sock} (moves : Moves s t) : Steady s t ∧ Draws s t := ⟨moves.toSteady, moves.draws⟩
  have polled (busy : Bool) : Moves s (answerPoll { s with peerReceiverBusy := busy } skb.frame.cr pF) :=
    (answerPoll_moves _ _ _).after (.still rfl)
  have recovered (busy : Bool) (here : s.state = .timerRecovery) {timers : Sock → Sock}
      (kept : ∀ s, (timers s).course = s.course ∧ (timers s).sap = s.sap) :
      Steady s (recoverySframe { s with peerReceiverBusy := busy } skb.frame.cr nR pF timers) ∧
        Draws s (recoverySframe { s with peerReceiverBusy := busy } skb.frame.cr nR pF timers) := by
    have waits : s.state.waits = false := by
      rw [here]
      rfl
    obtain ⟨steady, draws⟩ :=
      recoverySframe_moves { s with peerReceiverBusy := busy } skb.frame.cr pF nR waits kept
    refine ⟨Steady.trans (t := { s with peerReceiverBusy := busy }) (.still rfl) steady, ?_⟩
    cases draws with
    | none same => exact .none same
    | run u i sap rewound drawn vA => exact .run u i sap rewound drawn vA
  unfold handleSframe
  split
  · exact both (frameReject_moves s .length)
  · cases function with
    | rr =>
      dsimp only
      unfold handleSframeRr
      dsimp only
      split
      · rename_i here
        split
        · exact both ((polled false).trans (acknowledgeTimed_moves _ _))
        · exact both (nrErrorRecovery_moves s (polled false) (by rw [here]; rfl) _)
      · rename_i here
        exact recovered false here fun _ => ⟨rfl, rfl⟩
      · exact both (.refl s)
    | rnr =>
      dsimp only
      unfold handleSframeRnr
      dsimp only
      split
      · rename_i here
        split
        · have before := (polled true).trans (acknowledge_moves _ nR)
          obtain ⟨steady, draws⟩ := invokeRetransmission_draws s before
            (by rw [acknowledge_sap, answerPoll_sap])
          have retimed (t : Sock) : (startT200 (stopT203 t)).course = t.course ∧
              (startT200 (stopT203 t)).iSent = t.iSent ∧ (startT200 (stopT203 t)).vA = t.vA := ⟨rfl, rfl, rfl⟩
          obtain ⟨course, iSent, vA⟩ := retimed (invokeRetransmission (acknowledge _ nR))
          exact ⟨steady.trans (.still course), draws.settles iSent vA⟩
        · exact both (nrErrorRecovery_moves s (polled true) (by rw [here]; rfl) _)
      · rename_i here
        exact recovered true here fun _ => ⟨rfl, rfl⟩
      · exact both (.refl s)
    | rej =>
      dsimp only
      unfold handleSframeRej
      dsimp only
      split
      · rename_i here
        split
        · have before := (polled false).trans (acknowledge_moves _ nR)
          refine invokeRetransmission_draws s (before.trans (.still rfl)) ?_
          change (acknowledge _ nR).sap = s.sap
          rw [acknowledge_sap, answerPoll_sap]
        · exact both (nrErrorRecovery_moves s (polled false) (by rw [here]; rfl) _)
      · rename_i here
        exact recovered false here fun _ => ⟨rfl, rfl⟩
      · exact both (.refl s)
    | invalid => exact both (.refl s)

/-! ## U frames -/

/-- Only a FRMR takes the socket to a state with a TEI from one without. -/
theorem handleUframe_moves (skb : RxSkb) (function : UframeFunction) (pF : Bool)
    (other : function ≠ .ua ∧ (function = .frmr → skb.len ≠ 5 ∨ s.state.waits = false)) :
    Moves s (handleUframe s skb function pF) := by
  unfold handleUframe
  split
  · exact frameReject_moves s .length
  · rename_i length
    cases function with
    | sabme =>
      dsimp only
      unfold handleUframeSabme resetLink
      dsimp only
      have reset : Moves s (mdlPrimitive (clearExceptionConditions (sendUframe s .ua pF))
          (.errorIndication [.F])) :=
        (indication_moves _ _).after (.send _ ⟨rfl, rfl⟩ rfl)
      split
      · rename_i here
        split
        · refine (dlPrimitive_moves _ _).after ?_
          have accepted : Moves s (changeState (startT203 { clearExceptionConditions s with
              vS := 0, vR := 0, vA := 0 }) .linkConnectionEstablished) :=
            .turns rfl (.inl rfl) rfl nofun fun _ => by rw [here]; rfl
          exact accepted.trans (.send _ ⟨rfl, rfl⟩ rfl)
        · exact .send _ ⟨rfl, rfl⟩ rfl
      · exact .send _ ⟨rfl, rfl⟩ rfl
      · exact .send _ ⟨rfl, rfl⟩ rfl
      · rw [if_neg (fun differ => differ rfl)]
        exact reset.trans (.still rfl)
      · rw [if_neg (fun differ => differ rfl)]
        exact reset.trans (.still rfl)
      · exact .refl s
    | dm =>
      dsimp only
      unfold handleUframeDm
      dsimp only
      split
      case h_1 here =>
        split
        · exact (Moves.refl s).restarts (by rw [here]; rfl) _ ⟨rfl, rfl⟩ rfl
        · exact .refl s
      case h_2 here =>
        split
        · exact (dlPrimitive_moves _ _).after (.turns rfl (.inl rfl) rfl nofun fun _ => by rw [here]; rfl)
        · exact .refl s
      case h_3 here =>
        split
        · exact (dlPrimitive_moves _ _).after (.turns rfl (.inl rfl) rfl nofun fun _ => by rw [here]; rfl)
        · exact .refl s
      case h_4 here =>
        split
        · exact indication_moves s _
        · exact (indication_moves s [.E]).restarts (by rw [here]; rfl) _ ⟨rfl, rfl⟩ rfl
      case h_5 here =>
        split
        · exact indication_moves s _
        · exact (indication_moves s [.E]).restarts (by rw [here]; rfl) _ ⟨rfl, rfl⟩ rfl
      case h_6 => exact .refl s
    | ui => exact .still rfl
    | disc =>
      dsimp only
      unfold handleUframeDisc
      dsimp only
      have answered : Moves s (sendUframe (discardIQueue s) .ua pF) := .send _ ⟨rfl, rfl⟩ rfl
      split
      case h_1 => exact .send _ ⟨rfl, rfl⟩ rfl
      case h_2 => exact .send _ ⟨rfl, rfl⟩ rfl
      case h_3 => exact .send _ ⟨rfl, rfl⟩ rfl
      case h_4 here =>
        refine (dlPrimitive_moves _ _).after (answered.trans ?_)
        exact .turns rfl (.inl rfl) rfl nofun fun _ => by rw [sendUframe, phDataRequest, discardIQueue, here]; rfl
      case h_5 here =>
        refine (dlPrimitive_moves _ _).after (answered.trans ?_)
        exact .turns rfl (.inl rfl) rfl nofun fun _ => by rw [sendUframe, phDataRequest, discardIQueue, here]; rfl
      case h_6 => exact .refl s
    | ua => exact absurd rfl other.1
    | frmr =>
      have fits : ¬ skb.len ≠ 5 := fun wrong => length ⟨nofun, wrong⟩
      exact (indication_moves s [.K]).restarts ((other.2 rfl).resolve_left fits) _ ⟨rfl, rfl⟩ rfl
    | xid => exact .refl s
    | invalid => exact frameReject_moves s .undefinedCommand

theorem handleUframeUa_moves (pF : Bool) :
    Steady s (handleUframeUa s pF) ∧ Draws s (handleUframeUa s pF) := by
  have both {t : Sock} (moves : Moves s t) : Steady s t ∧ Draws s t := ⟨moves.toSteady, moves.draws⟩
  unfold handleUframeUa
  dsimp only
  split
  case h_1 => exact both (indication_moves s _)
  case h_2 here =>
    split
    · exact both (indication_moves s _)
    · have connected : Moves s (changeState { startT203 (stopT200 s) with vS := 0, vR := 0, vA := 0 }
          .linkConnectionEstablished) :=
        .turns rfl (.inl rfl) rfl nofun fun _ => by rw [here]; rfl
      split
      · have confirmed := connected.trans (dlPrimitive_moves _ .establishConfirm)
        have link := dlPrimitive_toLink (changeState { startT203 (stopT200 s) with vS := 0, vR := 0, vA := 0 }
          .linkConnectionEstablished) .establishConfirm
        refine ⟨confirmed.toSteady.trans (runIQueue_steady _), .run _ confirmed.i (dlPrimitive_sap _ _) ?_ rfl rfl⟩
        rw [link]
        rfl
      · rw [if_neg (fun differ => differ rfl)]
        exact both connected
  case h_3 here =>
    split
    · exact both (indication_moves s _)
    · refine both ((dlPrimitive_moves _ _).after ?_)
      exact .turns rfl (.inl rfl) rfl nofun fun _ => by rw [here]; rfl
  case h_4 => exact both (indication_moves s _)
  case h_5 => exact both (indication_moves s _)
  case h_6 => exact both (.refl s)

/-! ## Items -/

/-- The items that take a socket without a TEI to a state with one. The second is
no assignment: the FRMR handler does not look at the state. -/
def rouses (s : Sock) : Item → Bool
  | .mdl (.assignRequest _) =>
    s.state == .teiUnassigned || s.state == .awaitingTei || s.state == .establishAwaitingTei
  | .frame skb => match skb.frame.control with
    | .uframe .frmr _ => skb.len == 5 && s.state.waits
    | _ => false
  | _ => false

variable {s}

theorem dlcRecv_steady (item : Item) (sleeps : rouses s item = false) :
    Steady s (dlcRecv s item) ∧ Draws s (dlcRecv s item) := by
  have both {t : Sock} (moves : Moves s t) : Steady s t ∧ Draws s t := ⟨moves.toSteady, moves.draws⟩
  cases item with
  | mdl pri =>
    cases pri with
    | assignRequest tei =>
      simp only [rouses, Bool.or_eq_false_iff, beq_eq_false_iff_ne] at sleeps
      obtain ⟨⟨not1, not2⟩, not3⟩ := sleeps
      unfold dlcRecv mdlRecv mdlAssignRequest
      dsimp only
      split
      case h_1 here => exact absurd here not1
      case h_2 here => exact absurd here not2
      case h_3 here => exact absurd here not3
      case h_4 => exact both (.still rfl)
    | removeRequest => exact both (mdlRemoveRequest_moves s)
    | errorResponse => exact both (mdlErrorResponse_moves s)
    | errorIndication errors => exact both (mdlErrorIndication_moves s errors)
    | persistentDeactivation => exact both (persistentDeactivation_moves s)
  | frame skb =>
    unfold dlcRecv
    unfold rouses at sleeps
    dsimp only at sleeps ⊢
    split
    · exact both (handleIframe_moves s skb _ _ _)
    · exact handleSframe_moves s skb _ _ _
    · rename_i function pF control
      rw [control] at sleeps
      by_cases ua : function = .ua
      · subst ua
        unfold handleUframe
        split
        · exact both (frameReject_moves s .length)
        · exact handleUframeUa_moves s pF
      · refine both (handleUframe_moves s skb function pF ⟨ua, ?_⟩)
        intro frmr
        subst frmr
        by_cases length : skb.len = 5
        · right
          simpa [length] using sleeps
        · exact .inl length

/-- The socket has sent a SABME at most, and T200 does not count or begins to. -/
structure Roused (s t : Sock) : Prop where
  i : t.iSent = s.iSent
  ui : t.uiSent = s.uiSent
  uQueue : t.uQueue = s.uQueue
  state : t.state.assigned = true
  count : t.state.retries = true → t.retransCnt = 0

theorem Roused.establishes {s t : Sock} (frame : Frame)
    (sabme : Output.iframe (.phDataRequest frame s.assigned) = none ∧ Output.ui (.phDataRequest frame s.assigned) = none)
    (flag : Bool) (same : (t.out, t.uQueue, t.state.assigned, t.retransCnt) =
      (s.out ++ [.phDataRequest frame flag], s.uQueue, true, 0)) : Roused s t := by
  simp only [Prod.mk.injEq] at same
  obtain ⟨out, uQueue, state, count⟩ := same
  refine ⟨?_, ?_, uQueue, state, fun _ => count⟩
  · rw [Sock.iSent, out, List.filterMap_append]
    exact (congrArg (s.iSent ++ ·) (List.filterMap_cons_none sabme.1)).trans (List.append_nil _)
  · rw [Sock.uiSent, out, List.filterMap_append]
    exact (congrArg (s.uiSent ++ ·) (List.filterMap_cons_none sabme.2)).trans (List.append_nil _)

theorem dlcRecv_roused (item : Item) (wakes : rouses s item = true) : Roused s (dlcRecv s item) := by
  cases item with
  | mdl pri =>
    cases pri with
    | assignRequest tei =>
      simp only [rouses, Bool.or_eq_true, beq_iff_eq] at wakes
      unfold dlcRecv mdlRecv mdlAssignRequest
      dsimp only
      split
      case h_1 => exact ⟨rfl, rfl, rfl, rfl, nofun⟩
      case h_2 => exact ⟨rfl, rfl, rfl, rfl, nofun⟩
      case h_3 => exact .establishes _ ⟨rfl, rfl⟩ _ rfl
      case h_4 not1 not2 not3 => 
        obtain (here | here) | here := wakes
        · exact absurd here not1
        · exact absurd here not2
        · exact absurd here not3
    | _ => cases wakes
  | frame skb =>
    unfold rouses at wakes
    dsimp only at wakes
    split at wakes
    · rename_i pF control
      simp only [Bool.and_eq_true, beq_iff_eq] at wakes
      have handles : dlcRecv s (.frame skb) = handleUframeFrmr s := by
        unfold dlcRecv handleUframe
        simp [control, wakes.1]
      rw [handles]
      unfold handleUframeFrmr mdlPrimitive mdlPrimitiveWith
      dsimp only
      split
      · exact .establishes _ ⟨rfl, rfl⟩ _ rfl
      · exact .establishes _ ⟨rfl, rfl⟩ _ rfl
    · cases wakes

/-! ## Requests -/

variable (s)

theorem dlEstablishRequest_moves : Moves s (dlEstablishRequest s) := by
  unfold dlEstablishRequest
  dsimp only
  split
  case h_1 =>
    have asked : Moves s { s with out := s.out ++ [.assignIndication] } :=
      .emits [.assignIndication] ⟨rfl, rfl⟩ rfl
    exact asked.trans (.turns rfl (.inl rfl) rfl nofun nofun)
  case h_2 => exact .turns rfl (.inl rfl) rfl nofun nofun
  case h_3 here => exact (Moves.refl s).restarts (by rw [here]; rfl) _ ⟨rfl, rfl⟩ rfl
  case h_4 here => exact (Moves.refl s).restarts (by rw [here]; rfl) _ ⟨rfl, rfl⟩ rfl
  case h_5 here => exact (Moves.refl s).restarts (by rw [here]; rfl) _ ⟨rfl, rfl⟩ rfl
  case h_6 here => exact (Moves.refl s).restarts (by rw [here]; rfl) _ ⟨rfl, rfl⟩ rfl
  case h_7 => exact .refl s

theorem dlReleaseRequest_moves : Moves s (dlReleaseRequest s) := by
  unfold dlReleaseRequest
  dsimp only
  split
  case h_1 => exact dlPrimitive_moves s _
  case h_2 here => exact (Moves.refl s).restarts (by rw [here]; rfl) _ ⟨rfl, rfl⟩ rfl
  case h_3 here => exact (Moves.refl s).restarts (by rw [here]; rfl) _ ⟨rfl, rfl⟩ rfl
  case h_4 => exact .refl s

/-- Outside state 7 data is queued or dropped. -/
theorem dlDataRequest_moves (skb : Skb) (elsewhere : s.state ≠ .linkConnectionEstablished) :
    Moves s (dlDataRequest s skb) := by
  unfold dlDataRequest
  split
  · split
    · exact .still rfl
    · exact .refl s
  · rename_i here
    exact absurd here elsewhere
  · exact .still rfl
  · exact .refl s

theorem dlDataRequest_steady (skb : Skb) : Steady s (dlDataRequest s skb) := by
  by_cases here : s.state = .linkConnectionEstablished
  · unfold dlDataRequest
    simp only [here]
    have queued : Steady s (sockQueueIframe s skb) := .still rfl
    exact queued.trans (runIQueue_steady _)
  · exact (dlDataRequest_moves s skb here).toSteady

/-! ## Timers -/

theorem timerT200_quiet : Quiet s (timerT200 s) ∧ (timerT200 s).iSent = s.iSent := by
  have both {t u : Sock} (same : (t.out, t.uQueue, t.tei) = (s.out, s.uQueue, s.tei))
      (rises : t.state.waits = false → s.state.waits = false) (moves : Moves t u) :
      Quiet s u ∧ u.iSent = s.iSent := by
    simp only [Prod.mk.injEq] at same
    obtain ⟨out, uQueue, tei⟩ := same
    have before : Quiet s t := ⟨by rw [Sock.uiSent, out]; rfl, .inl uQueue, tei, rises⟩
    refine ⟨before.trans moves.toQuiet, moves.i.trans ?_⟩
    rw [Sock.iSent, out]
    rfl
  unfold timerT200
  dsimp only
  split
  · exact both (t := s) rfl id (.still rfl)
  · split
    case h_1 here =>
      split
      · refine both (t := changeState (discardIQueue (stopT200 s)) .teiAssigned) rfl
          (fun _ => here ▸ rfl) ?_
        exact (dlPrimitive_moves _ _).after (indication_moves _ _)
      · exact both (t := { s with retransCnt := s.retransCnt + 1 }) rfl id (.send _ ⟨rfl, rfl⟩ rfl)
    case h_2 here =>
      split
      · refine both (t := changeState (stopT200 s) .teiAssigned) rfl (fun _ => here ▸ rfl) ?_
        exact (dlPrimitive_moves _ _).trans (indication_moves _ _)
      · exact both (t := { s with retransCnt := s.retransCnt + 1 }) rfl id (.send _ ⟨rfl, rfl⟩ rfl)
    case h_3 here =>
      refine both (t := { s with state := .timerRecovery, retransCnt := 1 }) rfl (fun _ => here ▸ rfl) ?_
      unfold transmitEnquiry
      dsimp only
      split
      · exact .send _ ⟨rfl, rfl⟩ rfl
      · exact .send _ ⟨rfl, rfl⟩ rfl
    case h_4 here =>
      split
      · have told : Moves s (mdlPrimitive (stopT200 s) (.errorIndication [.I])) :=
          (indication_moves _ _).after (.still rfl)
        exact both (t := s) rfl id (told.restarts (here ▸ rfl) _ ⟨rfl, rfl⟩ rfl)
      · refine both (t := { s with retransCnt := s.retransCnt + 1 }) rfl id ?_
        unfold transmitEnquiry
        dsimp only
        split
        · exact .send _ ⟨rfl, rfl⟩ rfl
        · exact .send _ ⟨rfl, rfl⟩ rfl
    case h_5 => exact both (t := s) rfl id (.still rfl)

/-- The user has been told: a closing socket is removed instead. -/
def Sock.notified (s : Sock) (type : DlPrimitive) : Prop :=
  if s.skState = .normalDlcClosing ∧ type = .releaseConfirm then s.unhashTimer = true
  else .primitive type s.primTruesize ∈ s.receiveQueue

/-- T203 takes the socket from state 7 to state 8, where the count begins at 0. -/
theorem timerT203_moves : Moves s (timerT203 s) := by
  unfold timerT203
  dsimp only
  split
  · exact .still rfl
  · split
    · rename_i here
      have settled : s.state.waits = false := here ▸ rfl
      unfold transmitEnquiry
      dsimp only
      split
      · exact (Moves.refl s).restarts settled _ ⟨rfl, rfl⟩ rfl
      · exact (Moves.refl s).restarts settled _ ⟨rfl, rfl⟩ rfl
    · exact .still rfl

/-! ## The U queue -/

/-- Only UI frames wait in the U queue. -/
def UiOnly (s : Sock) : Prop := ∀ frame ∈ s.uQueue, ∃ pF, frame.control = .uframe .ui pF

theorem foldl_phDataRequest_eq (frames : List Frame) :
    frames.foldl phDataRequest s = { s with out := s.out ++ frames.map fun frame => .phDataRequest frame s.assigned } := by
  induction frames generalizing s with
  | nil => simp
  | cons frame frames ih =>
    rw [List.foldl_cons, ih]
    simp [phDataRequest]

variable {s}

theorem runUiQueue_sends (ui : UiOnly s) :
    (runUiQueue s).iSent = s.iSent ∧ (runUiQueue s).uiSent = s.uiSent ++ s.uQueue ∧ (runUiQueue s).tei = s.tei ∧
      (runUiQueue s).state = s.state ∧ (runUiQueue s).retransCnt = s.retransCnt ∧ (runUiQueue s).uQueue = [] := by
  have each : ∀ frame ∈ s.uQueue, Output.iframe (.phDataRequest frame s.assigned) = none ∧
      Output.ui (.phDataRequest frame s.assigned) = some frame := by
    intro frame member
    obtain ⟨pF, control⟩ := ui frame member
    simp [Output.iframe, Output.ui, control]
  have none : (s.uQueue.map fun frame => Output.phDataRequest frame s.assigned).filterMap Output.iframe = [] := by
    rw [List.filterMap_map]
    exact List.filterMap_eq_nil_iff.mpr fun frame member => (each frame member).1
  have all : (s.uQueue.map fun frame => Output.phDataRequest frame s.assigned).filterMap Output.ui = s.uQueue := by
    rw [List.filterMap_map]
    exact (List.filterMap_congr fun frame member => (each frame member).2).trans List.filterMap_some
  unfold runUiQueue
  rw [foldl_phDataRequest_eq]
  refine ⟨?_, ?_, rfl, rfl, rfl, rfl⟩
  · unfold Sock.iSent
    rw [List.filterMap_append, none, List.append_nil]
  · unfold Sock.uiSent
    rw [List.filterMap_append, all]

/-! ## Events -/

theorem perform_moves (e : Event) (unhandled : handled s e = none) (timer : e ≠ .timerT200)
    (ui : ∀ data, e ≠ .unitDataRequest data)
    (data : ∀ data nS nR, e = .dataRequest data nS nR → s.state ≠ .linkConnectionEstablished) :
    Moves s (perform s e) := by
  cases e with
  | lockSock => exact .still rfl
  | releaseSock => exact .still rfl
  | backlogRcv =>
    unfold perform backlogRcv
    cases pending : s.backlog with
    | nil => exact .refl s
    | cons item rest => simp [handled, pending] at unhandled
  | establishRequest => exact dlEstablishRequest_moves s
  | releaseRequest => exact dlReleaseRequest_moves s
  | dataRequest octets nS nR => exact dlDataRequest_moves s _ (data octets nS nR rfl)
  | unitDataRequest octets => exact absurd rfl (ui octets)
  | frame skb =>
    unfold perform passFrame
    dsimp only
    split
    · rename_i delivered
      split
      · exact .still rfl
      · rename_i free
        simp [handled, delivered, free] at unhandled
    · exact .refl s
  | mdl pri =>
    unfold perform mdlPrimitive mdlPrimitiveWith
    dsimp only
    split
    · exact .still rfl
    · rename_i free
      simp [handled, free] at unhandled
  | timerT200 => exact absurd rfl timer
  | timerT203 => exact timerT203_moves s
  | recvmsg =>
    unfold perform recvmsg
    dsimp only
    split
    · exact .refl s
    · exact .still rfl

/-- The item an event handles, and what is known of the handling. -/
theorem perform_item {item : Item} {e : Event} (got : handled s e = some item) :
    (rouses s item = true → Roused s (perform s e)) ∧
      (rouses s item = false → Steady s (perform s e) ∧ Draws s (perform s e)) := by
  obtain ⟨backlog, performs⟩ := handled_perform got
  rw [performs]
  constructor
  · intro wakes
    obtain ⟨i, ui, uQueue, state, count⟩ := dlcRecv_roused (s := { s with backlog := backlog }) item wakes
    exact ⟨i, ui, uQueue, state, count⟩
  · intro sleeps
    obtain ⟨steady, draws⟩ := dlcRecv_steady (s := { s with backlog := backlog }) item sleeps
    refine ⟨Steady.trans (t := { s with backlog := backlog }) (.still rfl) steady, ?_⟩
    cases draws with
    | none i => exact .none i
    | run u i sap rewound drawn vA => exact .run u i sap rewound drawn vA

theorem dlUnitDataRequest_cases (frame : Frame) (ui : UiOnly s) (new : ∃ pF, frame.control = .uframe .ui pF) :
    (dlUnitDataRequest s frame).iSent = s.iSent ∧ (dlUnitDataRequest s frame).tei = s.tei ∧
      (dlUnitDataRequest s frame).retransCnt = s.retransCnt ∧
      ((dlUnitDataRequest s frame).uiSent = s.uiSent ∧ (dlUnitDataRequest s frame).uQueue = s.uQueue ++ [frame] ∧
          (dlUnitDataRequest s frame).state.waits = true ∧ s.state.waits = true ∨
        (dlUnitDataRequest s frame).uiSent = s.uiSent ++ (s.uQueue ++ [frame]) ∧
          (dlUnitDataRequest s frame).uQueue = [] ∧ (dlUnitDataRequest s frame).state = s.state ∧
          s.state.waits = false) := by
  have both : UiOnly { s with uQueue := s.uQueue ++ [frame] } := by
    intro one member
    obtain old | rfl := by simpa using member
    · exact ui one old
    · exact new
  unfold dlUnitDataRequest
  dsimp only
  split
  case h_1 here =>
    refine ⟨?_, rfl, rfl, .inl ⟨?_, rfl, rfl, by rw [here]; rfl⟩⟩
    · unfold Sock.iSent
      simp [changeState, Output.iframe]
    · unfold Sock.uiSent
      simp [changeState, Output.ui]
  case h_2 here => exact ⟨rfl, rfl, rfl, .inl ⟨rfl, rfl, by rw [here]; rfl, by rw [here]; rfl⟩⟩
  case h_3 here => exact ⟨rfl, rfl, rfl, .inl ⟨rfl, rfl, by rw [here]; rfl, by rw [here]; rfl⟩⟩
  case h_4 not1 not2 not3 =>
    obtain ⟨i, sent, tei, state, count, empty⟩ := runUiQueue_sends both
    refine ⟨i, tei, count, .inr ⟨sent, empty, state, ?_⟩⟩
    cases here : s.state with
    | teiUnassigned => exact absurd here not1
    | awaitingTei => exact absurd here not2
    | establishAwaitingTei => exact absurd here not3
    | _ => rfl

/-- The data request included. -/
theorem perform_steady (e : Event) (unhandled : handled s e = none) (timer : e ≠ .timerT200)
    (ui : ∀ data, e ≠ .unitDataRequest data) : Steady s (perform s e) := by
  by_cases data : ∃ octets nS nR, e = .dataRequest octets nS nR
  · obtain ⟨octets, nS, nR, rfl⟩ := data
    exact dlDataRequest_steady s _
  · refine (perform_moves e unhandled timer ui ?_).toSteady
    intro octets nS nR same
    exact absurd ⟨octets, nS, nR, same⟩ data

/-- What waits in the U queue afterwards. -/
theorem perform_uQueue (e : Event) (ui : UiOnly s) :
    (perform s e).uQueue = s.uQueue ∨ (perform s e).uQueue = [] ∨
      ∃ octets, e = .unitDataRequest octets ∧ s.state.waits = true ∧
        (perform s e).uQueue = s.uQueue ++ [{ prepareUframe s .ui false with data := octets }] := by
  have settle {t : Sock} (queue : t.uQueue = s.uQueue ∨ t.uQueue = []) :
      t.uQueue = s.uQueue ∨ t.uQueue = [] ∨ ∃ octets, e = .unitDataRequest octets ∧ s.state.waits = true ∧
        t.uQueue = s.uQueue ++ [{ prepareUframe s .ui false with data := octets }] :=
    queue.imp_right .inl
  cases got : handled s e with
  | some item =>
    obtain ⟨roused, steady⟩ := perform_item got
    cases wakes : rouses s item with
    | true => exact .inl (roused wakes).uQueue
    | false => exact settle (steady wakes).1.uQueue
  | none =>
    by_cases timer : e = .timerT200
    · subst timer
      exact settle (timerT200_quiet s).1.uQueue
    · by_cases request : ∃ octets, e = .unitDataRequest octets
      · obtain ⟨octets, rfl⟩ := request
        obtain ⟨_, _, _, ⟨_, queue, _, before⟩ | ⟨_, empty, _⟩⟩ :=
          dlUnitDataRequest_cases { prepareUframe s .ui false with data := octets } ui ⟨false, rfl⟩
        · exact .inr (.inr ⟨octets, rfl, before, queue⟩)
        · exact .inr (.inl empty)
      · exact settle (perform_steady e got timer fun octets same => request ⟨octets, same⟩).uQueue

theorem perform_uiOnly (e : Event) (ui : UiOnly s) : UiOnly (perform s e) := by
  intro frame member
  obtain same | empty | ⟨octets, _, _, added⟩ := perform_uQueue e ui
  · rw [same] at member
    exact ui frame member
  · rw [empty] at member
    cases member
  · rw [added] at member
    obtain old | rfl := by simpa using member
    · exact ui frame old
    · exact ⟨false, rfl⟩

/-- Data requests in state 7 apart, an event sends I frames from a window that is
empty at first. -/
theorem perform_draws (e : Event) (ui : UiOnly s)
    (data : ∀ data nS nR, e = .dataRequest data nS nR → s.state ≠ .linkConnectionEstablished) :
    Draws s (perform s e) := by
  cases got : handled s e with
  | some item =>
    obtain ⟨roused, steady⟩ := perform_item got
    cases wakes : rouses s item with
    | true => exact .none (roused wakes).i
    | false => exact (steady wakes).2
  | none =>
    by_cases timer : e = .timerT200
    · subst timer
      exact .none (timerT200_quiet s).2
    · by_cases request : ∃ octets, e = .unitDataRequest octets
      · obtain ⟨octets, rfl⟩ := request
        exact .none (dlUnitDataRequest_cases { prepareUframe s .ui false with data := octets } ui ⟨false, rfl⟩).1
      · exact (perform_moves e got timer (fun octets same => request ⟨octets, same⟩) data).draws

end Vstuff.Lapd
