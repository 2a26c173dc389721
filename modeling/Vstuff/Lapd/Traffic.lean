import Vstuff.Lapd.Footprint
import Vstuff.Lapd.Queue
import Mathlib.Logic.Relation

/-! What an event of a connected socket does for the transfer of data, as a
sequence of elementary operations: sending a supervisory frame, running the
queue, going back, accepting a frame and taking an acknowledgement. Everything
else the procedures do is out of sight here. -/
namespace Vstuff.Lapd
open Relation
set_option linter.all false

/-- I and S frames. -/
def Frame.isTraffic (frame : Frame) : Bool :=
  match frame.control with
  | .uframe _ _ => false
  | _ => true

/-- The N(R) of an I or S frame. -/
def Frame.nR (frame : Frame) : Option Seq :=
  match frame.control with
  | .iframe _ nR _ | .sframe _ nR _ => some nR
  | .uframe _ _ => none

/-- The N(S) of an I frame, with its data. -/
def Frame.payload (frame : Frame) : Option (Seq × Octets) :=
  match frame.control with
  | .iframe nS _ _ => some (nS, frame.data)
  | _ => none

def Output.traffic : Output → Option Frame
  | .phDataRequest frame _ => if frame.isTraffic then some frame else none
  | _ => none

def Output.delivery : Output → Option Octets
  | .dataIndication data => some data
  | _ => none

def Output.release : Output → Option Octets
  | .unlinked skb => some skb.data
  | _ => none

def Item.traffic : Item → Option Frame
  | .frame skb => if skb.frame.isTraffic then some skb.frame else none
  | .mdl _ => none

/-- The parts of a connection that number frames. -/
def Link.bare (l : Link) : Link :=
  { state := .null, vS := l.vS, vA := l.vA, writeQueue := l.writeQueue, sendHead := l.sendHead
    nextId := l.nextId }

/-- A socket as far as the transfer of data is concerned: its numbers and its
queue, the I and S frames in its backlog and, wrongly, in its U queue, and what
the event under way has sent, delivered and unlinked. -/
structure Core where
  link : Link
  vR : Seq
  sap : Sap
  owned : Bool
  pending : List Frame
  stray : List Frame
  sent : List Frame
  delivered : List Octets
  unlinked : List Octets

def Sock.core (s : Sock) : Core where
  link := s.toLink.bare
  vR := s.vR
  sap := s.sap
  owned := s.owned
  pending := s.backlog.filterMap Item.traffic
  stray := s.uQueue.filter Frame.isTraffic
  sent := s.out.filterMap Output.traffic
  delivered := s.out.filterMap Output.delivery
  unlinked := s.out.filterMap Output.release

/-- The buffers `lapd_ack_frames` unlinks. -/
def Link.released (l : Link) (nR : Seq) : List Skb :=
  if nR = l.vA then []
  else l.writeQueue.takeWhile fun skb => some skb.id ≠ l.sendHead ∧ skb.nS ≠ nR

/-- The elementary operations of a socket that handles the frame `f`, if any. -/
inductive Work (f : Option Frame) : Core → Core → Prop where
  | supervise (c : Core) (frame : Frame) {function : SframeFunction} {pF : Bool}
      (control : frame.control = .sframe function c.vR pF) :
      Work f c { c with sent := c.sent ++ [frame] }
  | run (s : Sock) : Work f s.core (runIQueue s).core
  | goBack (c : Core) :
      Work f c { c with link := { c.link with
        vS := c.link.vA
        sendHead := (c.link.writeQueue.head?.map Skb.id).or c.link.sendHead } }
  | accept (c : Core) (frame : Frame) {nR : Seq} {p : Bool} (here : f = some frame)
      (control : frame.control = .iframe c.vR nR p) :
      Work f c { c with vR := c.vR + 1, delivered := c.delivered ++ [frame.data] }
  | ack (c : Core) (frame : Frame) {nR : Seq} (here : f = some frame) (carries : frame.nR = some nR)
      (valid : c.link.accepts nR) :
      Work f c { c with
        link := c.link.acked nR, unlinked := c.unlinked ++ (c.link.released nR).map Skb.data }

/-- The second socket is the first one after some of these operations. -/
def Works (f : Option Frame) (s t : Sock) : Prop := ReflTransGen (Work f) s.core t.core

section Composition
variable {f : Option Frame} {s t u : Sock}

theorem Works.quiet (same : t.core = s.core) : Works f s t := by
  unfold Works
  rw [same]

theorem Works.single (work : Work f s.core t.core) : Works f s t := ReflTransGen.single work

theorem Works.trans (first : Works f s t) (second : Works f t u) : Works f s u :=
  ReflTransGen.trans first second

/-- The same with the later half first, whose sockets then are known. -/
theorem Works.after (second : Works f t u) (first : Works f s t) : Works f s u := first.trans second

/-- One S frame was sent, with N(R) = V(R). -/
theorem Works.supervises (frame : Frame) {function : SframeFunction} {pF : Bool}
    (control : frame.control = .sframe function s.vR pF)
    (same : t.core = { s.core with sent := s.core.sent ++ [frame] }) : Works f s t :=
  .single (by rw [same]; exact .supervise s.core frame control)

end Composition

variable (f : Option Frame) (s : Sock)

/-! ## The procedures -/

private theorem sent_append (function : SframeFunction) (cr : Cr) (pF : Bool) :
    (sendSframe s cr function pF).core =
      { s.core with sent := s.core.sent ++ [prepareSframe s cr function pF] } := by
  simp [Sock.core, sendSframe, phDataRequest, Output.traffic, Output.delivery, Output.release,
    Frame.isTraffic, prepareSframe]

theorem sendSframe_works (cr : Cr) (function : SframeFunction) (pF : Bool) :
    Works f s (sendSframe s cr function pF) :=
  .supervises (prepareSframe s cr function pF) rfl (sent_append s function cr pF)

theorem runIQueue_works : Works f s (runIQueue s) := .single (.run s)

theorem invokeRetransmission_works : Works f s (invokeRetransmission s) := by
  rw [invokeRetransmission_eq]
  refine (runIQueue_works f _).after ?_
  exact .single (.goBack s.core)

theorem enquiryResponse_works : Works f s (enquiryResponse s) := by
  unfold enquiryResponse
  dsimp only
  split
  · exact (sendSframe_works f s .response .rnr true).trans (.quiet rfl)
  · exact (sendSframe_works f s .response .rr true).trans (.quiet rfl)

theorem transmitEnquiry_works : Works f s (transmitEnquiry s) := by
  unfold transmitEnquiry
  dsimp only
  split
  · exact (sendSframe_works f s .command .rnr true).trans (.quiet rfl)
  · exact (sendSframe_works f s .command .rr true).trans (.quiet rfl)

theorem setOwnReceiverBusy_works : Works f s (setOwnReceiverBusy s) := by
  have sends : Works f s { sendSframe { s with ownReceiverBusy := true } .response .rnr false with
      acknowledgePending := false } :=
    .trans (sendSframe_works f s .response .rnr false) (.quiet rfl)
  unfold setOwnReceiverBusy
  split
  · split
    · exact .quiet rfl
    · exact sends
  · split
    · exact .quiet rfl
    · exact sends
  · exact .quiet rfl

theorem clearOwnReceiverBusy_works : Works f s (clearOwnReceiverBusy s) := by
  have sends : Works f s { sendSframe { s with ownReceiverBusy := false } .response .rr false with
      acknowledgePending := false } :=
    .trans (sendSframe_works f s .response .rr false) (.quiet rfl)
  unfold clearOwnReceiverBusy
  split
  · split
    · exact sends
    · exact .quiet rfl
  · split
    · exact sends
    · exact .quiet rfl
  · exact .quiet rfl

/-- An indication that does not question the TEI is no traffic. -/
theorem indication_works_quietly (errors : List MdlError) (harmless : verifiesTei errors = false) :
    Works f s (mdlPrimitive s (.errorIndication errors)) := by
  simp only [mdlPrimitive, mdlPrimitiveWith, mdlRecv, mdlErrorIndication, harmless]
  split
  · exact .quiet (by simp [Sock.core, Item.traffic])
  · exact .quiet rfl

theorem answerPoll_works (cr pF : Bool) : Works f s (answerPoll s cr pF) := by
  unfold answerPoll
  split
  · split
    · exact indication_works_quietly f s _ rfl
    · exact enquiryResponse_works f s
  · exact .quiet rfl

variable {f s} {frame : Frame} {nR : Seq}

theorem acknowledge_works (here : f = some frame) (carries : frame.nR = some nR)
    (valid : isValidNr s nR) : Works f s (acknowledge s nR) := by
  have accepts : s.core.link.accepts nR := (valid_nr_accepts s nR).mp valid
  have result : (acknowledge s nR).core = { s.core with
      link := s.core.link.acked nR
      unlinked := s.core.unlinked ++ (s.core.link.released nR).map Skb.data } := by
    have none (buffers : List Skb) : (buffers.map Output.unlinked).filterMap Output.traffic = [] ∧
        (buffers.map Output.unlinked).filterMap Output.delivery = [] ∧
        (buffers.map Output.unlinked).filterMap Output.release = buffers.map Skb.data := by
      refine ⟨?_, ?_, ?_⟩
      · rw [List.filterMap_map, List.filterMap_eq_nil_iff]
        exact fun _ _ => rfl
      · rw [List.filterMap_map, List.filterMap_eq_nil_iff]
        exact fun _ _ => rfl
      · rw [List.filterMap_map, ← List.filterMap_eq_map]
        rfl
    unfold acknowledge ackFrames
    by_cases same : nR = s.vA
    · rw [if_pos same]
      simp [Sock.core, Link.bare, Link.acked, Link.released, same]
    · rw [if_neg same]
      simp only [Sock.core, Link.bare, Link.acked, Link.released, List.filterMap_append, none, same,
        if_false, List.append_nil]
      rfl
  exact .single (by rw [result]; exact .ack s.core frame here carries accepts)

theorem acknowledgeTimed_works (here : f = some frame) (carries : frame.nR = some nR)
    (valid : isValidNr s nR) : Works f s (acknowledgeTimed s nR) := by
  have acked := acknowledge_works here carries valid
  unfold acknowledgeTimed
  split
  · exact acked.trans (.quiet rfl)
  · split
    · exact acked.trans (.quiet rfl)
    · exact .quiet rfl

theorem acceptIframe_works (skb : RxSkb) (nS : Seq) (p : Bool) (here : f = some skb.frame)
    (control : skb.frame.control = .iframe nS nR p) : Works f s (acceptIframe s skb nS p) := by
  unfold acceptIframe
  split
  · split
    · exact (sendSframe_works f s .response .rnr true).trans (.quiet rfl)
    · exact .quiet rfl
  · split
    · rename_i expected
      rw [expected] at control
      have accepted : Works f s
          (dlDataIndication { s with vR := s.vR + 1, rejectException := false } skb) := by
        refine .single ?_
        have result : (dlDataIndication { s with vR := s.vR + 1, rejectException := false } skb).core =
            { s.core with
              vR := s.core.vR + 1
              delivered := s.core.delivered ++ [skb.frame.data] } := by
          simp [Sock.core, dlDataIndication, Output.traffic, Output.delivery, Output.release]
        rw [result]
        exact .accept s.core skb.frame here control
      refine accepted.trans ?_
      dsimp only
      generalize dlDataIndication _ _ = taken
      split
      · exact (sendSframe_works f taken .response .rr true).trans (.quiet rfl)
      · exact sendSframe_works f taken .response .rr false
    · dsimp only
      split
      · split
        · exact (sendSframe_works f s .response .rr true).trans (.quiet rfl)
        · exact .quiet rfl
      · have rejects : Works f s (sendSframe { s with rejectException := true } .response .rej p) :=
          (sendSframe_works f { s with rejectException := true } .response .rej p).after (.quiet rfl)
        split
        · exact rejects.trans (.quiet rfl)
        · exact rejects

/-! ## Frames -/

theorem nrErrorRecovery_state : (nrErrorRecovery s).state = s.state := by
  rw [nrErrorRecovery_toLink]

/-- A frame that is rejected ends the connection. -/
theorem frameReject_state (error : FormatError) (here : s.state.connected = true) :
    (frameReject s error).state.connected = false := by
  have same : (mdlPrimitive s (.errorIndication
      [if error = .length then MdlError.O else .N])).toLink = s.toLink := by
    cases error <;> exact indication_toLink s _ rfl
  unfold frameReject
  generalize mdlPrimitive s _ = indicated at same ⊢
  have connected : indicated.state = .linkConnectionEstablished ∨ indicated.state = .timerRecovery := by
    rw [same]
    revert here
    cases s.state <;> simp [DatalinkState.connected]
  dsimp only
  rw [if_pos connected]
  rfl

theorem handleIframe_works (skb : RxSkb) (nS : Seq) (p : Bool) (connected : s.state.connected = true)
    (here : f = some skb.frame) (control : skb.frame.control = .iframe nS nR p)
    (stays : (handleIframe s skb nS nR p).state.connected = true) :
    Works f s (handleIframe s skb nS nR p) := by
  have carries : skb.frame.nR = some nR := by simp [Frame.nR, control]
  unfold handleIframe at stays ⊢
  split at stays
  · rw [frameReject_state .n201 connected] at stays
    cases stays
  · rename_i fits
    rw [if_neg fits]
    have cleared : Works f s (if s.rmemAlloc < s.rcvbuf ∧ s.ownReceiverBusy = true then
        clearOwnReceiverBusy s else s) := by
      split
      · exact clearOwnReceiverBusy_works f s
      · exact .quiet rfl
    generalize (if s.rmemAlloc < s.rcvbuf ∧ s.ownReceiverBusy = true then clearOwnReceiverBusy s
        else s) = ready at cleared stays ⊢
    refine cleared.trans ?_
    dsimp only at stays ⊢
    have accepted := acceptIframe_works (s := ready) skb nS p here control
    generalize acceptIframe ready skb nS p = after at accepted stays ⊢
    split at stays
    · rename_i full
      rw [if_pos full]
      exact setOwnReceiverBusy_works f ready
    · rename_i room
      rw [if_neg room]
      split at stays
      · rename_i state
        split at stays
        · rename_i valid
          rw [if_pos valid]
          split
          · exact accepted.trans (acknowledge_works here carries valid)
          · exact accepted.trans (acknowledgeTimed_works here carries valid)
        · rw [nrErrorRecovery_state] at stays
          cases stays
      · split at stays
        · rename_i valid
          rw [if_pos valid]
          exact accepted.trans (acknowledge_works here carries valid)
        · rw [nrErrorRecovery_state] at stays
          cases stays
      · exact .quiet rfl

theorem recoverySframe_works (cr pF : Bool) {timers : Sock → Sock}
    (timed : ∀ s, (timers s).core = s.core) (here : f = some frame) (carries : frame.nR = some nR)
    (stays : (recoverySframe s cr nR pF timers).state.connected = true) :
    Works f s (recoverySframe s cr nR pF timers) := by
  unfold recoverySframe at stays ⊢
  split
  · rename_i response
    rw [if_pos response] at stays
    split
    · rename_i valid
      have acked := acknowledge_works here carries valid
      split
      · refine (invokeRetransmission_works f _).after (acked.trans (.quiet ?_))
        exact timed (acknowledge s nR)
      · exact acked
    · rename_i invalid
      rw [if_neg invalid] at stays
      cases stays
  · rename_i command
    rw [if_neg command] at stays
    dsimp only at stays ⊢
    have answered : Works f s (if pF = true then enquiryResponse s else s) := by
      split
      · exact enquiryResponse_works f s
      · exact .quiet rfl
    generalize (if pF = true then enquiryResponse s else s) = ready at answered stays ⊢
    split
    · rename_i valid
      exact answered.trans (acknowledge_works here carries valid)
    · rename_i invalid
      rw [if_neg invalid] at stays
      cases stays

theorem handleSframe_works (skb : RxSkb) (function : SframeFunction) (pF : Bool)
    (connected : s.state.connected = true) (here : f = some skb.frame)
    (control : skb.frame.control = .sframe function nR pF)
    (stays : (handleSframe s skb function nR pF).state.connected = true) :
    Works f s (handleSframe s skb function nR pF) := by
  have carries : skb.frame.nR = some nR := by simp [Frame.nR, control]
  have polled (busy : Bool) : Works f s (answerPoll { s with peerReceiverBusy := busy } skb.frame.cr pF) :=
    (answerPoll_works f { s with peerReceiverBusy := busy } _ _).after (.quiet rfl)
  have recovering (busy : Bool) (timers : Sock → Sock) (timed : ∀ s, (timers s).core = s.core)
      (stays : (recoverySframe { s with peerReceiverBusy := busy } skb.frame.cr nR pF
        timers).state.connected = true) :
      Works f s (recoverySframe { s with peerReceiverBusy := busy } skb.frame.cr nR pF timers) :=
    (recoverySframe_works _ _ timed here carries stays).after (.quiet rfl)
  unfold handleSframe at stays ⊢
  split at stays
  · rw [frameReject_state .length connected] at stays
    cases stays
  · rename_i length
    rw [if_neg length]
    cases function with
    | rr =>
      dsimp only at stays ⊢
      unfold handleSframeRr at stays ⊢
      dsimp only at stays ⊢
      split at stays
      · split at stays
        · rename_i valid
          rw [if_pos valid]
          exact (polled false).trans (acknowledgeTimed_works here carries valid)
        · rw [nrErrorRecovery_state] at stays
          cases stays
      · exact recovering false _ (fun _ => rfl) stays
      · exact .quiet rfl
    | rnr =>
      dsimp only at stays ⊢
      unfold handleSframeRnr at stays ⊢
      dsimp only at stays ⊢
      split at stays
      · split at stays
        · rename_i valid
          rw [if_pos valid]
          have retimed (t : Sock) : (startT200 (stopT203 t)).core = t.core := rfl
          exact (((polled true).trans (acknowledge_works here carries valid)).trans
            (invokeRetransmission_works f _)).trans (.quiet (retimed _))
        · rw [nrErrorRecovery_state] at stays
          cases stays
      · exact recovering true _ (fun _ => rfl) stays
      · exact .quiet rfl
    | rej =>
      dsimp only at stays ⊢
      unfold handleSframeRej at stays ⊢
      dsimp only at stays ⊢
      split at stays
      · split at stays
        · rename_i valid
          rw [if_pos valid]
          exact (invokeRetransmission_works f _).after
            (((polled false).trans (acknowledge_works here carries valid)).trans (.quiet rfl))
        · rw [nrErrorRecovery_state] at stays
          cases stays
      · exact recovering false _ (fun _ => rfl) stays
      · exact .quiet rfl
    | invalid => exact .quiet rfl

/-! ## Primitives, timers and requests -/

theorem connected_cases (connected : s.state.connected = true) :
    s.state = .linkConnectionEstablished ∨ s.state = .timerRecovery := by
  revert connected
  cases s.state <;> simp [DatalinkState.connected]

theorem mdlRemoveRequest_leaves : (mdlRemoveRequest s).state.connected = false := by
  have removed := (mdlRemoveRequest_removed s).state
  revert removed
  cases (mdlRemoveRequest s).state <;> simp [DatalinkState.assigned, DatalinkState.connected]

theorem persistentDeactivation_leaves (connected : s.state.connected = true) :
    (persistentDeactivation s).state.connected = false := by
  unfold persistentDeactivation
  obtain here | here := connected_cases connected <;>
    simp only [here, dlPrimitive_toLink] <;> rfl

/-- A primitive that does not end the connection is no traffic. -/
theorem mdlRecv_works (pri : MdlPrimitive) (connected : s.state.connected = true)
    (stays : (mdlRecv s pri).state.connected = true) : Works f s (mdlRecv s pri) := by
  cases pri with
  | assignRequest tei =>
    unfold mdlRecv mdlAssignRequest
    obtain here | here := connected_cases connected <;> simp only [here] <;> exact .quiet rfl
  | removeRequest =>
    have leaves := mdlRemoveRequest_leaves (s := s)
    exact absurd (leaves.symm.trans stays) (by simp)
  | errorResponse =>
    unfold mdlRecv mdlErrorResponse
    obtain here | here := connected_cases connected <;> simp only [here] <;> exact .quiet rfl
  | errorIndication errors =>
    unfold mdlRecv mdlErrorIndication at stays ⊢
    dsimp only at stays ⊢
    split at stays
    · rename_i verifies
      rw [if_pos verifies]
      split at stays
      · split
        · exact .quiet (by simp [Sock.core, Output.traffic, Output.delivery, Output.release])
        · exact .quiet rfl
      · split at stays
        · rename_i managed
          rw [if_pos managed]
          unfold utmeTeiRemove mdlPrimitiveWith at stays ⊢
          split at stays
          · rename_i owned
            rw [if_pos owned]
            exact .quiet (by simp [Sock.core, Item.traffic])
          · have leaves := mdlRemoveRequest_leaves (s := s)
            exact absurd (leaves.symm.trans stays) (by simp)
        · rename_i unmanaged
          rw [if_neg unmanaged]
          exact .quiet rfl
    · rename_i harmless
      rw [if_neg harmless]
      exact .quiet rfl
  | persistentDeactivation =>
    have leaves := persistentDeactivation_leaves connected
    exact absurd (leaves.symm.trans stays) (by simp)

/-- An item that is no U frame and does not end the connection. -/
theorem item_works (item : Item) (connected : s.state.connected = true)
    (noUframe : ∀ skb, item = .frame skb → skb.frame.isTraffic = true)
    (stays : (dlcRecv s item).state.connected = true) : Works item.traffic s (dlcRecv s item) := by
  cases item with
  | mdl pri => exact mdlRecv_works pri connected stays
  | frame skb =>
    have traffic := noUframe skb rfl
    have here : (Item.frame skb).traffic = some skb.frame := by simp [Item.traffic, traffic]
    cases control : skb.frame.control with
    | uframe function pF =>
      simp [Frame.isTraffic, control] at traffic
    | iframe nS nR p =>
      have handles : dlcRecv s (.frame skb) = handleIframe s skb nS nR p := by
        simp only [dlcRecv, control]
      rw [handles] at stays ⊢
      exact handleIframe_works skb nS p connected here control stays
    | sframe function nR pF =>
      have handles : dlcRecv s (.frame skb) = handleSframe s skb function nR pF := by
        simp only [dlcRecv, control]
      rw [handles] at stays ⊢
      exact handleSframe_works skb function pF connected here control stays

theorem timerT200_sends (connected : s.state.connected = true)
    (stays : (timerT200 s).state.connected = true) : Works f s (timerT200 s) := by
  unfold timerT200 at stays ⊢
  dsimp only at stays ⊢
  split at stays
  · rename_i owned
    rw [if_pos owned]
    exact .quiet rfl
  · rename_i free
    rw [if_neg free]
    obtain here | here := connected_cases connected
    · have state : (stopT200 s).state = .linkConnectionEstablished := here
      simp only [state]
      refine Works.trans (t := { stopT200 s with retransCnt := 0 }) (.quiet rfl) ?_
      exact (transmitEnquiry_works f _).trans (.quiet rfl)
    · have state : (stopT200 s).state = .timerRecovery := here
      simp only [state] at stays ⊢
      split at stays
      · cases stays
      · rename_i again
        rw [if_neg again]
        refine Works.trans (t := stopT200 s) (.quiet rfl) ?_
        exact (transmitEnquiry_works f _).trans (.quiet rfl)

theorem timerT203_sends : Works f s (timerT203 s) := by
  unfold timerT203
  dsimp only
  split
  · exact .quiet rfl
  · split
    · refine Works.trans (t := stopT203 s) (.quiet rfl) ?_
      exact (transmitEnquiry_works f _).trans (.quiet rfl)
    · exact .quiet rfl

/-- In a connected state data is queued, and sent if nothing stands against it. -/
theorem dlDataRequest_works (skb : Skb) (connected : s.state.connected = true) :
    Works f (sockQueueIframe s skb) (dlDataRequest s skb) := by
  unfold dlDataRequest
  obtain here | here := connected_cases connected
  · simp only [here]
    exact runIQueue_works f (sockQueueIframe s skb)
  · simp only [here]
    exact .quiet rfl

private theorem foldl_core (frames : List Frame) (none : frames.filter Frame.isTraffic = []) :
    (frames.foldl phDataRequest s).core = s.core := by
  induction frames generalizing s with
  | nil => rfl
  | cons first frames ih =>
    rw [List.filter_cons] at none
    split at none
    · cases none
    · rename_i plain
      rw [List.foldl_cons, ih none]
      simp [Sock.core, phDataRequest, Output.traffic, Output.delivery, Output.release, plain]

/-- A UI frame is no traffic, and in a connected state the U queue is emptied
at once. -/
theorem dlUnitDataRequest_core (ui : Frame) (plain : ui.isTraffic = false)
    (connected : s.state.connected = true) (none : s.core.stray = []) :
    (dlUnitDataRequest s ui).core = s.core := by
  have all : (s.uQueue ++ [ui]).filter Frame.isTraffic = [] := by
    rw [List.filter_append]
    simp only [Sock.core] at none
    simp [none, plain]
  have emptied : (runUiQueue { s with uQueue := s.uQueue ++ [ui] }).core = s.core := by
    have sent := foldl_core (s := { s with uQueue := s.uQueue ++ [ui] }) _ all
    change { (List.foldl phDataRequest { s with uQueue := s.uQueue ++ [ui] }
      (s.uQueue ++ [ui])).core with stray := [] } = s.core
    rw [sent]
    change { s.core with stray := [] } = s.core
    rw [← none]
  unfold dlUnitDataRequest
  obtain here | here := connected_cases connected <;> simp only [here] <;> exact emptied

theorem dlEstablishRequest_leaves (connected : s.state.connected = true) :
    (dlEstablishRequest s).state.connected = false := by
  unfold dlEstablishRequest
  obtain here | here := connected_cases connected <;> simp only [here] <;> rfl

theorem dlReleaseRequest_leaves (connected : s.state.connected = true) :
    (dlReleaseRequest s).state.connected = false := by
  unfold dlReleaseRequest
  obtain here | here := connected_cases connected <;> simp only [here] <;> rfl

end Vstuff.Lapd
