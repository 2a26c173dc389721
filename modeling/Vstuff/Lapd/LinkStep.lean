import Vstuff.Lapd.Events

/-! What one event can do to the connection. Every invariant of the transmit
queue and of the timers is read off this one case analysis of the procedures;
the handlers themselves are not unfolded again. -/
namespace Vstuff.Lapd
open Window
set_option linter.all false

/-! ## The events with a consequence for the queue -/

/-- The states in which I frames can be queued. -/
def DatalinkState.queues : DatalinkState → Bool
  | .awaitingEstablish | .linkConnectionEstablished | .timerRecovery => true
  | _ => false

/-- States 7 and 8. -/
def DatalinkState.connected : DatalinkState → Bool
  | .linkConnectionEstablished | .timerRecovery => true
  | _ => false

/-- States 1 to 4. -/
def DatalinkState.quiet : DatalinkState → Bool
  | .teiUnassigned | .awaitingTei | .establishAwaitingTei | .teiAssigned => true
  | _ => false

/-- An indication of a TE socket that calls for the removal of its TEI removes
it within the same event. -/
def removesTei (s : Sock) : Bool := s.dev.role == .te && s.usrTme && !s.owned

/-- A handled item that runs `lapd_discard_i_queue`. -/
def itemPurges (s : Sock) : Item → Bool
  | .mdl .removeRequest | .mdl .persistentDeactivation => s.state.queues
  | .mdl (.errorIndication errors) => s.state.queues && verifiesTei errors && removesTei s
  | .mdl _ => false
  | .frame skb => match skb.frame.control with
    | .uframe .disc _ => skb.len == 5 && s.state.connected
    | .uframe .dm pF => skb.len == 5 && pF && s.state == .awaitingEstablish
    | .uframe .ua pF => skb.len == 5 && removesTei s &&
        (s.state.connected || s.state == .awaitingEstablish && !pF)
    | _ => false

/-- An event that runs `lapd_discard_i_queue`. -/
def purges (s : Sock) : Event → Bool
  | .establishRequest => s.state.queues
  | .releaseRequest => s.state.connected
  | .timerT200 => s.state == .awaitingEstablish && s.retransCnt == s.sap.N200 && !s.owned
  | e => (handled s e).any (itemPurges s)

/-- A handled item that sets the sequence variables to 0 while I frames may be
queued. -/
def itemResets (s : Sock) : Item → Bool
  | .mdl _ => false
  | .frame skb => match skb.frame.control with
    | .uframe .sabme _ => skb.len == 5 && s.state.connected
    | .uframe .ua pF => skb.len == 5 && pF && s.state == .awaitingEstablish
    | _ => false

def resets (s : Sock) (e : Event) : Bool := (handled s e).any (itemResets s)

/-- Those of them that leave state 7 without running the queue. -/
def itemMutes (s : Sock) : Item → Bool
  | .mdl _ => false
  | .frame skb => match skb.frame.control with
    | .uframe .sabme _ => skb.len == 5 && s.state == .linkConnectionEstablished
    | .uframe .ua pF => skb.len == 5 && pF && s.state == .awaitingEstablish && !s.layer3Initiated
    | _ => false

def mutes (s : Sock) (e : Event) : Bool := (handled s e).any (itemMutes s)

/-- The N(R) of a handled frame that is acknowledged in state 7 without a
retransmission: the frame is RR, or I while the peer is not busy. -/
def itemAcks (s : Sock) : Item → Option Seq
  | .mdl _ => none
  | .frame skb =>
    if s.state = .linkConnectionEstablished then match skb.frame.control with
      | .iframe _ nR _ =>
        if skb.len ≤ s.dev.mtu ∧ s.rmemAlloc < s.rcvbuf ∧ s.peerReceiverBusy = false ∧
          isValidNr s nR then some nR else none
      | .sframe .rr nR _ => if skb.len = 6 ∧ isValidNr s nR then some nR else none
      | _ => none
    else none

def acksInPlace (s : Sock) (e : Event) : Option Seq := (handled s e).bind (itemAcks s)

/-! ## The changes of a connection -/

/-- The connection after `lapd_ack_frames` and the assignment of V(A). -/
def Link.acked (l : Link) (nR : Seq) : Link :=
  { l with
    writeQueue := if nR = l.vA then l.writeQueue
      else l.writeQueue.dropWhile fun skb => some skb.id ≠ l.sendHead ∧ skb.nS ≠ nR
    vA := nR }

/-- The connection after `lapd_sock_queue_iframe`. -/
def Link.enqueued (l : Link) (skb : Skb) : Link :=
  { l with
    writeQueue := l.writeQueue ++ [skb]
    sendHead := l.sendHead.or (some skb.id)
    nextId := max l.nextId (skb.id + 1) }

/-- The connection after `lapd_establish_datalink_procedure`, in state 5. -/
def Link.established (l : Link) : Link :=
  { l with state := .awaitingEstablish, t200 := true, t203 := false, peerReceiverBusy := false }

/-- N(R) acknowledges no more than what was sent. -/
def Link.accepts (l : Link) (nR : Seq) : Prop := dist l.vA nR ≤ dist l.vA l.vS

/-- What an event can do to a connection in state `l`: one constructor for each
kind of change, with the guards it is made under. `purge` and `reset` say that
the event discards the I queue or resets the sequence variables, `mute` that it
does the latter and leaves state 7 with the queue not run, and `acks` is the
N(R) it acknowledges in state 7 without a retransmission. -/
inductive LinkStep (l : Link) (sap : Sap) (purge reset mute : Bool) (acks : Option Seq) :
    Link → Prop where
  | idle : LinkStep l sap purge reset mute acks l
  | goto (next : DatalinkState) (here : l.state.quiet = true) (there : next.quiet = true) :
      LinkStep l sap purge reset mute acks { l with state := next }
  | released (next : DatalinkState) (here : l.state = .awaitingRelease)
      (there : next = .teiAssigned ∨ next = .teiUnassigned) :
      LinkStep l sap purge reset mute acks { l with state := next, t200 := false }
  | establish : LinkStep l sap purge reset mute acks l.established
  | purgeRelease (next : DatalinkState) (t203 : Bool) (caused : purge = true)
      (here : l.state.queues = true) (there : next = .teiAssigned ∨ next = .teiUnassigned)
      (timer : t203 = false ∨ t203 = l.t203 ∧ l.state ≠ .linkConnectionEstablished) :
      LinkStep l sap purge reset mute acks
        { l with state := next, writeQueue := [], t200 := false, t203 := t203 }
  | purgeEstablish (caused : purge = true) (here : l.state.queues = true) :
      LinkStep l sap purge reset mute acks { l.established with writeQueue := [] }
  | purgeDisconnect (t203 : Bool) (caused : purge = true) (here : l.state.connected = true)
      (timer : t203 = false ∨ t203 = l.t203 ∧ l.state ≠ .linkConnectionEstablished) :
      LinkStep l sap purge reset mute acks
        { l with state := .awaitingRelease, writeQueue := [], t200 := true, t203 := t203 }
  | accept (here : l.state = .teiAssigned) :
      LinkStep l sap purge reset mute acks
        { l with
          state := .linkConnectionEstablished, vS := 0, vA := 0, t203 := true
          peerReceiverBusy := false }
  | reset (caused : reset = true) (here : l.state.connected = true)
      (silent : l.state = .linkConnectionEstablished → mute = true) :
      LinkStep l sap purge reset mute acks
        { l with vS := 0, vA := 0, t200 := false, t203 := true, peerReceiverBusy := false }
  | connect (caused : reset = true) (here : l.state = .awaitingEstablish) (silent : mute = true) :
      LinkStep l sap purge reset mute acks
        { l with
          state := .linkConnectionEstablished, vS := 0, vA := 0, t200 := false, t203 := true }
  | connectRun (s : Sock) (caused : reset = true) (here : l.state = .awaitingEstablish)
      (same : s.sap = sap)
      (reached : s.toLink = { l with
        state := .linkConnectionEstablished, vS := 0, vA := 0, t200 := false, t203 := true }) :
      LinkStep l sap purge reset mute acks (runIQueue s).toLink
  | enqueue (skb : Skb) (fresh : skb.id = l.nextId ∧ skb.transmitted = false)
      (here : l.state = .awaitingEstablish ∨ l.state = .timerRecovery) :
      LinkStep l sap purge reset mute acks (l.enqueued skb)
  | enqueueRun (s : Sock) (skb : Skb) (fresh : skb.id = l.nextId ∧ skb.transmitted = false)
      (here : l.state = .linkConnectionEstablished) (same : s.sap = sap)
      (reached : s.toLink = l.enqueued skb) : LinkStep l sap purge reset mute acks (runIQueue s).toLink
  | ack (nR : Seq) (busy : Bool) (valid : l.accepts nR)
      (here : l.state = .timerRecovery ∨
        l.state = .linkConnectionEstablished ∧ l.peerReceiverBusy = true ∧ busy = true) :
      LinkStep l sap purge reset mute acks { l.acked nR with peerReceiverBusy := busy }
  | ackAll (caused : acks = some l.vS) (here : l.state = .linkConnectionEstablished) :
      LinkStep l sap purge reset mute acks
        { l.acked l.vS with t200 := false, t203 := true, peerReceiverBusy := false }
  | ackSome (nR : Seq) (caused : acks = some nR) (here : l.state = .linkConnectionEstablished)
      (valid : l.accepts nR) (outstanding : nR ≠ l.vS) (moved : nR ≠ l.vA) :
      LinkStep l sap purge reset mute acks { l.acked nR with t200 := true, peerReceiverBusy := false }
  | ackNone (caused : acks = some l.vA) (here : l.state = .linkConnectionEstablished)
      (outstanding : l.vA ≠ l.vS) :
      LinkStep l sap purge reset mute acks { l with peerReceiverBusy := false }
  | goBack (s : Sock) (nR : Seq) (busy t200 t203 : Bool) (here : l.state.connected = true)
      (valid : l.accepts nR) (same : s.sap = sap)
      (timers : busy = false ∧ t200 = false ∧ t203 = true ∨
        busy = true ∧ t200 = true ∧ (t203 = false ∨ l.state = .timerRecovery ∧ t203 = l.t203))
      (reached : s.toLink = { l.acked nR with
        state := .linkConnectionEstablished, t200 := t200, t203 := t203
        peerReceiverBusy := busy }) :
      LinkStep l sap purge reset mute acks (invokeRetransmission s).toLink
  | enquire (t203 : Bool) (here : l.state = .linkConnectionEstablished)
      (fired : l.t200 = true ∧ t203 = l.t203 ∨ l.t203 = true ∧ t203 = false) :
      LinkStep l sap purge reset mute acks
        { l with state := .timerRecovery, t200 := true, t203 := t203 }
  | expireT200 (fired : l.t200 = true) (here : l.state.quiet = true ∨ l.state = .null ∨
      l.state = .listening) : LinkStep l sap purge reset mute acks { l with t200 := false }
  | expireT203 (fired : l.t203 = true) (here : l.state ≠ .linkConnectionEstablished) :
      LinkStep l sap purge reset mute acks { l with t203 := false }
  | swapTimers (fired : l.t203 = true) :
      LinkStep l sap purge reset mute acks { l with t200 := true, t203 := false }

/-! ## The operations seen from the connection -/

variable (s : Sock)

@[simp] theorem dlPrimitive_toLink (type : DlPrimitive) : (dlPrimitive s type).toLink = s.toLink := by
  unfold dlPrimitive
  split <;> rfl

@[simp] theorem dlPrimitive_sap (type : DlPrimitive) : (dlPrimitive s type).sap = s.sap := by
  unfold dlPrimitive
  split <;> rfl

theorem valid_nr_accepts (nR : Seq) : isValidNr s nR ↔ s.toLink.accepts nR := by
  have := s.vA.isLt
  have := s.vS.isLt
  have := nR.isLt
  simp only [isValidNr, Link.accepts, dist_eq, Fin.le_def]
  split <;> split <;> omega

@[simp] theorem acknowledge_toLink (nR : Seq) : (acknowledge s nR).toLink = s.toLink.acked nR := by
  unfold acknowledge ackFrames Link.acked
  split <;> rfl

@[simp] theorem acknowledge_sap (nR : Seq) : (acknowledge s nR).sap = s.sap := by
  unfold acknowledge ackFrames
  split <;> rfl

/-- An indication that does not question the TEI changes the backlog at most. -/
theorem indication_toLink (errors : List MdlError) (harmless : verifiesTei errors = false) :
    (mdlPrimitive s (.errorIndication errors)).toLink = s.toLink := by
  simp only [mdlPrimitive, mdlPrimitiveWith, mdlRecv, mdlErrorIndication, harmless]
  split <;> rfl

theorem foldl_phDataRequest_toLink (frames : List Frame) :
    (frames.foldl phDataRequest s).toLink = s.toLink := by
  induction frames generalizing s with
  | nil => rfl
  | cons frame frames ih => exact ih (phDataRequest s frame)

@[simp] theorem runUiQueue_toLink : (runUiQueue s).toLink = s.toLink :=
  foldl_phDataRequest_toLink s s.uQueue

@[simp] theorem setOwnReceiverBusy_toLink : (setOwnReceiverBusy s).toLink = s.toLink := by
  unfold setOwnReceiverBusy
  split <;> first | rfl | (split <;> rfl)

@[simp] theorem clearOwnReceiverBusy_toLink : (clearOwnReceiverBusy s).toLink = s.toLink := by
  unfold clearOwnReceiverBusy
  split <;> first | rfl | (split <;> rfl)

@[simp] theorem enquiryResponse_toLink : (enquiryResponse s).toLink = s.toLink := by
  unfold enquiryResponse
  split <;> rfl

@[simp] theorem acceptIframe_toLink (skb : RxSkb) (nS : Seq) (p : Bool) :
    (acceptIframe s skb nS p).toLink = s.toLink := by
  unfold acceptIframe
  split
  · split <;> rfl
  · split
    · split <;> rfl
    · dsimp only
      split <;> split <;> rfl

/-! ## One lemma for each procedure -/

variable {s} {purge reset mute : Bool} {acks : Option Seq}

theorem mdlAssignRequest_link (tei : Nat) :
    LinkStep s.toLink s.sap purge reset mute acks (mdlAssignRequest s tei).toLink := by
  unfold mdlAssignRequest
  dsimp only
  split
  case h_1 here => exact .goto .teiAssigned (by rw [here]; rfl) rfl
  case h_2 here => exact .goto .teiAssigned (by rw [here]; rfl) rfl
  case h_3 => exact .establish
  case h_4 => exact .idle

theorem mdlRemoveRequest_link (caused : s.state.queues = true → purge = true) :
    LinkStep s.toLink s.sap purge reset mute acks (mdlRemoveRequest s).toLink := by
  unfold mdlRemoveRequest
  dsimp only
  split
  case h_1 here => exact .goto .teiUnassigned (by rw [here]; rfl) rfl
  case h_2 here =>
    have queued : s.state.queues = true := by rw [here]; rfl
    rw [dlPrimitive_toLink]
    exact .purgeRelease .teiUnassigned s.t203 (caused queued) queued (.inr rfl)
      (.inr ⟨rfl, by rw [here]; decide⟩)
  case h_3 here =>
    rw [dlPrimitive_toLink]
    exact .released .teiUnassigned here (.inr rfl)
  case h_4 here =>
    have queued : s.state.queues = true := by rw [here]; rfl
    rw [dlPrimitive_toLink]
    exact .purgeRelease .teiUnassigned false (caused queued) queued (.inr rfl) (.inl rfl)
  case h_5 here =>
    have queued : s.state.queues = true := by rw [here]; rfl
    rw [dlPrimitive_toLink]
    exact .purgeRelease .teiUnassigned s.t203 (caused queued) queued (.inr rfl)
      (.inr ⟨rfl, by rw [here]; decide⟩)
  case h_6 => exact .idle

theorem mdlErrorResponse_link :
    LinkStep s.toLink s.sap purge reset mute acks (mdlErrorResponse s).toLink := by
  unfold mdlErrorResponse
  split
  case h_1 here => exact .goto .teiUnassigned (by rw [here]; rfl) rfl
  case h_2 here =>
    rw [dlPrimitive_toLink]
    exact .goto .teiUnassigned (by rw [here]; rfl) rfl
  case h_3 => exact .idle

theorem persistentDeactivation_link (caused : s.state.queues = true → purge = true) :
    LinkStep s.toLink s.sap purge reset mute acks (persistentDeactivation s).toLink := by
  unfold persistentDeactivation
  dsimp only
  split
  case h_1 here => exact .goto .teiUnassigned (by rw [here]; rfl) rfl
  case h_2 here =>
    rw [dlPrimitive_toLink]
    exact .goto .teiUnassigned (by rw [here]; rfl) rfl
  case h_3 => exact .idle
  case h_4 here =>
    have queued : s.state.queues = true := by rw [here]; rfl
    rw [dlPrimitive_toLink]
    exact .purgeRelease .teiAssigned s.t203 (caused queued) queued (.inl rfl)
      (.inr ⟨rfl, by rw [here]; decide⟩)
  case h_5 here =>
    rw [dlPrimitive_toLink]
    exact .released .teiAssigned here (.inl rfl)
  case h_6 here =>
    have queued : s.state.queues = true := by rw [here]; rfl
    rw [dlPrimitive_toLink]
    exact .purgeRelease .teiAssigned false (caused queued) queued (.inl rfl) (.inl rfl)
  case h_7 here =>
    have queued : s.state.queues = true := by rw [here]; rfl
    rw [dlPrimitive_toLink]
    exact .purgeRelease .teiAssigned s.t203 (caused queued) queued (.inl rfl)
      (.inr ⟨rfl, by rw [here]; decide⟩)
  case h_8 => exact .idle

theorem mdlErrorIndication_link (errors : List MdlError)
    (caused : s.state.queues = true → verifiesTei errors = true → removesTei s = true →
      purge = true) :
    LinkStep s.toLink s.sap purge reset mute acks (mdlErrorIndication s errors).toLink := by
  unfold mdlErrorIndication
  split
  · rename_i verifies
    split
    · split <;> exact .idle
    · rename_i role
      split
      · rename_i managed
        unfold utmeTeiRemove mdlPrimitiveWith
        split
        · exact .idle
        · rename_i free
          refine mdlRemoveRequest_link fun queued => caused queued verifies ?_
          simp [removesTei, role, managed, free]
      · exact .idle
  · exact .idle

theorem mdlRecv_link (pri : MdlPrimitive) (caused : itemPurges s (.mdl pri) = true → purge = true) :
    LinkStep s.toLink s.sap purge reset mute acks (mdlRecv s pri).toLink := by
  cases pri with
  | assignRequest tei => exact mdlAssignRequest_link tei
  | removeRequest => exact mdlRemoveRequest_link caused
  | errorResponse => exact mdlErrorResponse_link
  | errorIndication errors =>
    refine mdlErrorIndication_link errors fun queued verifies removes => caused ?_
    simp [itemPurges, queued, verifies, removes]
  | persistentDeactivation => exact persistentDeactivation_link caused

theorem indication_link (errors : List MdlError)
    (caused : s.state.queues = true → removesTei s = true → purge = true) :
    LinkStep s.toLink s.sap purge reset mute acks
      (mdlPrimitive s (.errorIndication errors)).toLink := by
  unfold mdlPrimitive mdlPrimitiveWith
  split
  · exact .idle
  · exact mdlErrorIndication_link errors fun queued _ removes => caused queued removes

theorem nrErrorRecovery_toLink : (nrErrorRecovery s).toLink =
    { s.toLink.established with state := s.state } := by
  unfold nrErrorRecovery
  change { (mdlPrimitive s (.errorIndication [.J])).toLink.established with
    state := (mdlPrimitive s (.errorIndication [.J])).toLink.state } = _
  rw [indication_toLink s _ rfl]

theorem frameReject_link (error : FormatError) :
    LinkStep s.toLink s.sap purge reset mute acks (frameReject s error).toLink := by
  have same : (mdlPrimitive s (.errorIndication
      [if error = .length then MdlError.O else .N])).toLink = s.toLink := by
    cases error <;> exact indication_toLink s _ rfl
  unfold frameReject
  generalize mdlPrimitive s _ = indicated at same ⊢
  dsimp only
  split
  · change LinkStep _ _ _ _ _ _ indicated.toLink.established
    rw [same]
    exact .establish
  · rw [same]
    exact .idle

theorem acknowledgeTimed_link {s' : Sock} {nR : Seq} (caused : acks = some nR)
    (here : s.state = .linkConnectionEstablished) (valid : s.toLink.accepts nR)
    (reached : s'.toLink = { s.toLink with peerReceiverBusy := false }) :
    LinkStep s.toLink s.sap purge reset mute acks (acknowledgeTimed s' nR).toLink := by
  have sent : s'.vS = s.vS := by rw [reached]
  have oldest : s'.vA = s.vA := by rw [reached]
  have acked : (acknowledge s' nR).toLink = { s.toLink.acked nR with peerReceiverBusy := false } := by
    rw [acknowledge_toLink, reached]
    rfl
  unfold acknowledgeTimed
  rw [sent, oldest]
  split
  · rename_i all
    subst all
    change LinkStep _ _ _ _ _ _ { (acknowledge s' s.vS).toLink with t200 := false, t203 := true }
    rw [acked]
    exact .ackAll caused here
  · rename_i outstanding
    split
    · rename_i moved
      change LinkStep _ _ _ _ _ _ { (acknowledge s' nR).toLink with t200 := true }
      rw [acked]
      exact .ackSome nR caused here valid outstanding moved
    · rename_i unmoved
      have unmoved : nR = s.vA := not_not.mp unmoved
      subst unmoved
      rw [reached]
      exact .ackNone caused here outstanding

theorem nrError_link {after : Sock} (busy : Bool)
    (same : after.toLink = { s.toLink with peerReceiverBusy := busy }) :
    LinkStep s.toLink s.sap purge reset mute acks
      (nrErrorRecovery (changeState after .awaitingEstablish)).toLink := by
  rw [nrErrorRecovery_toLink]
  change LinkStep _ _ _ _ _ _ after.toLink.established
  rw [same]
  exact .establish

private theorem clearOwnReceiverBusy_memory :
    (clearOwnReceiverBusy s).rmemAlloc = s.rmemAlloc ∧ (clearOwnReceiverBusy s).rcvbuf = s.rcvbuf := by
  unfold clearOwnReceiverBusy
  split <;> first | exact ⟨rfl, rfl⟩ | (split <;> exact ⟨rfl, rfl⟩)

theorem handleIframe_link (skb : RxSkb) (nS nR : Seq) (p : Bool)
    (caused : s.state = .linkConnectionEstablished → skb.len ≤ s.dev.mtu → s.rmemAlloc < s.rcvbuf →
      s.peerReceiverBusy = false → s.toLink.accepts nR → acks = some nR) :
    LinkStep s.toLink s.sap purge reset mute acks (handleIframe s skb nS nR p).toLink := by
  unfold handleIframe
  split
  · exact frameReject_link .n201
  · rename_i fits
    have same : (if s.rmemAlloc < s.rcvbuf ∧ s.ownReceiverBusy = true then clearOwnReceiverBusy s
        else s).toLink = s.toLink := by
      split
      · exact clearOwnReceiverBusy_toLink s
      · rfl
    have memory : (if s.rmemAlloc < s.rcvbuf ∧ s.ownReceiverBusy = true then clearOwnReceiverBusy s
        else s).rmemAlloc = s.rmemAlloc ∧ (if s.rmemAlloc < s.rcvbuf ∧ s.ownReceiverBusy = true then
        clearOwnReceiverBusy s else s).rcvbuf = s.rcvbuf := by
      split
      · exact clearOwnReceiverBusy_memory
      · exact ⟨rfl, rfl⟩
    generalize (if s.rmemAlloc < s.rcvbuf ∧ s.ownReceiverBusy = true then clearOwnReceiverBusy s
        else s) = ready at same memory ⊢
    dsimp only
    rw [memory.1, memory.2]
    split
    · rw [setOwnReceiverBusy_toLink, same]
      exact .idle
    · rename_i room
      have state : ready.state = s.state := congrArg Link.state same
      have busy : ready.peerReceiverBusy = s.peerReceiverBusy := congrArg Link.peerReceiverBusy same
      have accepted : (acceptIframe ready skb nS p).toLink = s.toLink := by
        rw [acceptIframe_toLink, same]
      generalize acceptIframe ready skb nS p = after at accepted ⊢
      split
      · rename_i here
        rw [state] at here
        split
        · rename_i valid
          rw [valid_nr_accepts, accepted] at valid
          split
          · rename_i peerBusy
            rw [accepted] at peerBusy
            have change : LinkStep s.toLink s.sap purge reset mute acks
              { s.toLink.acked nR with peerReceiverBusy := true } :=
              .ack nR true valid (.inr ⟨here, peerBusy, rfl⟩)
            rw [acknowledge_toLink, accepted]
            rwa [← peerBusy] at change
          · rename_i peerReady
            rw [accepted, Bool.not_eq_true] at peerReady
            refine acknowledgeTimed_link (caused here (by omega) (by omega) peerReady valid)
              here valid ?_
            rw [accepted, ← peerReady]
        · exact nrError_link s.peerReceiverBusy accepted
      · rename_i here
        rw [state] at here
        split
        · rename_i valid
          rw [valid_nr_accepts, accepted] at valid
          rw [acknowledge_toLink, accepted]
          exact .ack nR s.peerReceiverBusy valid (.inl here)
        · exact nrError_link s.peerReceiverBusy accepted
      · rw [same]
        exact .idle

theorem answerPoll_toLink (cr pF : Bool) : (answerPoll s cr pF).toLink = s.toLink := by
  unfold answerPoll
  split
  · split
    · exact indication_toLink s _ rfl
    · exact enquiryResponse_toLink s
  · rfl

theorem answerPoll_sap (cr pF : Bool) : (answerPoll s cr pF).sap = s.sap := by
  unfold answerPoll
  split
  · split
    · simp only [mdlPrimitive, mdlPrimitiveWith, mdlRecv, mdlErrorIndication]
      split <;> rfl
    · unfold enquiryResponse
      split <;> rfl
  · rfl

theorem recoverySframe_link {after : Sock} {timers : Sock → Sock} (cr pF : Bool) (nR : Seq)
    (busy : Bool) (here : s.state = .timerRecovery) (sap : after.sap = s.sap)
    (same : after.toLink = { s.toLink with peerReceiverBusy := busy })
    (timed : busy = false ∧ timers = (fun s => startT203 (stopT200 s)) ∨
      busy = true ∧ timers = startT200) :
    LinkStep s.toLink s.sap purge reset mute acks (recoverySframe after cr nR pF timers).toLink := by
  have error (answered : Sock) (linked : answered.toLink = after.toLink) :
      LinkStep s.toLink s.sap purge reset mute acks
        (changeState (nrErrorRecovery answered) .awaitingEstablish).toLink := by
    change LinkStep _ _ _ _ _ _ { (nrErrorRecovery answered).toLink with state := .awaitingEstablish }
    rw [nrErrorRecovery_toLink, linked, same]
    exact .establish
  have acked (answered : Sock) (linked : answered.toLink = after.toLink)
      (valid : isValidNr answered nR) :
      LinkStep s.toLink s.sap purge reset mute acks (acknowledge answered nR).toLink := by
    rw [valid_nr_accepts, linked, same] at valid
    rw [acknowledge_toLink, linked, same]
    exact .ack nR busy valid (.inl here)
  unfold recoverySframe
  split
  · split
    · rename_i valid
      split
      · -- the response to the enquiry: state 7, and everything from V(A) on is sent again
        have accepts := valid
        rw [valid_nr_accepts, same] at accepts
        have linked : (acknowledge after nR).toLink =
            { s.toLink.acked nR with peerReceiverBusy := busy } := by
          rw [acknowledge_toLink, same]
          rfl
        have connected : s.state.connected = true := by rw [here]; rfl
        have kept : (acknowledge after nR).sap = s.sap := by rw [acknowledge_sap, sap]
        generalize acknowledge after nR = answered at linked kept ⊢
        obtain ⟨ready, chosen⟩ | ⟨full, chosen⟩ := timed
        · subst chosen
          refine .goBack _ nR busy false true connected accepts kept (.inl ⟨ready, rfl, rfl⟩) ?_
          change { answered.toLink with
            state := .linkConnectionEstablished, t200 := false, t203 := true } = _
          rw [linked]
        · subst chosen
          refine .goBack _ nR busy true s.t203 connected accepts kept
            (.inr ⟨full, rfl, .inr ⟨here, rfl⟩⟩) ?_
          change { answered.toLink with state := .linkConnectionEstablished, t200 := true } = _
          rw [linked]
          rfl
      · exact acked after rfl valid
    · exact error after rfl
  · dsimp only
    have linked : (if pF = true then enquiryResponse after else after).toLink = after.toLink := by
      split
      · exact enquiryResponse_toLink after
      · rfl
    generalize (if pF = true then enquiryResponse after else after) = answered at linked ⊢
    split
    · rename_i valid
      exact acked answered linked valid
    · exact error answered linked

theorem handleSframeRr_link (cr pF : Bool) (nR : Seq)
    (caused : s.state = .linkConnectionEstablished → s.toLink.accepts nR → acks = some nR) :
    LinkStep s.toLink s.sap purge reset mute acks (handleSframeRr s cr nR pF).toLink := by
  unfold handleSframeRr
  dsimp only
  split
  · rename_i here
    have polled := answerPoll_toLink (s := { s with peerReceiverBusy := false }) cr pF
    generalize answerPoll { s with peerReceiverBusy := false } cr pF = after at polled ⊢
    split
    · rename_i valid
      rw [valid_nr_accepts, polled] at valid
      exact acknowledgeTimed_link (caused here valid) here valid polled
    · exact nrError_link false polled
  · rename_i here
    exact recoverySframe_link cr pF nR false here rfl rfl (.inl ⟨rfl, rfl⟩)
  · exact .idle

theorem runIQueue_busy (busy : s.peerReceiverBusy = true) : runIQueue s = s := by
  simp [runIQueue, busy]

theorem invokeRetransmission_eq : invokeRetransmission s =
    runIQueue { s with
      sendHead := (s.writeQueue.head?.map Skb.id).or s.sendHead
      vS := s.vA } := by
  unfold invokeRetransmission
  cases queued : s.writeQueue with
  | nil => simp [queued]
  | cons skb rest => simp only [List.head?_cons, Option.map_some, Option.some_or]

theorem handleSframeRnr_link (cr pF : Bool) (nR : Seq) :
    LinkStep s.toLink s.sap purge reset mute acks (handleSframeRnr s cr nR pF).toLink := by
  unfold handleSframeRnr
  dsimp only
  split
  · rename_i here
    have polled := answerPoll_toLink (s := { s with peerReceiverBusy := true }) cr pF
    have kept : (answerPoll { s with peerReceiverBusy := true } cr pF).sap = s.sap :=
      answerPoll_sap cr pF
    generalize answerPoll { s with peerReceiverBusy := true } cr pF = after at polled kept ⊢
    split
    · rename_i valid
      rw [valid_nr_accepts, polled] at valid
      have linked : (acknowledge after nR).toLink =
          { s.toLink.acked nR with peerReceiverBusy := true } := by
        rw [acknowledge_toLink, polled]
        rfl
      have kept : (acknowledge after nR).sap = s.sap := by rw [acknowledge_sap, kept]
      generalize acknowledge after nR = answered at linked kept ⊢
      have busy : answered.peerReceiverBusy = true := by rw [linked]
      -- nothing is sent to a busy peer, so the timers may as well be set first
      have swap : (startT200 (stopT203 (invokeRetransmission answered))).toLink =
          (invokeRetransmission (startT200 (stopT203 answered))).toLink := by
        rw [invokeRetransmission_eq, invokeRetransmission_eq, runIQueue_busy, runIQueue_busy]
        · rfl
        · exact busy
        · exact busy
      rw [swap]
      refine .goBack _ nR true true false (by rw [here]; rfl) valid kept
        (.inr ⟨rfl, rfl, .inl rfl⟩) ?_
      change { answered.toLink with t200 := true, t203 := false } = _
      rw [linked, ← here]
      rfl
    · exact nrError_link true polled
  · rename_i here
    exact recoverySframe_link cr pF nR true here rfl rfl (.inr ⟨rfl, rfl⟩)
  · exact .idle

theorem handleSframeRej_link (cr pF : Bool) (nR : Seq) :
    LinkStep s.toLink s.sap purge reset mute acks (handleSframeRej s cr nR pF).toLink := by
  unfold handleSframeRej
  dsimp only
  split
  · rename_i here
    have polled := answerPoll_toLink (s := { s with peerReceiverBusy := false }) cr pF
    have kept : (answerPoll { s with peerReceiverBusy := false } cr pF).sap = s.sap :=
      answerPoll_sap cr pF
    generalize answerPoll { s with peerReceiverBusy := false } cr pF = after at polled kept ⊢
    split
    · rename_i valid
      rw [valid_nr_accepts, polled] at valid
      refine .goBack _ nR false false true (by rw [here]; rfl) valid
        ((acknowledge_sap after nR).trans kept) (.inl ⟨rfl, rfl, rfl⟩) ?_
      change { (acknowledge after nR).toLink with t200 := false, t203 := true } = _
      rw [acknowledge_toLink, polled, ← here]
      rfl
    · exact nrError_link false polled
  · rename_i here
    exact recoverySframe_link cr pF nR false here rfl rfl (.inl ⟨rfl, rfl⟩)
  · exact .idle

theorem handleSframe_link (skb : RxSkb) (function : SframeFunction) (pF : Bool) (nR : Seq)
    (caused : function = .rr → skb.len = 6 → s.state = .linkConnectionEstablished →
      s.toLink.accepts nR → acks = some nR) :
    LinkStep s.toLink s.sap purge reset mute acks (handleSframe s skb function nR pF).toLink := by
  unfold handleSframe
  split
  · exact frameReject_link .length
  · rename_i length
    cases function with
    | rr => exact handleSframeRr_link _ pF nR (caused rfl (not_not.mp length))
    | rnr => exact handleSframeRnr_link _ pF nR
    | rej => exact handleSframeRej_link _ pF nR
    | invalid => exact .idle

theorem handleUframeUa_link (pF : Bool)
    (purged : removesTei s = true → s.state.connected = true ∨
      s.state = .awaitingEstablish ∧ pF = false → purge = true)
    (resetted : s.state = .awaitingEstablish → pF = true → reset = true)
    (muted : s.state = .awaitingEstablish → pF = true → s.layer3Initiated = false → mute = true) :
    LinkStep s.toLink s.sap purge reset mute acks (handleUframeUa s pF).toLink := by
  unfold handleUframeUa
  dsimp only
  split
  · rename_i here
    exact indication_link _ fun queued => by rw [here] at queued; cases queued
  · rename_i here
    cases pF with
    | false => exact indication_link _ fun _ removes => purged removes (.inr ⟨here, rfl⟩)
    | true =>
      have caused := resetted here rfl
      rw [if_neg (by decide)]
      split
      · exact .connectRun _ caused here (dlPrimitive_sap _ _) (dlPrimitive_toLink _ _)
      · rename_i silent
        -- V(S) and V(A) are both 0 by now
        rw [if_neg (fun differ => differ rfl)]
        exact .connect caused here (muted here rfl (by rw [Bool.not_eq_true] at silent; exact silent))
  · rename_i here
    cases pF with
    | false => exact indication_link _ fun queued => by rw [here] at queued; cases queued
    | true =>
      rw [if_neg (by decide), dlPrimitive_toLink]
      exact .released .teiAssigned here (.inl rfl)
  · rename_i here
    exact indication_link _ fun _ removes => purged removes (.inl (by rw [here]; rfl))
  · rename_i here
    exact indication_link _ fun _ removes => purged removes (.inl (by rw [here]; rfl))
  · exact .idle

theorem handleUframeDisc_link (pF : Bool) (caused : s.state.connected = true → purge = true) :
    LinkStep s.toLink s.sap purge reset mute acks (handleUframeDisc s pF).toLink := by
  unfold handleUframeDisc
  dsimp only
  split
  · exact .idle
  · exact .idle
  · exact .idle
  · rename_i here
    rw [dlPrimitive_toLink]
    exact .purgeRelease .teiAssigned false (caused (by rw [here]; rfl)) (by rw [here]; rfl)
      (.inl rfl) (.inl rfl)
  · rename_i here
    rw [dlPrimitive_toLink]
    exact .purgeRelease .teiAssigned s.t203 (caused (by rw [here]; rfl)) (by rw [here]; rfl)
      (.inl rfl) (.inr ⟨rfl, by rw [here]; decide⟩)
  · exact .idle

theorem reestablish_link {errors : List MdlError} (harmless : verifiesTei errors = false) :
    LinkStep s.toLink s.sap purge reset mute acks
      (changeState { establishDatalink (mdlPrimitive s (.errorIndication errors)) with
        layer3Initiated := false } .awaitingEstablish).toLink := by
  change LinkStep _ _ _ _ _ _ (mdlPrimitive s (.errorIndication errors)).toLink.established
  rw [indication_toLink s errors harmless]
  exact .establish

theorem handleUframeDm_link (pF : Bool)
    (caused : s.state = .awaitingEstablish → pF = true → purge = true) :
    LinkStep s.toLink s.sap purge reset mute acks (handleUframeDm s pF).toLink := by
  unfold handleUframeDm
  dsimp only
  split
  · split
    · exact .establish
    · exact .idle
  · rename_i here
    split
    · rename_i final
      rw [dlPrimitive_toLink]
      exact .purgeRelease .teiAssigned s.t203 (caused here final) (by rw [here]; rfl) (.inl rfl)
        (.inr ⟨rfl, by rw [here]; decide⟩)
    · exact .idle
  · rename_i here
    split
    · rw [dlPrimitive_toLink]
      exact .released .teiAssigned here (.inl rfl)
    · exact .idle
  · split
    · rw [indication_toLink s _ rfl]
      exact .idle
    · exact reestablish_link rfl
  · split
    · rw [indication_toLink s _ rfl]
      exact .idle
    · exact reestablish_link rfl
  · exact .idle

theorem resetLink_link (pF : Bool) (caused : reset = true) (here : s.state.connected = true)
    (muted : s.state = .linkConnectionEstablished → mute = true) :
    LinkStep s.toLink s.sap purge reset mute acks (resetLink s pF).toLink := by
  have told := indication_toLink (clearExceptionConditions (sendUframe s .ua pF))
    [.F] rfl
  unfold resetLink
  dsimp only
  generalize mdlPrimitive (clearExceptionConditions (sendUframe s .ua pF))
    (.errorIndication [.F]) = indicated at told ⊢
  -- V(S) and V(A) are both 0 by now
  rw [if_neg (fun differ => differ rfl)]
  change LinkStep _ _ _ _ _ _ { indicated.toLink with vS := 0, vA := 0, t200 := false, t203 := true }
  rw [told]
  exact .reset caused here muted

theorem handleUframeSabme_link (pF : Bool) (caused : s.state.connected = true → reset = true)
    (muted : s.state = .linkConnectionEstablished → mute = true) :
    LinkStep s.toLink s.sap purge reset mute acks (handleUframeSabme s pF).toLink := by
  unfold handleUframeSabme
  dsimp only
  split
  · rename_i here
    split
    · rw [dlPrimitive_toLink]
      exact .accept here
    · exact .idle
  · exact .idle
  · exact .idle
  · rename_i here
    have connected : s.state.connected = true := by rw [here]; rfl
    exact resetLink_link pF (caused connected) connected muted
  · rename_i here
    have connected : s.state.connected = true := by rw [here]; rfl
    exact resetLink_link pF (caused connected) connected muted
  · exact .idle

/-- The item handled decides what happens to the connection. -/
theorem dlcRecv_link (item : Item) :
    LinkStep s.toLink s.sap (itemPurges s item) (itemResets s item) (itemMutes s item)
      (itemAcks s item) (dlcRecv s item).toLink := by
  cases item with
  | mdl pri => exact mdlRecv_link pri fun purged => purged
  | frame skb =>
    unfold dlcRecv
    dsimp only
    split
    · rename_i nS nR p control
      refine handleIframe_link skb nS nR p fun here fits room ready valid => ?_
      simp [itemAcks, control, here, fits, room, ready, (valid_nr_accepts s nR).mpr valid]
    · rename_i function nR pF control
      refine handleSframe_link skb function pF nR fun kind length here valid => ?_
      subst kind
      simp [itemAcks, control, here, length, (valid_nr_accepts s nR).mpr valid]
    · rename_i function pF control
      unfold handleUframe
      split
      · exact frameReject_link .length
      · rename_i length
        cases function with
        | sabme =>
          refine handleUframeSabme_link pF (fun here => ?_) (fun here => ?_)
          · simp_all [itemResets]
          · simp_all [itemMutes]
        | dm =>
          refine handleUframeDm_link pF fun here final => ?_
          simp_all [itemPurges]
        | ui => exact .idle
        | disc =>
          refine handleUframeDisc_link pF fun here => ?_
          simp_all [itemPurges]
        | ua =>
          refine handleUframeUa_link pF (fun removes here => ?_) (fun here final => ?_)
            (fun here final silent => ?_)
          · obtain here | ⟨here, final⟩ := here <;> simp_all [itemPurges]
          · simp_all [itemResets]
          · simp_all [itemMutes]
        | frmr => exact reestablish_link rfl
        | xid => exact .idle
        | invalid => exact frameReject_link .undefinedCommand

theorem dlEstablishRequest_link (caused : s.state.queues = true → purge = true) :
    LinkStep s.toLink s.sap purge reset mute acks (dlEstablishRequest s).toLink := by
  unfold dlEstablishRequest
  dsimp only
  split
  · rename_i here
    exact .goto .establishAwaitingTei (by rw [here]; rfl) rfl
  · rename_i here
    exact .goto .establishAwaitingTei (by rw [here]; rfl) rfl
  · exact .establish
  · rename_i here
    have queued : s.state.queues = true := by rw [here]; rfl
    have change : LinkStep s.toLink s.sap purge reset mute acks
        { s.toLink.established with writeQueue := [] } := .purgeEstablish (caused queued) queued
    unfold Link.established at change
    rwa [← here] at change
  · rename_i here
    have queued : s.state.queues = true := by rw [here]; rfl
    exact .purgeEstablish (caused queued) queued
  · rename_i here
    have queued : s.state.queues = true := by rw [here]; rfl
    exact .purgeEstablish (caused queued) queued
  · exact .idle

theorem dlReleaseRequest_link (caused : s.state.connected = true → purge = true) :
    LinkStep s.toLink s.sap purge reset mute acks (dlReleaseRequest s).toLink := by
  unfold dlReleaseRequest
  dsimp only
  split
  · rw [dlPrimitive_toLink]
    exact .idle
  · rename_i here
    have connected : s.state.connected = true := by rw [here]; rfl
    exact .purgeDisconnect false (caused connected) connected (.inl rfl)
  · rename_i here
    have connected : s.state.connected = true := by rw [here]; rfl
    exact .purgeDisconnect s.t203 (caused connected) connected (.inr ⟨rfl, by rw [here]; decide⟩)
  · exact .idle

theorem dlDataRequest_link (skb : Skb) (fresh : skb.id = s.nextId ∧ skb.transmitted = false) :
    LinkStep s.toLink s.sap purge reset mute acks (dlDataRequest s skb).toLink := by
  unfold dlDataRequest
  split
  · rename_i here
    split
    · exact .enqueue skb fresh (.inl here)
    · exact .idle
  · rename_i here
    exact .enqueueRun _ skb fresh here rfl rfl
  · rename_i here
    exact .enqueue skb fresh (.inr here)
  · exact .idle

theorem dlUnitDataRequest_link (frame : Frame) :
    LinkStep s.toLink s.sap purge reset mute acks (dlUnitDataRequest s frame).toLink := by
  unfold dlUnitDataRequest
  dsimp only
  split
  · rename_i here
    exact .goto .awaitingTei (by rw [here]; rfl) rfl
  · exact .idle
  · exact .idle
  · rw [runUiQueue_toLink]
    exact .idle

/-- With the queue gone and state 4 reached, an indication can only remove the
TEI. -/
theorem indication_assigned (errors : List MdlError) (here : s.state = .teiAssigned) :
    (mdlPrimitive s (.errorIndication errors)).toLink = s.toLink ∨
    (mdlPrimitive s (.errorIndication errors)).toLink = { s.toLink with state := .teiUnassigned } := by
  simp only [mdlPrimitive, mdlPrimitiveWith, mdlRecv, mdlErrorIndication, utmeTeiRemove,
    mdlRemoveRequest, here]
  split
  · exact .inl rfl
  · split
    · split
      · split <;> exact .inl rfl
      · split
        · exact .inr rfl
        · exact .inl rfl
    · exact .inl rfl

theorem timerT200_link (fired : s.t200 = true)
    (caused : s.state = .awaitingEstablish → s.retransCnt = s.sap.N200 → s.owned = false →
      purge = true) :
    LinkStep s.toLink s.sap purge reset mute acks (timerT200 s).toLink := by
  have restarted : { s.toLink with t200 := true } = s.toLink := by rw [← fired]
  have again : LinkStep s.toLink s.sap purge reset mute acks { s.toLink with t200 := true } := by
    rw [restarted]
    exact .idle
  unfold timerT200
  dsimp only
  split
  · exact again
  · rename_i free
    split
    · rename_i here
      change s.state = _ at here
      split
      · rename_i exhausted
        rw [dlPrimitive_toLink]
        have purged := caused here exhausted (by rw [Bool.not_eq_true] at free; exact free)
        have queued : s.state.queues = true := by rw [here]; rfl
        have timer : s.t203 = false ∨ s.t203 = s.t203 ∧ s.state ≠ .linkConnectionEstablished :=
          .inr ⟨rfl, by rw [here]; decide⟩
        obtain same | same := indication_assigned
          (s := changeState (discardIQueue (stopT200 s)) .teiAssigned) [.G] rfl
        · rw [same]
          exact .purgeRelease .teiAssigned s.t203 purged queued (.inl rfl) timer
        · rw [same]
          exact .purgeRelease .teiUnassigned s.t203 purged queued (.inr rfl) timer
      · exact again
    · rename_i here
      split
      · have released : (dlPrimitive (changeState (stopT200 s) .teiAssigned) .releaseConfirm).toLink =
            { s.toLink with state := .teiAssigned, t200 := false } := by
          rw [dlPrimitive_toLink]
          rfl
        obtain same | same := indication_assigned
          (s := dlPrimitive (changeState (stopT200 s) .teiAssigned) .releaseConfirm) [.H]
          (by rw [released])
        · rw [same, released]
          exact .released .teiAssigned here (.inl rfl)
        · rw [same, released]
          exact .released .teiUnassigned here (.inr rfl)
      · exact again
    · rename_i here
      have change : LinkStep s.toLink s.sap purge reset mute acks
          { s.toLink with state := .timerRecovery, t200 := true, t203 := s.t203 } :=
        .enquire s.t203 here (.inl ⟨fired, rfl⟩)
      unfold transmitEnquiry
      dsimp only
      split <;> exact change
    · split
      · have same := indication_toLink (stopT200 s) [.I] rfl
        generalize mdlPrimitive (stopT200 s) (.errorIndication [.I]) = indicated at same ⊢
        change LinkStep _ _ _ _ _ _ indicated.toLink.established
        rw [same]
        exact .establish
      · unfold transmitEnquiry
        dsimp only
        split <;> exact again
    · rename_i e5 e6 e7 e8
      refine .expireT200 fired ?_
      cases state : s.state <;> simp_all [stopT200, DatalinkState.quiet]

theorem timerT203_link (fired : s.t203 = true) :
    LinkStep s.toLink s.sap purge reset mute acks (timerT203 s).toLink := by
  unfold timerT203
  dsimp only
  split
  · exact .swapTimers fired
  · split
    · rename_i here
      have change : LinkStep s.toLink s.sap purge reset mute acks
          { s.toLink with state := .timerRecovery, t200 := true, t203 := false } :=
        .enquire false here (.inr ⟨fired, rfl⟩)
      unfold transmitEnquiry
      dsimp only
      split <;> exact change
    · rename_i elsewhere
      exact .expireT203 fired elsewhere

/-- What an event can do to the connection. -/
theorem perform_link {e : Event} (possible : enabled s e = true) :
    LinkStep s.toLink s.sap (purges s e) (resets s e) (mutes s e) (acksInPlace s e)
      (perform s e).toLink := by
  cases e with
  | lockSock => exact .idle
  | releaseSock => exact .idle
  | backlogRcv =>
    unfold perform backlogRcv
    cases pending : s.backlog with
    | nil => exact .idle
    | cons item rest =>
      have change := dlcRecv_link (s := { s with backlog := rest }) item
      simp only [purges, resets, mutes, acksInPlace, handled, pending, List.head?_cons, Option.any_some,
        Option.bind_some]
      exact change
  | establishRequest => exact dlEstablishRequest_link fun queued => queued
  | releaseRequest => exact dlReleaseRequest_link fun connected => connected
  | dataRequest data nS nR => exact dlDataRequest_link _ ⟨rfl, rfl⟩
  | unitDataRequest data => exact dlUnitDataRequest_link _
  | frame skb =>
    unfold perform
    dsimp only
    split
    · rename_i delivered
      unfold passFrame
      split
      · exact .idle
      · rename_i free
        have got : handled s (.frame skb) = some (.frame skb) := by
          simp [handled, delivered, free]
        have change := dlcRecv_link (s := s) (.frame skb)
        simp only [purges, resets, mutes, acksInPlace, got, Option.any_some, Option.bind_some]
        exact change
    · exact .idle
  | mdl pri =>
    unfold perform mdlPrimitive mdlPrimitiveWith
    dsimp only
    split
    · exact .idle
    · rename_i free
      refine mdlRecv_link pri fun purged => ?_
      simpa [purges, handled, free] using purged
  | timerT200 =>
    refine timerT200_link possible fun here exhausted free => ?_
    simp [purges, here, exhausted, free]
  | timerT203 => exact timerT203_link possible
  | recvmsg =>
    unfold perform recvmsg
    dsimp only
    split <;> exact .idle

variable {t : Sock} {e : Event}

/-- One event, as a change of the connection. -/
theorem step_link (took : step s e = some t) :
    LinkStep s.toLink s.sap (purges s e) (resets s e) (mutes s e) (acksInPlace s e) t.toLink := by
  obtain ⟨possible, rfl, _⟩ := step_performs took
  exact perform_link (s := { s with out := [] }) possible

end Vstuff.Lapd
