import Vstuff.Lapd.Footprint

/-! Answers to a poll. Every command with P = 1 that a connected socket handles
is answered once with F = 1, except an I frame that finds the receive buffer
full: the handler returns before it looks at the P bit. -/
namespace Vstuff.Lapd
open Transition
set_option linter.all false

/-- The supervisory response with F = 1 that an output is, if it is one. -/
def Output.answer (role : IntfRole) : Output → Option (SframeFunction × Seq)
  | .phDataRequest { control := .sframe function nR true, cr := cr, .. } _ =>
    if cr = makeCr role .response then some (function, nR) else none
  | _ => none

/-- The supervisory responses with F = 1 sent in the event under way. -/
def Sock.answers (s : Sock) : List (SframeFunction × Seq) := s.out.filterMap (Output.answer s.dev.role)

/-- The second socket is the first one after some work that answers no poll and
accepts no I frame. -/
structure Silent (s t : Sock) : Prop where
  answers : t.answers = s.answers
  vR : t.vR = s.vR
  dev : t.dev = s.dev

section Composition
variable {s t u : Sock}

theorem Silent.emits (more : List Output) (none : more.filterMap (Output.answer s.dev.role) = [])
    (same : (t.out, t.vR, t.dev) = (s.out ++ more, s.vR, s.dev)) : Silent s t := by
  simp only [Prod.mk.injEq] at same
  obtain ⟨out, vR, dev⟩ := same
  exact ⟨by rw [Sock.answers, out, dev, List.filterMap_append, none, List.append_nil]; rfl, vR, dev⟩

theorem Silent.still (same : (t.out, t.vR, t.dev) = (s.out, s.vR, s.dev)) : Silent s t :=
  .emits [] rfl (by rw [same, List.append_nil])

theorem Silent.refl (s : Sock) : Silent s s := .still rfl

theorem Silent.trans (first : Silent s t) (second : Silent t u) : Silent s u :=
  ⟨second.answers.trans first.answers, second.vR.trans first.vR, second.dev.trans first.dev⟩

/-- The same with the later half first, whose sockets then are known. -/
theorem Silent.after (second : Silent t u) (first : Silent s t) : Silent s u := first.trans second

end Composition

variable (s : Sock)

/-! ## What answers no poll -/

theorem acknowledge_silent (nR : Seq) : Silent s (acknowledge s nR) := by
  unfold acknowledge ackFrames
  split
  · exact .still rfl
  · refine .emits _ ?_ rfl
    rw [List.filterMap_map, List.filterMap_eq_nil_iff]
    exact fun _ _ => rfl

theorem acknowledgeTimed_silent (nR : Seq) : Silent s (acknowledgeTimed s nR) := by
  unfold acknowledgeTimed
  split
  · exact (acknowledge_silent s nR).trans (.still rfl)
  · split
    · exact (acknowledge_silent s nR).trans (.still rfl)
    · exact .refl s

theorem indication_silent (errors : List MdlError) (harmless : verifiesTei errors = false) :
    Silent s (mdlPrimitive s (.errorIndication errors)) := by
  simp only [mdlPrimitive, mdlPrimitiveWith, mdlRecv, mdlErrorIndication, harmless]
  split <;> exact .still rfl

theorem nrErrorRecovery_silent : Silent s (nrErrorRecovery s) :=
  (indication_silent s [.J] rfl).trans (.emits [_] rfl rfl)

theorem transmitIframe_silent (skb : Skb) : Silent s (transmitIframe s skb) := by
  unfold transmitIframe
  dsimp only
  split
  · exact .emits [_] rfl rfl
  · exact .emits [_] rfl rfl

theorem sendLoop_silent (sent rest : List Skb) : Silent s (sendLoop s sent rest) := by
  induction rest generalizing s sent with
  | nil => exact .still rfl
  | cons skb rest ih =>
    unfold sendLoop
    split
    · exact .still rfl
    · exact (transmitIframe_silent s _).trans (ih _ _)

theorem runIQueue_silent : Silent s (runIQueue s) := by
  unfold runIQueue
  split
  · exact .refl s
  · split
    · exact .refl s
    · split
      · exact .refl s
      · split
        · exact .still rfl
        · exact sendLoop_silent s _ _

theorem invokeRetransmission_silent : Silent s (invokeRetransmission s) := by
  unfold invokeRetransmission
  dsimp only
  refine Silent.trans ?_ (runIQueue_silent _)
  cases s.writeQueue <;> exact .still rfl

theorem clearOwnReceiverBusy_silent : Silent s (clearOwnReceiverBusy s) := by
  unfold clearOwnReceiverBusy
  split
  · split
    · exact .emits [_] rfl rfl
    · exact .refl s
  · split
    · exact .emits [_] rfl rfl
    · exact .refl s
  · exact .refl s

theorem setOwnReceiverBusy_silent : Silent s (setOwnReceiverBusy s) := by
  unfold setOwnReceiverBusy
  split
  · split
    · exact .refl s
    · exact .emits [_] rfl rfl
  · split
    · exact .refl s
    · exact .emits [_] rfl rfl
  · exact .refl s

/-! ## What answers one -/

/-- One more poll was answered, with N(R) the V(R) that results. -/
structure Answered (s t : Sock) (function : SframeFunction) : Prop where
  answers : t.answers = s.answers ++ [(function, t.vR)]
  dev : t.dev = s.dev

variable {s} {t u : Sock} {function : SframeFunction}

theorem Answered.after (silent : Silent s t) (answered : Answered t u function) :
    Answered s u function :=
  ⟨by rw [answered.answers, silent.answers], answered.dev.trans silent.dev⟩

theorem Answered.before (answered : Answered s t function) (silent : Silent t u) :
    Answered s u function :=
  ⟨by rw [silent.answers, answered.answers, silent.vR], silent.dev.trans answered.dev⟩

/-- A response with F = 1 answers the poll. -/
theorem answered_of_send (same : (t.out, t.vR, t.dev) = (s.out ++
    [.phDataRequest (prepareSframe s .response function true) s.assigned], s.vR, s.dev)) :
    Answered s t function := by
  simp only [Prod.mk.injEq] at same
  obtain ⟨out, vR, dev⟩ := same
  refine ⟨?_, dev⟩
  rw [Sock.answers, out, dev, vR, List.filterMap_append]
  simp [Sock.answers, Output.answer, prepareSframe]

theorem enquiryResponse_answers (s : Sock) :
    Answered s (enquiryResponse s) (if s.ownReceiverBusy then .rnr else .rr) := by
  unfold enquiryResponse
  split
  · exact answered_of_send rfl
  · exact answered_of_send rfl

/-- Which response the receiving half of the I frame handler sends to a poll. -/
def acceptFunction (s : Sock) (nS : Seq) : SframeFunction :=
  if s.ownReceiverBusy then .rnr
  else if nS = s.vR then .rr
  else if s.rejectException then .rr
  else .rej

theorem acceptIframe_answers (s : Sock) (skb : RxSkb) (nS : Seq) :
    Answered s (acceptIframe s skb nS true) (acceptFunction s nS) := by
  unfold acceptIframe acceptFunction
  split
  · exact answered_of_send rfl
  · split
    · have accepted : (dlDataIndication { s with vR := s.vR + 1, rejectException := false } skb).answers =
          s.answers ∧ (dlDataIndication { s with vR := s.vR + 1, rejectException := false } skb).dev =
          s.dev := ⟨by simp [Sock.answers, dlDataIndication, Output.answer], rfl⟩
      dsimp only
      generalize dlDataIndication _ _ = taken at accepted ⊢
      have answered : Answered taken { sendSframe taken .response .rr true with
        acknowledgePending := false } .rr := answered_of_send rfl
      exact ⟨by rw [← accepted.1]; exact answered.answers, accepted.2⟩
    · split
      · exact answered_of_send rfl
      · dsimp only
        split
        · exact answered_of_send rfl
        · exact answered_of_send rfl

/-- With room in the buffer the busy condition is over before the frame is
accepted, and whatever N(R) says comes after the answer. -/
theorem handleIframe_answers (skb : RxSkb) (nS nR : Seq)
    (here : s.state = .linkConnectionEstablished ∨ s.state = .timerRecovery)
    (fits : skb.len ≤ s.dev.mtu) (room : s.rmemAlloc < s.rcvbuf) :
    Answered s (handleIframe s skb nS nR true)
      (acceptFunction { s with ownReceiverBusy := false } nS) := by
  obtain ⟨ready, cleared, silent, state, memory, same⟩ : ∃ ready : Sock,
      (if s.rmemAlloc < s.rcvbuf ∧ s.ownReceiverBusy = true then clearOwnReceiverBusy s else s) =
        ready ∧ Silent s ready ∧ ready.state = s.state ∧
      (ready.rmemAlloc = s.rmemAlloc ∧ ready.rcvbuf = s.rcvbuf) ∧
      acceptFunction ready nS = acceptFunction { s with ownReceiverBusy := false } nS := by
    refine ⟨_, rfl, ?_⟩
    by_cases busy : s.ownReceiverBusy = true
    · rw [if_pos ⟨room, busy⟩]
      refine ⟨clearOwnReceiverBusy_silent s, ?_⟩
      unfold clearOwnReceiverBusy
      obtain here | here := here
      · simp only [here, busy, if_true]
        exact ⟨here, ⟨rfl, rfl⟩, rfl⟩
      · simp only [here, busy, if_true]
        exact ⟨here, ⟨rfl, rfl⟩, rfl⟩
    · rw [if_neg fun both => busy both.2]
      refine ⟨.refl s, rfl, ⟨rfl, rfl⟩, ?_⟩
      simp only [Bool.not_eq_true] at busy
      simp [acceptFunction, busy]
  unfold handleIframe
  rw [if_neg (by omega), cleared]
  dsimp only
  rw [memory.1, memory.2, if_neg (by omega), ← same, state]
  have accepted := acceptIframe_answers ready skb nS
  have recovered : Answered ready (nrErrorRecovery (changeState (acceptIframe ready skb nS true)
      .awaitingEstablish)) (acceptFunction ready nS) :=
    accepted.before ((nrErrorRecovery_silent _).after (.still rfl))
  refine .after silent ?_
  obtain here | here := here
  · simp only [here]
    split
    · split
      · exact accepted.before (acknowledge_silent _ _)
      · exact accepted.before (acknowledgeTimed_silent _ _)
    · exact recovered
  · simp only [here]
    split
    · exact accepted.before (acknowledge_silent _ _)
    · exact recovered

/-- A full buffer makes the handler return before it looks at the frame. -/
theorem handleIframe_full (s : Sock) (skb : RxSkb) (nS nR : Seq) (p : Bool)
    (fits : skb.len ≤ s.dev.mtu) (full : s.rcvbuf ≤ s.rmemAlloc) :
    handleIframe s skb nS nR p = setOwnReceiverBusy s := by
  have stays : (if s.rmemAlloc < s.rcvbuf ∧ s.ownReceiverBusy = true then clearOwnReceiverBusy s
      else s) = s := if_neg (fun both => Nat.not_lt.mpr full both.1)
  unfold handleIframe
  rw [if_neg (Nat.not_lt.mpr fits), stays]
  dsimp only
  rw [if_pos full]

private theorem enquiry_answers (s : Sock) (busy : Bool) :
    Answered s (enquiryResponse { s with peerReceiverBusy := busy })
      (if s.ownReceiverBusy then .rnr else .rr) := by
  have answered := enquiryResponse_answers { s with peerReceiverBusy := busy }
  exact ⟨answered.answers, answered.dev⟩

private theorem answerPoll_answers (cr : Bool) (command : rxIsResponse s.dev.role cr = false)
    (busy : Bool) : Answered s (answerPoll { s with peerReceiverBusy := busy } cr true)
      (if s.ownReceiverBusy then .rnr else .rr) := by
  unfold answerPoll
  rw [if_pos rfl, if_neg (by simp [command])]
  exact enquiry_answers s busy

private theorem recoverySframe_answers (cr : Bool) (nR : Seq) (timers : Sock → Sock)
    (command : rxIsResponse s.dev.role cr = false) (busy : Bool) :
    Answered s (recoverySframe { s with peerReceiverBusy := busy } cr nR true timers)
      (if s.ownReceiverBusy then .rnr else .rr) := by
  have answered := enquiry_answers s busy
  unfold recoverySframe
  rw [if_neg (by simp [command])]
  dsimp only
  rw [if_pos rfl]
  split
  · exact answered.before (acknowledge_silent _ _)
  · exact answered.before ((nrErrorRecovery_silent _).trans (.still rfl))

theorem handleSframe_answers (skb : RxSkb) (nR : Seq)
    (here : s.state = .linkConnectionEstablished ∨ s.state = .timerRecovery)
    (command : rxIsResponse s.dev.role skb.frame.cr = false) (length : skb.len = 6)
    (kind : function ≠ .invalid) :
    Answered s (handleSframe s skb function nR true) (if s.ownReceiverBusy then .rnr else .rr) := by
  have polled := answerPoll_answers skb.frame.cr command
  have error (t : Sock) : Silent t (nrErrorRecovery (changeState t .awaitingEstablish)) :=
    (nrErrorRecovery_silent _).after (.still rfl)
  unfold handleSframe
  rw [if_neg (not_not.mpr length)]
  cases function with
  | rr =>
    dsimp only
    unfold handleSframeRr
    split
    · dsimp only
      split
      · exact (polled false).before (acknowledgeTimed_silent _ _)
      · exact (polled false).before (error _)
    · exact recoverySframe_answers _ nR _ command false
    · rename_i no7 no8
      exact (here.elim no7 no8).elim
  | rnr =>
    dsimp only
    unfold handleSframeRnr
    split
    · dsimp only
      split
      · have retimed (t : Sock) : Silent t (startT200 (stopT203 t)) := .still rfl
        exact (polled true).before (((acknowledge_silent _ _).trans
          (invokeRetransmission_silent _)).trans (retimed _))
      · exact (polled true).before (error _)
    · exact recoverySframe_answers _ nR _ command true
    · rename_i no7 no8
      exact (here.elim no7 no8).elim
  | rej =>
    dsimp only
    unfold handleSframeRej
    split
    · dsimp only
      split
      · exact (polled false).before ((invokeRetransmission_silent _).after
          ((acknowledge_silent _ _).trans (.still rfl)))
      · exact (polled false).before (error _)
    · exact recoverySframe_answers _ nR _ command false
    · rename_i no7 no8
      exact (here.elim no7 no8).elim
  | invalid => exact absurd rfl kind

/-! ## The answer to a poll -/

/-- A command with P = 1, of a valid length: I, RR, RNR or REJ. -/
def Polls (s : Sock) (skb : RxSkb) : Prop :=
  rxIsResponse s.dev.role skb.frame.cr = false ∧
    match skb.frame.control with
    | .iframe _ _ p => p = true ∧ 6 ≤ skb.len ∧ skb.len ≤ s.dev.mtu
    | .sframe function _ pF => function ≠ .invalid ∧ pF = true ∧ skb.len = 6
    | .uframe _ _ => False

/-- `own_receiver_busy` when the frame has been taken account of: an I frame
ends the condition when there is room for it, and begins it when there is none. -/
def busyWhenAnswering (s : Sock) (skb : RxSkb) : Prop :=
  match skb.frame.control with
  | .iframe _ _ _ => s.rcvbuf ≤ s.rmemAlloc
  | _ => s.ownReceiverBusy = true

/-- An I frame out of sequence, outside a reject exception. -/
def calledForReject (s : Sock) (skb : RxSkb) : Prop :=
  match skb.frame.control with
  | .iframe nS _ _ => nS ≠ s.vR ∧ s.rejectException = false
  | _ => False

/-- The frame is answered exactly once with F = 1, and N(R) is V(R) after the
frame's own acceptance. The answer is RNR exactly when the receiver is busy,
and REJ only when called for. -/
def PollAnswered (s : Sock) (skb : RxSkb) : Prop :=
  ∃ function,
    (dlcRecv { s with out := [] } (.frame skb)).answers =
      [(function, (dlcRecv { s with out := [] } (.frame skb)).vR)] ∧
    (function = .rnr ↔ busyWhenAnswering s skb) ∧
    (function = .rej → calledForReject s skb)

/-- An I frame finds the receive buffer full. -/
def FindsBufferFull (s : Sock) (skb : RxSkb) : Prop :=
  match skb.frame.control with
  | .iframe _ _ _ => s.rcvbuf ≤ s.rmemAlloc
  | _ => False

/-- A connected socket answers a poll as it should, unless the poll is an I
frame that finds the buffer full. -/
theorem poll_answered_iff {skb : RxSkb}
    (here : s.state = .linkConnectionEstablished ∨ s.state = .timerRecovery) (polls : Polls s skb) :
    PollAnswered s skb ↔ ¬ FindsBufferFull s skb := by
  obtain ⟨command, frame⟩ := polls
  unfold PollAnswered FindsBufferFull busyWhenAnswering calledForReject
  cases control : skb.frame.control with
  | uframe function pF => rw [control] at frame; exact frame.elim
  | sframe function nR pF =>
    rw [control] at frame
    obtain ⟨kind, rfl, length⟩ := frame
    have handles : dlcRecv { s with out := [] } (.frame skb) =
        handleSframe { s with out := [] } skb function nR true := by simp only [dlcRecv, control]
    have answered := handleSframe_answers (s := { s with out := [] }) skb nR here command length kind
    rw [handles]
    refine ⟨fun _ => not_false, fun _ => ⟨_, answered.answers, ?_, ?_⟩⟩
    · dsimp only
      cases s.ownReceiverBusy <;> simp
    · dsimp only
      cases s.ownReceiverBusy <;> simp
  | iframe nS nR p =>
    rw [control] at frame
    obtain ⟨rfl, _, fits⟩ := frame
    have handles : dlcRecv { s with out := [] } (.frame skb) =
        handleIframe { s with out := [] } skb nS nR true := by simp only [dlcRecv, control]
    rw [handles]
    dsimp only
    constructor
    · -- a full buffer returns before the poll is looked at
      rintro ⟨function, answers, _⟩ full
      have silent := setOwnReceiverBusy_silent { s with out := [] }
      rw [handleIframe_full { s with out := [] } skb nS nR true fits full, silent.answers] at answers
      cases answers
    · intro room
      have answered := handleIframe_answers (s := { s with out := [] }) skb nS nR here fits
        (Nat.lt_of_not_le room)
      refine ⟨_, answered.answers, ?_, ?_⟩
      · unfold acceptFunction
        simp only [Bool.false_eq_true, if_false]
        constructor
        · intro answer
          split at answer
          · cases answer
          · split at answer <;> cases answer
        · exact fun full => absurd full room
      · unfold acceptFunction
        simp only [Bool.false_eq_true, if_false]
        intro answer
        split at answer
        · cases answer
        · rename_i outOfSequence
          split at answer
          · cases answer
          · rename_i noException
            exact ⟨outOfSequence, by simpa using noException⟩

/-- The network socket once the terminal has connected and filled the receive
buffer. -/
def fullSock : Sock :=
  { networkSock 1 with
    state := .linkConnectionEstablished
    t203 := true
    rcvbuf := 100
    receiveQueue := [.primitive .establishIndication 100]
    rmemAlloc := 100
    out := [.phDataRequest { sapi := 0, cr := false, tei := 64, control := .uframe .ua true } false] }

theorem fullSock_run : Run step Any { networkSock 1 with rcvbuf := 100 }
    [fromTerminal .command (.uframe .sabme true) []] fullSock :=
  follow_run step Any _ _ (by decide)

/-- An I frame of the terminal with P = 1. -/
def pollingIframe : RxSkb where
  frame := { sapi := 0, cr := makeCr .te .command, tei := 64, control := .iframe 0 0 true, data := [1] }
  len := 7
  truesize := 200

/-- With an empty buffer the poll is answered. -/
theorem empty_buffer_answers : PollAnswered { fullSock with rmemAlloc := 0 } pollingIframe := by
  refine (poll_answered_iff (.inl rfl) ?_).mpr ?_
  · exact ⟨rfl, rfl, by decide, by decide⟩
  · exact fun full => absurd full (by decide : ¬ 100 ≤ 0)

theorem full_buffer_ignores_a_poll :
    ¬ ∀ s es t skb, Init s → Run step Any s es t →
      (t.state = .linkConnectionEstablished ∨ t.state = .timerRecovery) → Polls t skb →
      PollAnswered t skb := by
  intro claim
  have fresh : Init { networkSock 1 with rcvbuf := 100 } :=
    ⟨rfl, .inr (.inr (.inr rfl)), ⟨rfl, rfl, rfl, rfl, rfl⟩, ⟨rfl, rfl, rfl, rfl⟩,
      ⟨by decide, by decide⟩, ⟨rfl, rfl⟩⟩
  obtain ⟨function, answers, _⟩ := claim _ _ fullSock pollingIframe fresh fullSock_run (.inl rfl)
    ⟨rfl, rfl, by decide, by decide⟩
  cases answers

end Vstuff.Lapd
