import Vstuff.Vgsm.Comm

/-! What the engine knows about itself: which state has a request or an unsolicited
message in hand and the timer running, and how often a request can be sent. Closing
the engine is where it forgets. -/
namespace Vstuff.Vgsm
open Transition
open Lapd (Octets)
set_option linter.all false

/-- A message of several lines is being read. -/
def CommState.readsUrc : CommState → Bool
  | .readingUrc | .awaitingEchoReadingUrc => true
  | _ => false

/-- The module has been sent the current request. -/
def CommState.asked : CommState → Bool
  | .awaitingEcho | .awaitingEchoReadingUrc | .awaitingSmsEcho | .awaitingSmsEcho1a | .readingResponse => true
  | _ => false

/-- There is no current request. -/
def CommState.unasked : CommState → Bool
  | .idle | .failed => true
  | _ => false

/-- The module is to do something in time. -/
def CommState.timed (state : CommState) : Bool := state.asked || state == .readingUrc || state == .recovering

/-- A request that waits for its turn. -/
structure Req.Waiting (req : Req) : Prop where
  fits : req.request.length ≤ 80
  unsent : req.sent = 0
  untried : req.retransmitCnt = 3

/-- A request that was sent: each time it is sent again it has one attempt less. -/
structure Req.Tried (req : Req) : Prop where
  fits : req.request.length ≤ 80
  attempts : (req.sent : Int) + req.retransmitCnt = 4
  left : 0 < req.retransmitCnt

theorem Req.Tried.sent_le {req : Req} (tried : req.Tried) : req.sent ≤ 3 := by
  obtain ⟨-, attempts, left⟩ := tried
  omega

namespace Comm
variable {c d : Comm} {e : Event} {npull : Nat}

/-- State, pointers and timer agree. -/
structure Consistent (c : Comm) : Prop where
  urc : c.currentUrc.isSome = c.state.readsUrc
  asked : c.state.asked → c.currentReq.isSome
  unasked : c.state.unasked → c.currentReq = none
  timer : c.pending = c.state.timed

/-- What makes them agree for ever. -/
structure Sound (c : Comm) : Prop extends Consistent c where
  alone : c.state = .readingUrc → c.currentReq = none
  detects : ∀ urc ∈ c.currentUrc, urc.urcClass.detectEnd.isSome
  pdu : c.state = .awaitingSmsEcho → (c.currentReq.bind Req.smsTextPdu).isSome
  waiting : ∀ req ∈ c.requestsQueue, req.Waiting
  tried : ∀ req ∈ c.currentReq, req.Tried
  done : ∀ req ∈ c.completionQueue, req.sent ≤ 3

/-! ## What each function does to the books -/

/-- The buffer, the thread's place in the loop and what was done before do not matter. -/
theorem Sound.frame (sound : Sound c) {buf : Octets} {scanning : Option Nat} {outputs : List Output}
    {urcQueue : List Urc} :
    Sound { c with buf := buf, scanning := scanning, outputs := outputs, urcQueue := urcQueue } :=
  { sound with }

theorem Sound.transmit (sound : Sound c) {req : Req} (fits : req.request.length ≤ 80)
    (attempts : (req.sent : Int) + req.retransmitCnt = 3) (left : 0 < req.retransmitCnt)
    (idle : c.currentUrc = none) : Sound (c.transmit req) where
  urc := by simp [idle]; rfl
  asked _ := rfl
  unasked := nofun
  timer := rfl
  alone := nofun
  detects := by simp [idle]
  pdu := nofun
  waiting := sound.waiting
  tried := by
    rintro _ ⟨⟩
    exact ⟨fits, by push_cast; omega, left⟩
  done := sound.done

theorem mem_completed {req other : Req} {err : Int} (member : other ∈ (c.complete req err).completionQueue) :
    other ∈ c.completionQueue ∨ other.sent = req.sent := by
  rcases List.mem_append.mp member with before | last
  · exact .inl before
  · rw [List.mem_singleton.mp last]
    exact .inr rfl

/-- The current request gets its result. -/
theorem Sound.finish (sound : Sound c) {req : Req} {err : Int} {state : CommState}
    (sent : req.sent ≤ 3) (ends : state = .idle ∨ state = .failed) (idle : c.currentUrc = none) :
    Sound (c.finish req state err) := by
  have done : ∀ other ∈ ((c.changeState state .stop).complete req err).completionQueue, other.sent ≤ 3 := by
    intro other member
    rcases mem_completed member with before | same
    · exact sound.done other before
    · rw [same]
      exact sent
  have quiet : ∀ state : CommState, state = .idle ∨ state = .failed →
      state.readsUrc = false ∧ state.asked = false ∧ state.timed = false ∧ state ≠ .awaitingSmsEcho := by
    rintro state (rfl | rfl)
    · decide
    · decide
  obtain ⟨urc, asked, timed, sms⟩ := quiet state ends
  constructor
  · constructor
    · simp [idle, urc]
    · simp [asked]
    · exact fun _ => rfl
    · simp [timed]
  · exact fun _ => rfl
  · simp [idle]
  · exact fun waits => absurd waits sms
  · exact sound.waiting
  · exact nofun
  · exact done

theorem Sound.quiet (sound : Sound c) (silent : c.state.readsUrc = false) : c.currentUrc = none :=
  Option.not_isSome_iff_eq_none.mp (by rw [sound.urc, silent]; exact nofun)

/-- What reading a response does: nothing, answer a prompt, or take a line, which may be
the last. -/
theorem matchResponse_cases (took : c.matchResponse = some (d, npull)) :
    ∃ req, c.currentReq = some req ∧
      (d = c ∨ (req.smsTextPdu = none ∧ d = c.write [0x1b]) ∨
        (∃ pdu, req.smsTextPdu = some pdu ∧ d = (c.write pdu).changeState .awaitingSmsEcho smsEchoTimeout) ∨
        ∃ buf line, d = c.addLine req buf line ∨
          ∃ err, d = (c.addLine req buf line).finish { req with lines := req.lines ++ [line] } .idle err) := by
  obtain ⟨req, current, took⟩ := Option.bind_eq_some_iff.mp took
  refine ⟨req, current, ?_⟩
  split at took
  · cases took; exact .inl rfl
  split at took
  · cases sms : req.smsTextPdu with
    | none => rw [sms] at took; cases took; exact .inr (.inl ⟨rfl, rfl⟩)
    | some pdu => rw [sms] at took; cases took; exact .inr (.inr (.inl ⟨pdu, rfl, rfl⟩))
  split at took
  · cases took; exact .inl rfl
  · simp only at took
    split at took
    · cases took; exact .inr (.inr (.inr ⟨_, _, .inl rfl⟩))
    · cases took; exact .inr (.inr (.inr ⟨_, _, .inr ⟨_, rfl⟩⟩))

/-- What looking for a message does: nothing, drop it, or begin it. -/
theorem matchUrc_cases (took : c.matchUrc = some (d, npull)) :
    (∃ buf, d = { c with buf := buf }) ∨ ∃ buf urc, d = { c with buf := buf }.beginUrc urc := by
  unfold matchUrc at took
  split at took
  · cases took; exact .inl ⟨_, rfl⟩
  split at took
  · cases took; exact .inl ⟨_, rfl⟩
  · simp only at took
    split at took
    · cases took
    split at took
    · cases took; exact .inl ⟨_, rfl⟩
    · cases took; exact .inr ⟨_, _, rfl⟩

/-- What a line of the message does: it goes on, or ends. -/
theorem matchUrcCont_cases (took : c.matchUrcCont = some (d, npull)) :
    d = c ∨ ∃ urc buf line, c.currentUrc = some urc ∧ (d = c.addUrcLine urc buf line ∨
      d = (c.addUrcLine urc buf line).endUrc { urc with lines := urc.lines ++ [line] }) := by
  unfold matchUrcCont at took
  split at took
  · cases took; exact .inl rfl
  · rename_i stop found
    obtain ⟨urc, current, took⟩ := Option.bind_eq_some_iff.mp took
    obtain ⟨detectEnd, detects, took⟩ := Option.bind_eq_some_iff.mp took
    refine .inr ⟨urc, c.buf.set stop 0, cString (c.buf.set stop 0), current, ?_⟩
    simp only [Option.some.injEq, Prod.mk.injEq] at took
    obtain ⟨rfl, -⟩ := took
    split
    · exact .inr rfl
    · exact .inl rfl

/-- A line is added to the current request. -/
theorem Sound.addLine (sound : Sound c) {req : Req} (current : c.currentReq = some req) (buf line : Octets) :
    Sound (c.addLine req buf line) where
  urc := sound.urc
  asked _ := rfl
  unasked overlap := by
    have none := sound.unasked overlap
    rw [current] at none
    cases none
  timer := sound.timer
  alone reading := by
    have none := sound.alone reading
    rw [current] at none
    cases none
  detects := sound.detects
  pdu sms := by
    have some := sound.pdu sms
    rw [current] at some
    exact some
  waiting := sound.waiting
  tried := by
    rintro _ ⟨⟩
    obtain ⟨fits, attempts, left⟩ := sound.tried req current
    exact ⟨fits, attempts, left⟩
  done := sound.done

/-- The engine waits for the module to go on with the current request. -/
theorem Sound.goesOn (sound : Sound c) {state : CommState} {timeout : Timeout} (asked : state.asked)
    (silent : state.readsUrc = false) (timed : timeout = .keep ∧ c.state.timed ∨ ∃ time, timeout = .start time)
    (current : c.currentReq.isSome) (idle : c.currentUrc = none)
    (sms : state = .awaitingSmsEcho → (c.currentReq.bind Req.smsTextPdu).isSome) :
    Sound (c.changeState state timeout) where
  urc := by simp [idle, silent]
  asked _ := current
  unasked overlap := by
    have apart : ∀ state : CommState, state.asked → state.unasked = false := by
      intro state asked
      cases state <;> first | rfl | cases asked
    simp [apart state asked] at overlap
  timer := by
    have runs : state.timed = true := by rw [CommState.timed, asked]; rfl
    rw [changeState_state, runs, changeState_pending]
    rcases timed with ⟨rfl, before⟩ | ⟨time, rfl⟩
    · exact sound.timer.trans before
    · rfl
  alone reading := by
    have state : state = .readingUrc := reading
    rw [state] at silent
    cases silent
  detects := by simp [idle]
  pdu := sms
  waiting := sound.waiting
  tried := sound.tried
  done := sound.done

theorem Sound.matchResponse (sound : Sound c) (reading : c.state = .readingResponse)
    (took : c.matchResponse = some (d, npull)) : Sound d := by
  have idle : c.currentUrc = none := sound.quiet (by rw [reading]; rfl)
  obtain ⟨req, current, rfl | ⟨-, rfl⟩ | ⟨pdu, sms, rfl⟩ | ⟨buf, line, rfl | ⟨err, rfl⟩⟩⟩ := matchResponse_cases took
  · exact sound
  · exact sound.frame
  · have answered : Sound (c.write pdu) := sound.frame
    refine answered.goesOn rfl rfl (.inr ⟨_, rfl⟩) ?_ idle fun _ => ?_
    · exact Option.isSome_of_mem current
    · rw [write_currentReq, current]
      exact Option.isSome_of_mem sms
  · exact sound.addLine current buf line
  · have tried := sound.tried req current
    exact (sound.addLine current buf line).finish tried.sent_le (.inl rfl) idle

/-- A message of several lines begins. -/
theorem Sound.readsUrc (sound : Sound c) {urc : Urc} (detects : urc.urcClass.detectEnd.isSome) {state : CommState}
    {timeout : Timeout} (place : c.state = .idle ∧ state = .readingUrc ∨
      c.state = .awaitingEcho ∧ state = .awaitingEchoReadingUrc) :
    Sound { { c with currentUrc := some urc }.changeState state timeout with pending := true } := by
  obtain ⟨before, rfl⟩ | ⟨before, rfl⟩ := place
  · have free : c.currentReq = none := sound.unasked (by rw [before]; rfl)
    constructor
    · exact ⟨rfl, nofun, nofun, rfl⟩
    · exact fun _ => free
    · rintro _ ⟨⟩
      exact detects
    · exact nofun
    · exact sound.waiting
    · exact sound.tried
    · exact sound.done
  · have busy : c.currentReq.isSome := sound.asked (by rw [before]; rfl)
    constructor
    · exact ⟨rfl, fun _ => busy, nofun, rfl⟩
    · exact nofun
    · rintro _ ⟨⟩
      exact detects
    · exact nofun
    · exact sound.waiting
    · exact sound.tried
    · exact sound.done

/-- The first line of a message. -/
theorem Sound.beginUrc (sound : Sound c) (reading : c.state = .idle ∨ c.state = .awaitingEcho) (urc : Urc) :
    Sound (c.beginUrc urc) := by
  have idle : c.currentUrc = none := sound.quiet (by rcases reading with state | state <;> rw [state] <;> rfl)
  have again : Sound (if c.state = .awaitingEcho then c.changeState .awaitingEcho echoTimeout else c) := by
    split
    · rename_i awaits
      exact sound.goesOn rfl rfl (.inr ⟨_, rfl⟩) (sound.asked (by rw [awaits]; rfl)) idle nofun
    · exact sound
  rw [Comm.beginUrc]
  cases detects : urc.urcClass.detectEnd with
  | none => exact again.frame
  | some detectEnd =>
    have ends : urc.urcClass.detectEnd.isSome := Option.isSome_of_mem detects
    rcases reading with state | state
    · simp only [state, reduceCtorEq, if_false] at again ⊢
      exact again.readsUrc ends (.inl ⟨state, rfl⟩)
    · simp only [state, if_true, changeState_state] at again ⊢
      exact again.readsUrc ends (.inr ⟨rfl, rfl⟩)

theorem Sound.matchUrc (sound : Sound c) (reading : c.state = .idle ∨ c.state = .awaitingEcho)
    (took : c.matchUrc = some (d, npull)) : Sound d := by
  obtain ⟨buf, rfl⟩ | ⟨buf, urc, rfl⟩ := matchUrc_cases took
  · exact sound.frame
  · have cut : Sound { c with buf := buf } := sound.frame
    exact cut.beginUrc reading urc

/-- Another line of the message. -/
theorem Sound.addUrcLine (sound : Sound c) {urc : Urc} (current : c.currentUrc = some urc) (buf line : Octets) :
    Sound (c.addUrcLine urc buf line) where
  urc := by
    have some := sound.urc
    rw [current] at some
    exact some
  asked := sound.asked
  unasked := sound.unasked
  timer := by
    have runs : (c.state.timed || c.state == .awaitingEchoReadingUrc) = c.state.timed := by
      cases c.state <;> rfl
    rw [addUrcLine_pending, sound.timer]
    exact runs
  alone := sound.alone
  detects := by
    rintro _ ⟨⟩
    exact sound.detects urc current
  pdu := sound.pdu
  waiting := sound.waiting
  tried := sound.tried
  done := sound.done

/-- The message has ended. -/
theorem Sound.endUrc (sound : Sound c) (reading : c.state = .readingUrc ∨ c.state = .awaitingEchoReadingUrc)
    (urc : Urc) : Sound (c.endUrc urc) := by
  rw [Comm.endUrc]
  rcases reading with state | state
  · have free : c.currentReq = none := sound.alone state
    simp only [queueUrc_state, state, reduceCtorEq, if_false]
    constructor
    · exact ⟨rfl, nofun, fun _ => free, rfl⟩
    · exact fun _ => free
    · exact nofun
    · exact nofun
    · exact sound.waiting
    · exact sound.tried
    · exact sound.done
  · have busy : c.currentReq.isSome := sound.asked (by rw [state]; rfl)
    simp only [queueUrc_state, state, if_true]
    constructor
    · exact ⟨rfl, fun _ => busy, nofun, rfl⟩
    · exact nofun
    · exact nofun
    · exact nofun
    · exact sound.waiting
    · exact sound.tried
    · exact sound.done

theorem Sound.matchUrcCont (sound : Sound c) (reading : c.state = .readingUrc ∨ c.state = .awaitingEchoReadingUrc)
    (took : c.matchUrcCont = some (d, npull)) : Sound d := by
  obtain rfl | ⟨urc, buf, line, current, rfl | rfl⟩ := matchUrcCont_cases took
  · exact sound
  · exact sound.addUrcLine current buf line
  · exact (sound.addUrcLine current buf line).endUrc reading _

/-- What all was sent of has come back. -/
theorem Sound.echoed (sound : Sound c) (asked : c.state.asked) (silent : c.state.readsUrc = false) {state : CommState}
    {timeout : Timeout} (timed : timeout = .keep ∨ ∃ time, timeout = .start time)
    (next : state = .readingResponse ∨ state = .awaitingSmsEcho1a) : Sound (c.changeState state timeout) := by
  have runs : c.state.timed := by rw [CommState.timed, asked]; rfl
  have shape : state.asked ∧ state.readsUrc = false ∧ state ≠ .awaitingSmsEcho := by
    rcases next with rfl | rfl
    · decide
    · decide
  obtain ⟨asked', silent', other⟩ := shape
  exact sound.goesOn asked' silent' (timed.imp_left fun same => ⟨same, runs⟩) (sound.asked asked) (sound.quiet silent)
    fun same => absurd same other

theorem Sound.matchBuffer (sound : Sound c) {nread : Nat} (took : c.matchBuffer nread = some (d, npull)) : Sound d := by
  unfold Comm.matchBuffer at took
  split at took
  · cases took; exact sound
  · cases took; exact sound
  · cases took; exact sound
  · cases took; exact sound
  · exact sound.matchUrc (.inl ‹_›) took
  · rename_i state
    obtain ⟨req, current, took⟩ := Option.bind_eq_some_iff.mp took
    simp only at took
    split at took
    · cases took
      exact sound.echoed (by rw [state]; rfl) (by rw [state]; rfl) (.inr ⟨_, rfl⟩) (.inl rfl)
    split at took
    · exact sound.matchUrc (.inr state) took
    · cases took; exact sound
  · exact sound.matchUrcCont (.inl ‹_›) took
  · exact sound.matchUrcCont (.inr ‹_›) took
  · rename_i state
    obtain ⟨pdu, current, took⟩ := Option.bind_eq_some_iff.mp took
    simp only at took
    split at took
    · cases took
      have written : Sound (c.write [0x1a]) := sound.frame
      exact written.echoed (by rw [write_state, state]; rfl) (by rw [write_state, state]; rfl) (.inl rfl) (.inr rfl)
    · cases took; exact sound
  · rename_i state
    simp only at took
    split at took
    · obtain ⟨req, current, took⟩ := Option.bind_eq_some_iff.mp took
      cases took
      exact sound.echoed (by rw [state]; rfl) (by rw [state]; rfl) (.inr ⟨_, rfl⟩) (.inl rfl)
    · cases took; exact sound
  · exact sound.matchResponse ‹_› took

theorem Sound.scan (sound : Sound c) {nread : Nat} (took : c.scan nread = some d) : Sound d := by
  obtain ⟨⟨matched, npull⟩, took, rest⟩ := Option.bind_eq_some_iff.mp took
  have kept : Sound matched := sound.matchBuffer took
  simp only at rest
  split at rest
  · cases rest; exact kept.frame
  · cases rest; exact kept.frame

/-! ## Requests and the timer -/

theorem Sound.flushRequests (sound : Sound c) : Sound c.flushRequests := by
  have empty : Sound { c with requestsQueue := [] } := { sound with waiting := nofun }
  have waiting := sound.waiting
  unfold Comm.flushRequests
  generalize c.requestsQueue = queue at waiting
  generalize { c with requestsQueue := [] } = flushed at empty
  induction queue generalizing flushed with
  | nil => exact empty
  | cons req rest ih =>
    refine ih (fun other member => waiting other (List.mem_cons_of_mem _ member)) _ ?_
    have unsent := (waiting req List.mem_cons_self).unsent
    refine { empty with done := fun other member => ?_ }
    rcases mem_completed member with before | same
    · exact empty.done other before
    · omega

theorem Sound.processNextRequest (sound : Sound c) (idle : c.state = .idle)
    (took : c.processNextRequest = some d) : Sound d := by
  unfold Comm.processNextRequest at took
  split at took
  · cases took
  split at took
  · cases took; exact sound
  · rename_i req rest queue
    cases took
    have waiting := sound.waiting
    rw [queue] at waiting
    obtain ⟨fits, unsent, untried⟩ := waiting req List.mem_cons_self
    have left : Sound { c with requestsQueue := rest } :=
      { sound with waiting := fun other member => waiting other (List.mem_cons_of_mem _ member) }
    exact left.transmit fits (by omega) (by omega) (sound.quiet (by rw [idle]; rfl))

/-- The module is given up for a while: what it was sending is forgotten. -/
theorem Sound.resynchronized (sound : Sound c) {buf : Octets} :
    Sound { { c with currentUrc := none }.changeState .recovering (.start (1 * sec)) with buf := buf } where
  urc := rfl
  asked := nofun
  unasked := nofun
  timer := rfl
  alone := nofun
  detects := nofun
  pdu := nofun
  waiting := sound.waiting
  tried := sound.tried
  done := sound.done

theorem Sound.timerFired (sound : Sound c) (took : { c with pending := false }.timerFired = some d) : Sound d := by
  unfold Comm.timerFired at took
  have still (untimed : c.state.timed = false) : Sound { c with pending := false } :=
    { sound with timer := untimed.symm }
  split at took
  · rename_i state
    have idle : c.currentUrc = none := sound.quiet (by rw [show c.state = _ from state]; rfl)
    split at took
    · rename_i free
      cases took
      constructor
      · exact ⟨by simp [idle]; rfl, nofun, fun _ => free, rfl⟩
      · exact nofun
      · exact sound.detects
      · exact nofun
      · exact sound.waiting
      · exact sound.tried
      · exact sound.done
    · rename_i req current
      obtain ⟨fits, attempts, left⟩ := sound.tried req current
      simp only at took
      split at took
      · rename_i exhausted
        cases took
        exact sound.finish (by simp only; omega) (.inr rfl) idle
      · rename_i more
        cases took
        exact sound.transmit fits (by simp only; omega) (by simp only; omega) idle
  iterate 6
    · cases took
      exact sound.resynchronized.frame
  iterate 4
    · rename_i state
      cases took
      exact still (by rw [show c.state = _ from state]; rfl)

theorem Sound.reqMake (sound : Sound c) (timeout : Int) (smsPdu printed : Octets) :
    Sound (c.reqMake timeout smsPdu printed) := by
  unfold Comm.reqMake
  split
  · exact sound
  · rename_i fits
    refine { sound with waiting := fun req member => ?_ }
    rcases List.mem_append.mp member with before | last
    · exact sound.waiting req before
    · rw [List.mem_singleton.mp last]
      exact ⟨by rw [List.length_append]; exact Nat.lt_of_not_le fits, rfl, rfl⟩

/-! ## Runs -/

/-- The engine is not closed while it reads a message of several lines, nor opened
again when it was closed with a request in hand. -/
def ClosesClean (c : Comm) : Event → Prop
  | .message .close => c.state.readsUrc = false
  | .open => c.currentReq = none
  | _ => True

instance (c : Comm) (e : Event) : Decidable (ClosesClean c e) :=
  match e with
  | .message .close => inferInstanceAs (Decidable (_ = _))
  | .open => inferInstanceAs (Decidable (_ = _))
  | .make .. | .timer | .requests | .message .refresh | .message .init | .read _ | .scan | .exit => isTrue trivial

theorem handle_of_step (took : c.step e = some d) : c.enabled e ∧ c.handle e = some d := by
  unfold step at took
  split at took
  · exact ⟨‹_›, took⟩
  · cases took

theorem step_of_enabled (enabled : c.enabled e) : c.step e = c.handle e := if_pos enabled

theorem step_sound (sound : Sound c) (clean : ClosesClean c e) (took : c.step e = some d) : Sound d := by
  obtain ⟨enabled, took⟩ := handle_of_step took
  have resting (state : CommState) (ends : state = .closing ∨ state = .closed ∨ state = .idle ∧ c.currentReq = none)
      (idle : c.currentUrc = none) : Sound (c.changeState state .stop) := by
    obtain rfl | rfl | ⟨rfl, free⟩ := ends
    · exact { sound with urc := by simp [idle]; rfl, asked := nofun, unasked := nofun, timer := rfl, alone := nofun, pdu := nofun }
    · exact { sound with urc := by simp [idle]; rfl, asked := nofun, unasked := nofun, timer := rfl, alone := nofun, pdu := nofun }
    · exact { sound with urc := by simp [idle]; rfl, asked := nofun, unasked := fun _ => free, timer := rfl, alone := nofun, pdu := nofun }
  cases e with
  | make timeout smsPdu printed => cases took; exact sound.reqMake timeout smsPdu printed
  | «open» =>
    cases took
    have state : c.state = .closed := beq_iff_eq.mp enabled
    exact resting .idle (.inr (.inr ⟨rfl, clean⟩)) (sound.quiet (by rw [state]; rfl))
  | timer => exact sound.timerFired took
  | requests =>
    simp only [handle] at took
    split at took
    · exact sound.processNextRequest ‹_› took
    split at took
    · cases took; exact sound.flushRequests
    · cases took; exact sound
  | message message =>
    cases message with
    | close => cases took; exact resting .closing (.inl rfl) (sound.quiet clean)
    | refresh => cases took; exact sound
    | init => cases took; exact sound
  | read chunk => cases took; exact sound.frame
  | scan =>
    obtain ⟨nread, -, took⟩ := Option.bind_eq_some_iff.mp took
    exact sound.scan took
  | exit =>
    cases took
    have state : c.state = .closing := beq_iff_eq.mp enabled
    exact resting .closed (.inr (.inl rfl)) (sound.quiet (by rw [state]; rfl))

theorem opened_sound (urcClasses : List UrcClass) : Sound (opened urcClasses) where
  urc := rfl
  asked := nofun
  unasked _ := rfl
  timer := rfl
  alone _ := rfl
  detects := nofun
  pdu := nofun
  waiting := nofun
  tried := nofun
  done := nofun

/-! ## No assertion fails -/

theorem matchUrc_isSome (quiet : c.currentUrc = none) : c.matchUrc.isSome := by
  unfold matchUrc
  split
  · rfl
  split
  · rfl
  · simp only [quiet, Option.isSome_none, Bool.false_eq_true, if_false]
    split <;> rfl

theorem matchResponse_isSome (busy : c.currentReq.isSome) : c.matchResponse.isSome := by
  obtain ⟨req, current⟩ := Option.isSome_iff_exists.mp busy
  rw [matchResponse, current, Option.bind_some]
  split
  · rfl
  split
  · split <;> rfl
  split
  · rfl
  · simp only
    split <;> rfl

theorem Sound.matchUrcCont_isSome (sound : Sound c) (reading : c.state.readsUrc) : c.matchUrcCont.isSome := by
  have busy := sound.urc.trans reading
  obtain ⟨urc, current⟩ := Option.isSome_iff_exists.mp busy
  obtain ⟨detectEnd, detects⟩ := Option.isSome_iff_exists.mp (sound.detects urc current)
  unfold Comm.matchUrcCont
  split
  · rfl
  · rw [current, Option.bind_some, detects, Option.bind_some]
    rfl

theorem Sound.matchBuffer_isSome (sound : Sound c) (nread : Nat) : (c.matchBuffer nread).isSome := by
  unfold Comm.matchBuffer
  split
  · rfl
  · rfl
  · rfl
  · rfl
  · rename_i state
    exact matchUrc_isSome (sound.quiet (by rw [state]; rfl))
  · rename_i state
    obtain ⟨req, current⟩ := Option.isSome_iff_exists.mp (sound.asked (by rw [state]; rfl))
    rw [current, Option.bind_some]
    simp only
    split
    · rfl
    split
    · exact matchUrc_isSome (sound.quiet (by rw [state]; rfl))
    · rfl
  · rename_i state
    exact sound.matchUrcCont_isSome (by rw [state]; rfl)
  · rename_i state
    exact sound.matchUrcCont_isSome (by rw [state]; rfl)
  · rename_i state
    obtain ⟨pdu, current⟩ := Option.isSome_iff_exists.mp (sound.pdu state)
    rw [current, Option.bind_some]
    simp only
    split <;> rfl
  · rename_i state
    obtain ⟨req, current⟩ := Option.isSome_iff_exists.mp (sound.asked (by rw [state]; rfl))
    simp only
    split
    · rw [current]; rfl
    · rfl
  · rename_i state
    exact matchResponse_isSome (sound.asked (by rw [state]; rfl))

theorem Sound.timerFired_isSome (sound : Sound c) : { c with pending := false }.timerFired.isSome := by
  unfold Comm.timerFired
  split
  · split
    · rfl
    · rename_i req current
      have fits := (sound.tried req current).fits
      simp only [if_pos fits]
      split <;> rfl
  all_goals rfl

/-- Whatever can happen, can be handled. -/
theorem Sound.handle_isSome (sound : Sound c) (enabled : c.enabled e) : (c.handle e).isSome := by
  cases e with
  | timer => exact sound.timerFired_isSome
  | requests =>
    simp only [handle]
    split
    · rename_i state
      rw [Comm.processNextRequest, sound.unasked (by rw [state]; rfl)]
      simp only [Option.isSome_none, Bool.false_eq_true, if_false]
      split <;> rfl
    split <;> rfl
  | message message => cases message <;> rfl
  | scan =>
    obtain ⟨nread, place⟩ := Option.isSome_iff_exists.mp enabled
    obtain ⟨matched, took⟩ := Option.isSome_iff_exists.mp (sound.matchBuffer_isSome nread)
    rw [handle, place, Option.bind_some, Comm.scan, took, Option.bind_some]
    simp only
    split <;> rfl
  | _ => rfl

end Comm
open Comm

/-- In every run of an engine that is closed cleanly, its state, its two pointers and the
timer agree, no assertion fails, and no request is sent more than three times. -/
theorem engine_is_consistent_of_run {urcClasses : List UrcClass} {es : List Event} {c : Comm}
    (run : Run step ClosesClean (opened urcClasses) es c) :
    Consistent c ∧ (∀ e, c.enabled e → (c.handle e).isSome) ∧ ∀ req ∈ c.requests, req.sent ≤ 3 := by
  have sound : Sound c := run.invariant Sound step_sound (opened_sound urcClasses)
  refine ⟨sound.toConsistent, fun e => sound.handle_isSome, fun req member => ?_⟩
  rcases List.mem_append.mp member with known | waits
  · rcases List.mem_append.mp known with done | current
    · exact sound.done req done
    · exact (sound.tried req (Option.mem_toList.mp current)).sent_le
  · have unsent := (sound.waiting req waits).unsent
    omega

/-- A message of two lines, as the modules are told to send them. -/
def cmt : UrcClass := { code := ascii "+CMT: ", detectEnd := some fun _ => true }

/-- A request is sent three times, to no avail. -/
theorem unanswered_request_is_given_up :
    ∃ c, follow step ClosesClean (opened [cmt])
        [.make 0 [] (ascii "AT"), .requests, .timer, .timer, .timer, .timer, .timer, .timer] = some c ∧
      c.state = .failed ∧ c.requests.map Req.sent = [3] ∧ Consistent c ∧ ∀ req ∈ c.requests, req.sent ≤ 3 := by
  refine ⟨_, rfl, rfl, rfl, ?_⟩
  have held := engine_is_consistent_of_run (follow_run step ClosesClean (opened [cmt])
    [.make 0 [] (ascii "AT"), .requests, .timer, .timer, .timer, .timer, .timer, .timer] rfl)
  exact ⟨held.1, held.2.2⟩

/-- Closed in the middle of a message, the engine keeps it; and opened again after it was
closed with a request in hand, it is idle with that request. -/
theorem closing_keeps_the_message_and_the_request :
    (∃ c, follow step Any (opened [cmt])
        [.read (ascii "\r\n+CMT: ,23\r\n"), .scan, .scan, .message .close] = some c ∧
      c.state = .closing ∧ c.currentUrc.isSome ∧ ¬ Consistent c) ∧
    ∃ c, follow step Any (opened [cmt])
        [.make 0 [] (ascii "AT"), .requests, .message .close, .exit, .open] = some c ∧
      c.state = .idle ∧ ¬ Consistent c ∧ c.enabled .requests ∧ c.handle .requests = none := by
  refine ⟨⟨_, rfl, rfl, rfl, fun claim => ?_⟩, ⟨_, rfl, rfl, fun claim => ?_, rfl, rfl⟩⟩
  · exact absurd claim.urc (by decide)
  · exact absurd (claim.unasked rfl) (by decide)

end Vstuff.Vgsm
