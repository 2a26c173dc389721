import Vstuff.Vgsm.Engine

/-! The lines of a request, against those that were received since its echo was matched last. What
was received is read off what the engine has done, not off its requests. -/
namespace Vstuff.Vgsm
open Transition
open Lapd (Octets)
set_option linter.all false

/-- What is known from the outside: the state, and the lines since an echo was matched. -/
structure Heard where
  state : CommState
  lines : List Octets

/-- An echo is matched where the engine goes from waiting for it to reading the response. -/
def Heard.hear (heard : Heard) : Output → Heard
  | .state state _ => {
      state := state
      lines := if heard.state = .awaitingEcho ∧ state = .readingResponse then [] else heard.lines }
  | .line text => { heard with lines := heard.lines ++ [text] }
  | .complete .. | .urc _ | .write _ => heard

def heard (outputs : List Output) : Heard := outputs.foldl Heard.hear ⟨.closed, []⟩

theorem heard_append (outputs : List Output) (output : Output) :
    heard (outputs ++ [output]) = (heard outputs).hear output := by
  rw [heard, List.foldl_append]
  rfl

/-- The module is answering the current request. -/
def CommState.answering : CommState → Bool
  | .readingResponse | .awaitingSmsEcho | .awaitingSmsEcho1a => true
  | _ => false

/-- The module is to echo the current request. -/
def CommState.echoing : CommState → Bool
  | .awaitingEcho | .awaitingEchoReadingUrc => true
  | _ => false

namespace Comm
variable {c d : Comm} {e : Event} {npull : Nat}

/-- No request that has collected lines is sent again: a timeout that retransmits finds none. -/
def Fresh (c : Comm) (e : Event) : Prop :=
  e = .timer → c.state = .recovering → ∀ req ∈ c.currentReq, req.retransmitCnt ≠ 1 → req.lines = []

instance (c : Comm) (e : Event) : Decidable (Fresh c e) :=
  inferInstanceAs (Decidable (_ → _ → ∀ req ∈ c.currentReq, _))

/-- The lines of the current request are those that were heard, and none before its echo is. -/
structure Collects (c : Comm) : Prop where
  state : (heard c.outputs).state = c.state
  answer : c.state.answering → ∀ req ∈ c.currentReq, req.lines = (heard c.outputs).lines
  echo : c.state.echoing → ∀ req ∈ c.currentReq, req.lines = []
  waiting : ∀ req ∈ c.requestsQueue, req.lines = []

/-- The request that is done with gets the lines that were heard. -/
def CompletesHeard (c d : Comm) : Prop :=
  d.completionQueue = c.completionQueue ∨
    ∃ req, d.completionQueue = c.completionQueue ++ [req] ∧ req.lines = (heard d.outputs).lines

/-! ## What each function does -/

/-- The buffers, the timer and the queues of others do not matter, nor what cannot be heard. -/
theorem Collects.of_same (collects : Collects c) (same : heard d.outputs = heard c.outputs) (state : d.state = c.state)
    (current : d.currentReq = c.currentReq) (queue : d.requestsQueue = c.requestsQueue) : Collects d where
  state := by rw [same, state, collects.state]
  answer := by
    rw [same, state, current]
    exact collects.answer
  echo := by
    rw [state, current]
    exact collects.echo
  waiting := by
    rw [queue]
    exact collects.waiting

theorem heard_changeState (collects : Collects c) (state : CommState) (timeout : Timeout) :
    heard (c.changeState state timeout).outputs =
      ⟨state, if c.state = .awaitingEcho ∧ state = .readingResponse then [] else (heard c.outputs).lines⟩ := by
  rw [changeState_outputs, heard_append, Heard.hear, collects.state]

theorem Collects.changeState (collects : Collects c) {state : CommState} {timeout : Timeout}
    (answers : state.answering → c.state.answering ∨ c.state = .awaitingEcho ∧ state = .readingResponse)
    (echoes : state.echoing → c.state.echoing) : Collects (c.changeState state timeout) where
  state := by rw [heard_changeState collects, changeState_state]
  answer answering req current := by
    rw [heard_changeState collects]
    rcases answers answering with before | echoed
    · have matched : ¬(c.state = .awaitingEcho ∧ state = .readingResponse) := by
        rintro ⟨waits, -⟩
        rw [waits] at before
        cases before
      rw [if_neg matched]
      exact collects.answer before req current
    · rw [if_pos echoed]
      exact collects.echo (by rw [echoed.1]; rfl) req current
  echo echoing := collects.echo (echoes echoing)
  waiting := collects.waiting

/-- A state in which the engine waits for neither an echo nor an answer. -/
theorem Collects.rest (collects : Collects c) {state : CommState} {timeout : Timeout} (answering : state.answering = false)
    (echoing : state.echoing = false) : Collects (c.changeState state timeout) := by
  apply collects.changeState
  · intro answers
    cases answering.symm.trans answers
  · intro echoes
    cases echoing.symm.trans echoes

theorem Collects.write (collects : Collects c) (octets : Octets) : Collects (c.write octets) :=
  collects.of_same (heard_append _ _) rfl rfl rfl

theorem heard_addLine (req : Req) (buf line : Octets) :
    heard (c.addLine req buf line).outputs = { heard c.outputs with lines := (heard c.outputs).lines ++ [line] } :=
  heard_append _ _

/-- A line is received and collected. -/
theorem Collects.addLine (collects : Collects c) {req : Req} (answers : c.state.answering) (current : c.currentReq = some req)
    (buf line : Octets) : Collects (c.addLine req buf line) where
  state := by
    rw [heard_addLine]
    exact collects.state
  answer := by
    rintro - _ ⟨⟩
    rw [heard_addLine, collects.answer answers req current]
  echo echoing := by
    have state : c.state.echoing = true := echoing
    revert answers state
    cases c.state <;> exact nofun
  waiting := collects.waiting

theorem heard_finish (collects : Collects c) (req : Req) {state : CommState} (err : Int) (other : state ≠ .readingResponse) :
    heard (c.finish req state err).outputs = ⟨state, (heard c.outputs).lines⟩ := by
  rw [finish_outputs, complete_outputs, heard_append, heard_changeState collects, if_neg (fun matched => other matched.2)]
  rfl

/-- There is no current request any more. -/
theorem Collects.finish (collects : Collects c) (req : Req) {state : CommState} (err : Int) (other : state ≠ .readingResponse) :
    Collects (c.finish req state err) where
  state := by
    rw [heard_finish collects req err other]
    rfl
  answer _ := nofun
  echo _ := nofun
  waiting := collects.waiting

/-- A request that has no lines is sent. -/
theorem Collects.transmit (collects : Collects c) {req : Req} (fresh : req.lines = []) : Collects (c.transmit req) where
  state := by
    rw [transmit_outputs, heard_changeState (collects.write _)]
    rfl
  answer := nofun
  echo := by
    rintro - _ ⟨⟩
    exact fresh
  waiting := collects.waiting

theorem Collects.matchResponse (collects : Collects c) (reading : c.state = .readingResponse)
    (took : c.matchResponse = some (d, npull)) : Collects d ∧ CompletesHeard c d := by
  have answers : c.state.answering := by
    rw [reading]
    rfl
  obtain ⟨req, current, rfl | ⟨-, rfl⟩ | ⟨pdu, -, rfl⟩ | ⟨buf, line, rfl | ⟨err, rfl⟩⟩⟩ := matchResponse_cases took
  · exact ⟨collects, .inl rfl⟩
  · exact ⟨collects.write _, .inl rfl⟩
  · exact ⟨(collects.write pdu).changeState (fun _ => .inl answers) nofun, .inl rfl⟩
  · exact ⟨collects.addLine answers current buf line, .inl rfl⟩
  · have added := collects.addLine answers current buf line
    have other : CommState.idle ≠ .readingResponse := nofun
    refine ⟨added.finish _ err other, .inr ⟨_, rfl, ?_⟩⟩
    rw [heard_finish added _ err other, heard_addLine]
    exact congrArg (· ++ [line]) (collects.answer answers req current)

/-- The first line of a message. -/
theorem Collects.beginUrc (collects : Collects c) (reading : c.state = .idle ∨ c.state = .awaitingEcho) (urc : Urc) :
    Collects (c.beginUrc urc) ∧ (c.beginUrc urc).completionQueue = c.completionQueue := by
  have queued (urc : Urc) (c : Comm) (collects : Collects c) : Collects (c.queueUrc urc) :=
    collects.of_same (heard_append _ _) rfl rfl rfl
  have begun (urc : Urc) (c : Comm) (collects : Collects c) : Collects { c with currentUrc := some urc } :=
    collects.of_same rfl rfl rfl rfl
  have timed (c : Comm) (collects : Collects c) : Collects { c with pending := true } := collects.of_same rfl rfl rfl rfl
  rw [Comm.beginUrc]
  rcases reading with state | state
  · have idle : ¬c.state = .awaitingEcho := by
      rw [state]
      decide
    rw [if_neg idle]
    cases urc.urcClass.detectEnd with
    | none => exact ⟨queued urc c collects, rfl⟩
    | some detectEnd =>
      dsimp only
      rw [if_neg idle]
      exact ⟨timed _ ((begun urc c collects).rest rfl rfl), rfl⟩
  · have echoes : c.state.echoing := by
      rw [state]
      rfl
    have again : Collects (c.changeState .awaitingEcho echoTimeout) :=
      collects.changeState (fun answers => by cases answers) fun _ => echoes
    rw [if_pos state]
    cases urc.urcClass.detectEnd with
    | none => exact ⟨queued urc _ again, rfl⟩
    | some detectEnd =>
      have still : ({ c.changeState .awaitingEcho echoTimeout with currentUrc := some urc } : Comm).state = .awaitingEcho := rfl
      dsimp only
      rw [if_pos still]
      exact ⟨timed _ ((begun urc _ again).changeState (fun answers => by cases answers) fun _ => rfl), rfl⟩

theorem Collects.matchUrc (collects : Collects c) (reading : c.state = .idle ∨ c.state = .awaitingEcho)
    (took : c.matchUrc = some (d, npull)) : Collects d ∧ CompletesHeard c d := by
  obtain ⟨buf, rfl⟩ | ⟨buf, urc, rfl⟩ := matchUrc_cases took
  · exact ⟨collects.of_same rfl rfl rfl rfl, .inl rfl⟩
  · have cut : Collects { c with buf := buf } := collects.of_same rfl rfl rfl rfl
    obtain ⟨begun, queue⟩ := cut.beginUrc reading urc
    exact ⟨begun, .inl queue⟩

theorem Collects.matchUrcCont (collects : Collects c) (took : c.matchUrcCont = some (d, npull)) :
    Collects d ∧ CompletesHeard c d := by
  obtain rfl | ⟨urc, buf, line, current, rfl | rfl⟩ := matchUrcCont_cases took
  · exact ⟨collects, .inl rfl⟩
  · exact ⟨collects.of_same rfl rfl rfl rfl, .inl rfl⟩
  · have ended : Collects { (c.addUrcLine urc buf line).queueUrc { urc with lines := urc.lines ++ [line] } with
        currentUrc := none } := collects.of_same (heard_append _ _) rfl rfl rfl
    rw [Comm.endUrc]
    dsimp only
    split
    · next waits =>
      exact ⟨ended.changeState (fun answers => by cases answers) fun _ => by rw [waits]; rfl, .inl rfl⟩
    · exact ⟨ended.rest rfl rfl, .inl rfl⟩

theorem Collects.matchBuffer (collects : Collects c) {nread : Nat} (took : c.matchBuffer nread = some (d, npull)) :
    Collects d ∧ CompletesHeard c d := by
  unfold Comm.matchBuffer at took
  split at took
  · cases took
    exact ⟨collects, .inl rfl⟩
  · cases took
    exact ⟨collects, .inl rfl⟩
  · cases took
    exact ⟨collects, .inl rfl⟩
  · cases took
    exact ⟨collects, .inl rfl⟩
  · exact collects.matchUrc (.inl ‹_›) took
  · next waits =>
    obtain ⟨req, current, took⟩ := Option.bind_eq_some_iff.mp took
    dsimp only at took
    split at took
    · cases took
      exact ⟨collects.changeState (fun _ => .inr ⟨waits, rfl⟩) nofun, .inl rfl⟩
    split at took
    · exact collects.matchUrc (.inr waits) took
    · cases took
      exact ⟨collects, .inl rfl⟩
  · exact collects.matchUrcCont took
  · exact collects.matchUrcCont took
  · next waits =>
    obtain ⟨pdu, -, took⟩ := Option.bind_eq_some_iff.mp took
    dsimp only at took
    split at took
    · cases took
      exact ⟨(collects.write _).changeState (fun _ => .inl (by rw [write_state, waits]; rfl)) nofun, .inl rfl⟩
    · cases took
      exact ⟨collects, .inl rfl⟩
  · next waits =>
    dsimp only at took
    split at took
    · obtain ⟨req, -, took⟩ := Option.bind_eq_some_iff.mp took
      cases took
      exact ⟨collects.changeState (fun _ => .inl (by rw [waits]; rfl)) nofun, .inl rfl⟩
    · cases took
      exact ⟨collects, .inl rfl⟩
  · exact collects.matchResponse ‹_› took

theorem Collects.scan (collects : Collects c) {nread : Nat} (took : c.scan nread = some d) :
    Collects d ∧ CompletesHeard c d := by
  obtain ⟨⟨matched, npull⟩, took, rest⟩ := Option.bind_eq_some_iff.mp took
  obtain ⟨kept, completes⟩ := collects.matchBuffer took
  dsimp only at rest
  split at rest
  · cases rest
    exact ⟨kept.of_same rfl rfl rfl rfl, completes⟩
  · cases rest
    exact ⟨kept.of_same rfl rfl rfl rfl, completes⟩

theorem Collects.flushRequests (collects : Collects c) : Collects c.flushRequests := by
  have empty : Collects { c with requestsQueue := [] } := { collects with waiting := nofun }
  unfold Comm.flushRequests
  generalize c.requestsQueue = queue
  generalize { c with requestsQueue := [] } = flushed at empty
  induction queue generalizing flushed with
  | nil => exact empty
  | cons req rest ih => exact ih _ (empty.of_same (heard_append _ _) rfl rfl rfl)

theorem Collects.processNextRequest (collects : Collects c) (took : c.processNextRequest = some d) : Collects d := by
  unfold Comm.processNextRequest at took
  split at took
  · cases took
  split at took
  · cases took
    exact collects
  · next req rest queue =>
    cases took
    have waiting := collects.waiting
    rw [queue] at waiting
    have left : Collects { c with requestsQueue := rest } :=
      { collects with waiting := fun other member => waiting other (List.mem_cons_of_mem _ member) }
    exact left.transmit (waiting req List.mem_cons_self)

/-- The module is given up for a while. -/
theorem Collects.recovers (collects : Collects c) {buf : Octets} :
    Collects (Comm.sendRecoverySequence
      { { c with currentUrc := none }.changeState .recovering (.start (1 * sec)) with buf := buf }) := by
  have silent : Collects { c with currentUrc := none } := collects.of_same rfl rfl rfl rfl
  have recovers : Collects (Comm.changeState { c with currentUrc := none } .recovering (.start (1 * sec))) :=
    silent.rest rfl rfl
  have emptied : Collects { { c with currentUrc := none }.changeState .recovering (.start (1 * sec)) with buf := buf } :=
    recovers.of_same rfl rfl rfl rfl
  exact emptied.write _

theorem Collects.timerFired (collects : Collects c) (fresh : Fresh c .timer)
    (took : { c with pending := false }.timerFired = some d) : Collects d := by
  have stopped : Collects { c with pending := false } := collects.of_same rfl rfl rfl rfl
  unfold Comm.timerFired at took
  split at took
  · next state =>
    split at took
    · cases took
      exact stopped.rest rfl rfl
    · next req current =>
      dsimp only at took
      split at took
      · cases took
        exact stopped.finish _ _ nofun
      · next more =>
        have attempts : req.retransmitCnt ≠ 1 := by
          intro last
          rw [last] at more
          exact more rfl
        split at took
        · cases took
          exact stopped.transmit (fresh rfl state req current attempts)
        · cases took
  iterate 6
    · cases took
      exact stopped.recovers
  iterate 4
    · cases took
      exact stopped

theorem step_collects (collects : Collects c) (fresh : Fresh c e) (took : c.step e = some d) : Collects d := by
  obtain ⟨-, took⟩ := handle_of_step took
  cases e with
  | make timeout smsPdu printed =>
    cases took
    unfold reqMake
    split
    · exact collects
    · refine { collects with waiting := fun req member => ?_ }
      rcases List.mem_append.mp member with before | last
      · exact collects.waiting req before
      · rw [List.mem_singleton.mp last]
  | «open» =>
    cases took
    exact collects.rest rfl rfl
  | timer => exact collects.timerFired fresh took
  | requests =>
    simp only [handle] at took
    split at took
    · exact collects.processNextRequest took
    split at took
    · cases took
      exact collects.flushRequests
    · cases took
      exact collects
  | message message =>
    cases message with
    | close =>
      cases took
      exact collects.rest rfl rfl
    | refresh | init =>
      cases took
      exact collects
  | read chunk =>
    cases took
    exact collects.of_same rfl rfl rfl rfl
  | scan =>
    obtain ⟨nread, -, took⟩ := Option.bind_eq_some_iff.mp took
    exact (collects.scan took).1
  | exit =>
    cases took
    exact collects.rest rfl rfl

theorem opened_collects (urcClasses : List UrcClass) : Collects (opened urcClasses) where
  state := rfl
  answer := nofun
  echo := nofun
  waiting := nofun

end Comm
open Comm

/-- In every run in which no request that has collected lines is sent again, a request that
completes with a final response has the lines that were received since its echo was matched last. -/
theorem lines_of_the_last_attempt {urcClasses : List UrcClass} {es : List Event} {c d : Comm} {req : Req}
    (run : Run step Fresh (opened urcClasses) es c) (took : c.step .scan = some d)
    (done : d.completionQueue = c.completionQueue ++ [req]) : req.lines = (heard d.outputs).lines := by
  have collects : Collects c := run.invariant Collects step_collects (opened_collects urcClasses)
  obtain ⟨-, took⟩ := handle_of_step took
  obtain ⟨nread, -, took⟩ := Option.bind_eq_some_iff.mp took
  obtain ⟨-, same | ⟨other, queue, lines⟩⟩ := collects.scan took
  · rw [done] at same
    exact absurd same (by simp)
  · rw [done] at queue
    obtain rfl : req = other := by simpa using queue
    exact lines

/-- A request whose answer has a line. -/
def oneAttempt : List Event :=
  [.make 0 [] (ascii "AT"), .requests, .read (ascii "AT\r"), .scan, .scan, .read (ascii "ready\r\n"), .scan, .scan,
    .read (ascii "OK\r\n")]

/-- The answer is cut off behind that line, and the request sent again. -/
def twoAttempts : List Event :=
  [.make 0 [] (ascii "AT"), .requests, .read (ascii "AT\r"), .scan, .scan, .read (ascii "ready\r\n"), .scan, .scan,
    .timer, .timer, .read (ascii "AT\r"), .scan, .scan, .read (ascii "OK\r\n")]

theorem one_attempt_has_its_lines : ∃ c d req, follow step Fresh (opened []) oneAttempt = some c ∧ c.step .scan = some d ∧
    d.completionQueue = c.completionQueue ++ [req] ∧ req.lines = (heard d.outputs).lines := by
  refine ⟨_, _, _, rfl, rfl, rfl, ?_⟩
  exact lines_of_the_last_attempt (follow_run step Fresh (opened []) oneAttempt rfl) rfl rfl

/-- The first line of the answer is one of the attempt before. -/
theorem two_attempts_mix_their_lines : ∃ c d req, follow step Any (opened []) twoAttempts = some c ∧
    c.step .scan = some d ∧ d.completionQueue = c.completionQueue ++ [req] ∧ req.lines ≠ (heard d.outputs).lines := by
  refine ⟨_, _, _, rfl, rfl, rfl, ?_⟩
  exact fun same => absurd same (by decide +kernel)

end Vstuff.Vgsm
