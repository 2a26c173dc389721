import Vstuff.Vgsm.Requests
import Vstuff.Vgsm.Monitor

/-! The PIN that is entered without anybody being asked (`vgsm_me_pin_check_and_input`), with
the engine its requests go through, the serial line and the SIM, which counts the attempts. -/
namespace Vstuff.Vgsm
open Transition Comm
open Lapd (Octets)
set_option linter.all false

/-- The line of `AT+CPIN="..."`, without what follows the quotation mark. -/
def cpinText : Octets := ascii "AT+CPIN=\""

/-- A PIN is entered. -/
def entersPin (command : Octets) : Bool := cpinText.isPrefixOf command

/-- Where `vgsm_me_pin_check_and_input` waits, for the request with that number. -/
inductive PinCheck where
  | out
  | spic (id retries : Nat)
  | cpinQuery (id : Nat)
  | cpin (id : Nat)
  deriving DecidableEq, Repr

/-- The ME with its engine, what is on its way to the module and back, and the attempts
the SIM has left. The commands are those written and not yet received. -/
structure Bench where
  comm : Comm
  check : PinCheck := .out
  status : Monitor.MeStatus := .waitingInitialization
  returned : Int := 0
  remainingAttempts : Int := 0
  commands : List Octets := []
  responses : Octets := []
  attempts : Nat := 3

namespace Bench

/-! ## The check -/

section
variable (pin : Octets) (w : Bench)

/-- `vgsm_req_make_wait`, for a text that is short enough. -/
def ask (timeout : Int) (text : Octets) (check : Nat → PinCheck) : Bench :=
  { w with comm := w.comm.reqMake timeout [] text, check := check w.comm.accepted }

def askSpic (retries : Nat) : Bench := w.ask (10 * sec) (ascii "AT^SPIC") (.spic · retries)

def askCpin : Bench := w.ask (20 * sec) (ascii "AT+CPIN?") .cpinQuery

/-- The check is left. -/
def leave (status : Monitor.MeStatus) (returned : Int) : Bench := { w with check := .out, status := status, returned := returned }

/-- `vgsm_me_initialize` has come to the check. -/
def begin : Bench := { w with status := .initializing }.askSpic 60

/-- `vgsm_req_make_wait_result`; a text that is too long is refused at once. -/
def enterPin : Bench :=
  let text := cpinText ++ pin ++ ascii "\""
  if (cString text).length ≥ 80 then w.leave .waitingPin (-1) else w.ask (180 * sec) text .cpin

/-- `atoi(text + strlen("^SPIC: "))` of the first line of the response. A shorter line is
followed by memory nobody knows. -/
def attemptsRead (req : Req) (behind : Int) : Int :=
  match req.lines.head? with
  | some text => if (ascii "^SPIC: ").length ≤ text.length then atoi (text.drop (ascii "^SPIC: ").length) else behind
  | none => behind

/-- AT^SPIC has its result. -/
def spicAnswered (retries : Nat) (behind : Int) (req : Req) : Bench :=
  if req.err = cmeErrorBase + 10 then w.leave .waitingSim (-1)
  else if req.err = cmeErrorBase + 262 then
    if retries - 1 = 0 then w.leave .failed (-1) else w.askSpic (retries - 1)
  else if req.err ≠ respOk then w.leave .failed (-1)
  else { w with remainingAttempts := attemptsRead req behind }.askCpin

/-- AT+CPIN? has its result. -/
def cpinQueryAnswered (req : Req) : Bench :=
  if req.err = cmeErrorBase + 10 then w.leave .waitingSim (-1)
  else if req.err = cmeErrorBase + 256 then w.askCpin
  else if req.err ≠ respOk then w.leave .failed (-1)
  else
    let text := req.lines.headD []
    if text = ascii "+CPIN: READY" then w.leave w.status 0
    else if text = ascii "+CPIN: SIM PIN" then
      if w.remainingAttempts < 3 then w.leave .waitingPin (-1)
      else if pin ≠ [] then w.enterPin pin
      else w.leave .waitingPin (-1)
    else if text ∈ [ascii "+CPIN: SIM PIN2", ascii "+CPIN: SIM PUK", ascii "+CPIN: SIM PUK2"] then w.leave .waitingPin (-1)
    else w.leave .failed (-1)

/-- `AT+CPIN="..."` has its result. -/
def cpinAnswered (req : Req) : Bench := if req.err ≠ respOk then w.leave .waitingPin (-1) else w.leave w.status 0

/-- The result of a request, when there is one. -/
def result (id : Nat) : Option Req := w.comm.completionQueue.find? (·.id == id)

/-- The check goes on with the result it has waited for. -/
def answered (behind : Int) : Option Bench :=
  match w.check with
  | .out => none
  | .spic id retries => (w.result id).map (w.spicAnswered retries behind)
  | .cpinQuery id => (w.result id).map (w.cpinQueryAnswered pin)
  | .cpin id => (w.result id).map w.cpinAnswered

end

/-! ## The module and the SIM -/

/-- A number as it is printed. -/
def decimal (n : Nat) : Octets := (Nat.toDigits 10 n).map fun digit => UInt8.ofNat digit.toNat

/-- The module echoes a command and answers it. The PIN is never entered, as it is wrong;
of the other commands nothing is known. -/
def response (attempts : Nat) (command other : Octets) : Octets :=
  if entersPin command then command ++ ascii "\r\n+CME ERROR: 16\r\n"
  else if command = ascii "AT^SPIC\r" then command ++ ascii "\r\n^SPIC: " ++ decimal attempts ++ ascii "\r\n\r\nOK\r\n"
  else if command = ascii "AT+CPIN?\r" then command ++ ascii "\r\n+CPIN: SIM PIN\r\n\r\nOK\r\n"
  else other

/-- What the engine has written to the module from the first state to the second. -/
def written (c d : Comm) : List Octets :=
  (d.outputs.drop c.outputs.length).filterMap fun
    | .write octets => some octets
    | _ => none

/-- The engine has moved on. -/
def moved (w : Bench) (c : Comm) : Bench := { w with comm := c, commands := w.commands ++ written w.comm c }

end Bench

/-- What can happen: the engine takes a step, an initialization comes to the check, the
check gets its result, the module takes a command, or one is lost, some octets of its
responses are lost, or it sends a message on its own. -/
inductive BenchEvent where
  | engine (e : Event)
  | begin
  | answered (behind : Int)
  | receive (other : Octets)
  | loseCommand
  | loseResponse (start count : Nat)
  | urc (line : Octets)
  deriving DecidableEq, Repr

namespace Bench

/-- One event. The requests of other threads enter no PIN, as none is typed in by hand, and
what the engine reads is what the module has sent. -/
def step (pin : Octets) (w : Bench) : BenchEvent → Option Bench
  | .engine e =>
    match e with
    | .make _ _ printed => if entersPin (cString printed) then none else (w.comm.step e).map w.moved
    | .read chunk =>
      if chunk.isPrefixOf w.responses then
        (w.comm.step e).map { w with responses := w.responses.drop chunk.length }.moved
      else none
    | _ => (w.comm.step e).map w.moved
  | .begin => if w.check = .out then some w.begin else none
  | .answered behind => w.answered pin behind
  | .receive other =>
    match w.commands with
    | [] => none
    | command :: commands => some { w with
        commands := commands
        responses := w.responses ++ response w.attempts command other
        attempts := if entersPin command then w.attempts - 1 else w.attempts }
  | .loseCommand => some { w with commands := w.commands.tail }
  | .loseResponse start count => some { w with responses := w.responses.take start ++ w.responses.drop (start + count) }
  | .urc line =>
    if w.comm.urcClasses.any (·.code.isPrefixOf line) then
      some { w with responses := w.responses ++ ascii "\r\n" ++ line ++ ascii "\r\n" }
    else none

/-- The SIM has all its attempts, and the engine has just been opened. -/
def start (urcClasses : List UrcClass) : Bench := { comm := Comm.opened urcClasses }

/-- The SIM has all its attempts, and no PIN is on its way to it. -/
structure Unspent (w : Bench) : Prop where
  attempts : 3 ≤ w.attempts
  commands : ∀ command ∈ w.commands, entersPin command = false

/-- A number of attempts that is read from an answer to AT^SPIC is still there. -/
def Answered (w : Bench) (behind : Int) : PinCheck → Prop
  | .spic id _ => ∀ req ∈ w.result id, req.err = respOk → 3 ≤ attemptsRead req behind → w.Unspent
  | _ => True

/-- The two things that go wrong: a PIN is sent again though it may have reached the module,
and a number of attempts is read that the SIM no longer has. -/
def Careful (w : Bench) : BenchEvent → Prop
  | .engine .timer =>
    ∀ req ∈ w.comm.currentReq, w.comm.state = .recovering → req.retransmitCnt ≠ 1 → entersPin req.request = true → w.Unspent
  | .answered behind => w.Answered behind w.check
  | _ => True

instance (w : Bench) : Decidable w.Unspent :=
  decidable_of_iff (3 ≤ w.attempts ∧ ∀ command ∈ w.commands, entersPin command = false)
    ⟨fun ⟨attempts, commands⟩ => ⟨attempts, commands⟩, fun ⟨attempts, commands⟩ => ⟨attempts, commands⟩⟩

instance (w : Bench) (behind : Int) : (check : PinCheck) → Decidable (w.Answered behind check)
  | .spic id _ => inferInstanceAs (Decidable (∀ req ∈ w.result id, _ → _ → _))
  | .out | .cpinQuery _ | .cpin _ => isTrue trivial

instance (w : Bench) : (event : BenchEvent) → Decidable (Careful w event)
  | .engine .timer => inferInstanceAs (Decidable (∀ req ∈ w.comm.currentReq, _ → _ → _ → _))
  | .answered behind => inferInstanceAs (Decidable (w.Answered behind w.check))
  | .engine (.make ..) | .engine .open | .engine .requests | .engine (.message _) | .engine (.read _) | .engine .scan
  | .engine .exit | .begin | .receive _ | .loseCommand | .loseResponse .. | .urc _ => isTrue trivial

/-! ## What the engine writes -/

section Engine
variable {c d : Comm} {e : Event} {npull : Nat}

/-- No text of a short message enters a PIN. -/
def Texts (c : Comm) : Prop :=
  ∀ req, req ∈ c.currentReq ∨ req ∈ c.requestsQueue → ∀ pdu ∈ req.smsTextPdu, entersPin pdu = false

/-- The engine goes on with the requests it has, and writes none of them. -/
structure Quiet (c d : Comm) : Prop where
  outputs : ∃ news, d.outputs = c.outputs ++ news ∧ ∀ octets, Output.write octets ∈ news → entersPin octets = false
  queue : d.requestsQueue.Sublist c.requestsQueue
  current : ∀ req ∈ d.currentReq, ∃ before ∈ c.currentReq,
    before.id = req.id ∧ before.request = req.request ∧ before.smsTextPdu = req.smsTextPdu

theorem Quiet.refl (c : Comm) : Quiet c c :=
  ⟨⟨[], (List.append_nil _).symm, nofun⟩, List.Sublist.refl _, fun req member => ⟨req, member, rfl, rfl, rfl⟩⟩

theorem Quiet.trans {b : Comm} (first : Quiet b c) (second : Quiet c d) : Quiet b d where
  outputs := by
    obtain ⟨news, before, quiet⟩ := first.outputs
    obtain ⟨more, after, still⟩ := second.outputs
    refine ⟨news ++ more, by rw [after, before, List.append_assoc], fun octets member => ?_⟩
    rcases List.mem_append.mp member with earlier | later
    · exact quiet octets earlier
    · exact still octets later
  queue := second.queue.trans first.queue
  current := by
    intro req member
    obtain ⟨between, member, id, request, pdu⟩ := second.current req member
    obtain ⟨before, member, id', request', pdu'⟩ := first.current between member
    exact ⟨before, member, id'.trans id, request'.trans request, pdu'.trans pdu⟩

/-- Nothing is put down, or something that is not written. -/
theorem Quiet.of_same (outputs : d.outputs = c.outputs ∨ ∃ output, d.outputs = c.outputs ++ [output] ∧
      ∀ octets, output = .write octets → entersPin octets = false)
    (queue : d.requestsQueue = c.requestsQueue) (current : d.currentReq = c.currentReq ∨ d.currentReq = none) :
    Quiet c d where
  outputs := by
    rcases outputs with same | ⟨output, one, quiet⟩
    · exact ⟨[], by rw [same, List.append_nil], nofun⟩
    · exact ⟨[output], one, fun octets member => quiet octets (List.mem_singleton.mp member).symm⟩
  queue := by rw [queue]
  current := by
    intro req member
    rcases current with same | gone
    · rw [same] at member
      exact ⟨req, member, rfl, rfl, rfl⟩
    · rw [gone] at member
      cases member

theorem changeState_quiet (c : Comm) (state : CommState) (timeout : Timeout) : Quiet c (c.changeState state timeout) :=
  .of_same (.inr ⟨_, rfl, nofun⟩) rfl (.inl rfl)

theorem write_quiet (c : Comm) {octets : Octets} (quiet : entersPin octets = false) : Quiet c (c.write octets) :=
  .of_same (.inr ⟨_, rfl, by rintro _ ⟨⟩; exact quiet⟩) rfl (.inl rfl)

theorem complete_quiet (c : Comm) (req : Req) (err : Int) : Quiet c (c.complete req err) :=
  .of_same (.inr ⟨_, rfl, nofun⟩) rfl (.inl rfl)

theorem finish_quiet (c : Comm) (req : Req) (state : CommState) (err : Int) : Quiet c (c.finish req state err) :=
  ((changeState_quiet c state .stop).trans (complete_quiet _ req err)).trans (.of_same (.inl rfl) rfl (.inr rfl))

theorem queueUrc_quiet (c : Comm) (urc : Urc) : Quiet c (c.queueUrc urc) :=
  .of_same (.inr ⟨_, rfl, nofun⟩) rfl (.inl rfl)

theorem addLine_quiet {req : Req} (current : c.currentReq = some req) (buf line : Octets) :
    Quiet c (c.addLine req buf line) where
  outputs := ⟨[.line line], rfl, by simp⟩
  queue := List.Sublist.refl _
  current := by
    rintro _ ⟨⟩
    exact ⟨req, current, rfl, rfl, rfl⟩

theorem matchResponse_quiet (texts : Texts c) (took : c.matchResponse = some (d, npull)) : Quiet c d := by
  obtain ⟨req, current, rfl | ⟨-, rfl⟩ | ⟨pdu, sms, rfl⟩ | ⟨buf, line, rfl | ⟨err, rfl⟩⟩⟩ := matchResponse_cases took
  · exact .refl _
  · exact write_quiet c rfl
  · exact (write_quiet c (texts req (.inl current) pdu sms)).trans (changeState_quiet _ _ _)
  · exact addLine_quiet current buf line
  · exact (addLine_quiet current buf line).trans (finish_quiet _ _ _ _)

theorem beginUrc_quiet (c : Comm) (urc : Urc) : Quiet c (c.beginUrc urc) := by
  have again : Quiet c (if c.state = .awaitingEcho then c.changeState .awaitingEcho echoTimeout else c) := by
    split
    · exact changeState_quiet _ _ _
    · exact .refl c
  unfold beginUrc
  refine again.trans ?_
  generalize (if c.state = .awaitingEcho then c.changeState .awaitingEcho echoTimeout else c) = c
  have begun : Quiet c { c with currentUrc := some urc } := .of_same (.inl rfl) rfl (.inl rfl)
  have timed (d : Comm) : Quiet d { d with pending := true } := .of_same (.inl rfl) rfl (.inl rfl)
  dsimp only
  split
  · exact queueUrc_quiet c urc
  · split
    · exact (begun.trans (changeState_quiet _ _ _)).trans (timed _)
    · exact (begun.trans (changeState_quiet _ _ _)).trans (timed _)

theorem matchUrc_quiet (took : c.matchUrc = some (d, npull)) : Quiet c d := by
  have cut (buf : Octets) : Quiet c { c with buf := buf } := .of_same (.inl rfl) rfl (.inl rfl)
  obtain ⟨buf, rfl⟩ | ⟨buf, urc, rfl⟩ := matchUrc_cases took
  · exact cut buf
  · exact (cut buf).trans (beginUrc_quiet _ urc)

theorem matchUrcCont_quiet (took : c.matchUrcCont = some (d, npull)) : Quiet c d := by
  obtain rfl | ⟨urc, buf, line, -, rfl | rfl⟩ := matchUrcCont_cases took
  · exact .refl _
  · exact .of_same (.inl rfl) rfl (.inl rfl)
  · have added : Quiet c (c.addUrcLine urc buf line) := .of_same (.inl rfl) rfl (.inl rfl)
    have ended (d : Comm) : Quiet d { d with currentUrc := none } := .of_same (.inl rfl) rfl (.inl rfl)
    unfold endUrc
    dsimp only
    split
    · exact ((added.trans (queueUrc_quiet _ _)).trans (ended _)).trans (changeState_quiet _ _ _)
    · exact ((added.trans (queueUrc_quiet _ _)).trans (ended _)).trans (changeState_quiet _ _ _)

theorem matchBuffer_quiet {nread : Nat} (texts : Texts c) (took : c.matchBuffer nread = some (d, npull)) : Quiet c d := by
  unfold matchBuffer at took
  split at took
  · cases took; exact .refl _
  · cases took; exact .refl _
  · cases took; exact .refl _
  · cases took; exact .refl _
  · exact matchUrc_quiet took
  · obtain ⟨req, -, took⟩ := Option.bind_eq_some_iff.mp took
    simp only at took
    split at took
    · cases took
      exact changeState_quiet _ _ _
    split at took
    · exact matchUrc_quiet took
    · cases took; exact .refl _
  · exact matchUrcCont_quiet took
  · exact matchUrcCont_quiet took
  · obtain ⟨pdu, -, took⟩ := Option.bind_eq_some_iff.mp took
    simp only at took
    split at took
    · cases took
      exact (write_quiet c rfl).trans (changeState_quiet _ _ _)
    · cases took; exact .refl _
  · simp only at took
    split at took
    · obtain ⟨req, -, took⟩ := Option.bind_eq_some_iff.mp took
      cases took
      exact changeState_quiet _ _ _
    · cases took; exact .refl _
  · exact matchResponse_quiet texts took

theorem scan_quiet {nread : Nat} (texts : Texts c) (took : c.scan nread = some d) : Quiet c d := by
  obtain ⟨⟨matched, npull⟩, took, rest⟩ := Option.bind_eq_some_iff.mp took
  have quiet : Quiet c matched := matchBuffer_quiet texts took
  simp only at rest
  split at rest
  · cases rest; exact quiet.trans (.of_same (.inl rfl) rfl (.inl rfl))
  · cases rest; exact quiet.trans (.of_same (.inl rfl) rfl (.inl rfl))

theorem flushRequests_quiet (c : Comm) : Quiet c c.flushRequests := by
  have completed (queue : List Req) : ∀ c : Comm, Quiet c (queue.foldl (fun c req => c.complete req respFailed) c) := by
    induction queue with
    | nil => exact .refl
    | cons req rest ih => exact fun c => (complete_quiet c req respFailed).trans (ih _)
  have emptied : Quiet c { c with requestsQueue := [] } :=
    ⟨⟨[], (List.append_nil _).symm, nofun⟩, List.nil_sublist _, fun req member => ⟨req, member, rfl, rfl, rfl⟩⟩
  exact emptied.trans (completed _ _)

/-- What the engine does at all: it goes on, it accepts a request, it sends the next one, or it
sends the current one again. -/
inductive Moves (c : Comm) : Event → Comm → Prop where
  | quiet {e : Event} {d : Comm} (quiet : Quiet c d) : Moves c e d
  | make (timeout : Int) (smsPdu printed : Octets) :
    Moves c (.make timeout smsPdu printed) (c.reqMake timeout smsPdu printed)
  | next {req : Req} {rest : List Req} (free : c.currentReq = none) (queue : c.requestsQueue = req :: rest) :
    Moves c .requests ({ c with requestsQueue := rest }.transmit req)
  | again {req : Req} (current : c.currentReq = some req) (recovering : c.state = .recovering)
    (left : req.retransmitCnt ≠ 1) :
    Moves c .timer ({ c with pending := false }.transmit { req with retransmitCnt := req.retransmitCnt - 1 })

theorem step_moves (texts : Texts c) (took : c.step e = some d) : Moves c e d := by
  have took := (handle_of_step took).2
  have timed : Quiet c { c with pending := false } := .of_same (.inl rfl) rfl (.inl rfl)
  cases e with
  | make timeout smsPdu printed =>
    cases took
    exact .make timeout smsPdu printed
  | «open» =>
    cases took
    exact .quiet (changeState_quiet _ _ _)
  | timer =>
    simp only [handle, timerFired] at took
    split at took
    · next recovering =>
      split at took
      · cases took
        exact .quiet (timed.trans (changeState_quiet _ _ _))
      · next req current =>
        split_ifs at took with exhausted fits
        · cases took
          exact .quiet (timed.trans (finish_quiet _ _ _ _))
        · cases took
          exact .again current recovering fun last => exhausted (by rw [last]; rfl)
    iterate 6
      · cases took
        have forgotten (d : Comm) : Quiet d { d with currentUrc := none } := .of_same (.inl rfl) rfl (.inl rfl)
        have emptied (d : Comm) (buf : Octets) : Quiet d { d with buf := buf } := .of_same (.inl rfl) rfl (.inl rfl)
        exact .quiet ((((timed.trans (forgotten _)).trans (changeState_quiet _ _ _)).trans (emptied _ _)).trans
          (write_quiet _ rfl))
    all_goals
      cases took
      exact .quiet timed
  | requests =>
    simp only [handle] at took
    split_ifs at took
    · unfold processNextRequest at took
      split_ifs at took with busy
      split at took
      · cases took
        exact .quiet (.refl _)
      · next queue =>
        cases took
        exact .next (Option.not_isSome_iff_eq_none.mp busy) queue
    · cases took
      exact .quiet (flushRequests_quiet c)
    · cases took
      exact .quiet (.refl _)
  | message message =>
    cases message <;> cases took
    · exact .quiet (changeState_quiet _ _ _)
    · exact .quiet (.refl _)
    · exact .quiet (.refl _)
  | read chunk =>
    cases took
    exact .quiet (.of_same (.inl rfl) rfl (.inl rfl))
  | scan =>
    obtain ⟨nread, -, took⟩ := Option.bind_eq_some_iff.mp took
    exact .quiet (scan_quiet texts took)
  | exit =>
    cases took
    exact .quiet (changeState_quiet _ _ _)

theorem written_eq {news : List Output} (outputs : d.outputs = c.outputs ++ news) :
    written c d = news.filterMap fun
      | .write octets => some octets
      | _ => none := by
  rw [written, outputs, List.drop_left]

theorem Quiet.written (quiet : Quiet c d) : ∀ octets ∈ written c d, entersPin octets = false := by
  obtain ⟨news, outputs, silent⟩ := quiet.outputs
  rw [written_eq outputs]
  intro octets member
  obtain ⟨output, put, is⟩ := List.mem_filterMap.mp member
  cases output with
  | write other =>
    cases is
    exact silent _ put
  | _ => cases is

theorem transmit_written (c : Comm) (req : Req) : Bench.written c (c.transmit req) = [req.request] := by
  have outputs : (c.transmit req).outputs = c.outputs ++ [.write req.request, .state .awaitingEcho echoTimeout] := by
    simp
  rw [written_eq outputs]
  rfl

/-- The digits of a short message are no command. -/
theorem hexText_enters (pdu : Octets) : entersPin (hexText pdu) = false := by
  cases pdu with
  | nil => rfl
  | cons x rest =>
    have digit : (65 == hexDigit (x / 16)) = false := by
      rw [beq_eq_false_iff_ne, ne_eq, hexDigit, ← UInt8.toNat_inj]
      have low : (x / 16).toNat < 16 := by
        have octet := x.toNat_lt
        rw [UInt8.toNat_div]
        exact Nat.div_lt_of_lt_mul octet
      split
      · have sum : (48 + x / 16).toNat = (48 + (x / 16).toNat) % 256 := UInt8.toNat_add 48 _
        have letter : (65 : UInt8).toNat = 65 := rfl
        omega
      · have sum : (87 + x / 16).toNat = (87 + (x / 16).toNat) % 256 := UInt8.toNat_add 87 _
        have letter : (65 : UInt8).toNat = 65 := rfl
        omega
    have first : cpinText = 65 :: cpinText.tail := rfl
    rw [entersPin, first, hexText, List.flatMap_cons, List.cons_append, List.isPrefixOf_cons_cons, digit, Bool.false_and]

end Engine

end Bench
end Vstuff.Vgsm
