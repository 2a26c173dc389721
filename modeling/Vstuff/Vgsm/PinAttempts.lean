import Vstuff.Vgsm.PinEntry

/-! How many attempts the SIM has left: two, unless a PIN is sent again that has already been taken. -/
namespace Vstuff.Vgsm
open Transition Comm
open Lapd (Octets)
set_option linter.all false

namespace Bench

/-! ## The attempts -/

section Attempts
variable {pin : Octets} {w after : Bench} {c : Comm} {e : Event}

/-- Two attempts are left for the SIM however many PINs are on their way to it or are going to
be; only the check enters one, and only when there is one more to lose. -/
structure Safe (w : Bench) : Prop where
  booked : Comm.Booked w.comm
  texts : Texts w.comm
  enough : 2 + w.commands.countP entersPin + w.comm.requestsQueue.countP (entersPin ·.request) ≤ w.attempts
  mine : ∀ req, req ∈ w.comm.currentReq ∨ req ∈ w.comm.requestsQueue → entersPin req.request = true →
    w.check = .cpin req.id
  checked : ∀ id, w.check = .cpinQuery id → 3 ≤ w.remainingAttempts → w.Unspent

/-- The engine has no PIN to send. -/
def Plain (c : Comm) : Prop := ∀ req, req ∈ c.currentReq ∨ req ∈ c.requestsQueue → entersPin req.request = false

theorem Plain.count (plain : Plain c) : c.requestsQueue.countP (entersPin ·.request) = 0 :=
  List.countP_eq_zero.mpr fun req member => by simp [plain req (.inr member)]

theorem Unspent.count (unspent : w.Unspent) : w.commands.countP entersPin = 0 :=
  List.countP_eq_zero.mpr fun command member => by simp [unspent.commands command member]

theorem start_safe (urcClasses : List UrcClass) : Safe (start urcClasses) where
  booked := ⟨.refl _, nofun⟩
  texts := by
    rintro req (current | queued)
    · cases current
    · cases queued
  enough := Nat.le_succ 2
  mine := by
    rintro req (current | queued)
    · cases current
    · cases queued
  checked := nofun

/-! ### The engine -/

theorem Safe.quiet (safe : Safe w) (booked : Comm.Booked c) (quiet : Quiet w.comm c) : Safe (w.moved c) where
  booked := booked
  texts := by
    rintro req (current | queued) pdu sms
    · obtain ⟨before, member, -, -, same⟩ := quiet.current req current
      exact safe.texts before (.inl member) pdu (same ▸ sms)
    · exact safe.texts req (.inr (quiet.queue.subset queued)) pdu sms
  enough := by
    have enough := safe.enough
    have silent : (written w.comm c).countP entersPin = 0 :=
      List.countP_eq_zero.mpr fun octets member => by simp [quiet.written octets member]
    have fewer := quiet.queue.countP_le (p := (entersPin ·.request))
    simp only [moved, List.countP_append, silent]
    omega
  mine := by
    rintro req (current | queued) enters
    · obtain ⟨before, member, id, request, -⟩ := quiet.current req current
      exact id ▸ safe.mine before (.inl member) (request ▸ enters)
    · exact safe.mine req (.inr (quiet.queue.subset queued)) enters
  checked := by
    intro id waits three
    obtain ⟨attempts, commands⟩ := safe.checked id waits three
    refine ⟨attempts, fun command member => ?_⟩
    rcases List.mem_append.mp member with before | now
    · exact commands command before
    · exact quiet.written command now

/-- The next request is sent. -/
theorem Safe.send (safe : Safe w) {req : Req} {rest : List Req} (queue : w.comm.requestsQueue = req :: rest)
    (booked : Comm.Booked ({ w.comm with requestsQueue := rest }.transmit req)) :
    Safe (w.moved ({ w.comm with requestsQueue := rest }.transmit req)) := by
  have sent : written w.comm ({ w.comm with requestsQueue := rest }.transmit req) = [req.request] :=
    transmit_written { w.comm with requestsQueue := rest } req
  have queued : req ∈ w.comm.requestsQueue := by
    rw [queue]
    exact List.mem_cons_self
  have further {other : Req} (member : other ∈ rest) : other ∈ w.comm.requestsQueue := by
    rw [queue]
    exact List.mem_cons_of_mem _ member
  refine ⟨booked, ?_, ?_, ?_, ?_⟩
  · rintro other (⟨⟨⟩⟩ | member) pdu sms
    · exact safe.texts req (.inr queued) pdu sms
    · exact safe.texts other (.inr (further member)) pdu sms
  · have enough := safe.enough
    rw [queue, List.countP_cons] at enough
    simp only [moved, sent, List.countP_append, List.countP_singleton]
    have waiting : ({ w.comm with requestsQueue := rest }.transmit req).requestsQueue = rest := rfl
    rw [waiting]
    omega
  · rintro other (⟨⟨⟩⟩ | member) enters
    · exact safe.mine req (.inr queued) enters
    · exact safe.mine other (.inr (further member)) enters
  · intro id waits three
    obtain ⟨attempts, commands⟩ := safe.checked id waits three
    refine ⟨attempts, fun command member => ?_⟩
    simp only [moved, sent, List.mem_append, List.mem_singleton] at member
    rcases member with before | rfl
    · exact commands command before
    · by_contra enters
      have mine := safe.mine req (.inr queued) (by simpa using enters)
      rw [show w.check = _ from waits] at mine
      cases mine

/-- There is one PIN at a time. -/
theorem Safe.alone (safe : Safe w) {req other : Req} (current : w.comm.currentReq = some req)
    (enters : entersPin req.request = true) (queued : other ∈ w.comm.requestsQueue) :
    entersPin other.request = false := by
  by_contra again
  have mine := safe.mine req (.inl current) enters
  rw [safe.mine other (.inr queued) (by simpa using again)] at mine
  have same : other.id = req.id := PinCheck.cpin.inj mine
  have nodup : (w.comm.requests.map Req.id).Nodup := safe.booked.ids.nodup_iff.mpr List.nodup_range
  rw [Comm.requests, current, List.map_append, List.map_append] at nodup
  obtain ⟨-, -, apart⟩ := List.nodup_append.mp nodup
  refine apart req.id (by simp) req.id ?_ rfl
  exact List.mem_map.mpr ⟨other, queued, same⟩

/-- The current request is sent again. -/
theorem Safe.again (safe : Safe w) {req : Req} (current : w.comm.currentReq = some req)
    (careful : entersPin req.request = true → w.Unspent)
    (booked : Comm.Booked ({ w.comm with pending := false }.transmit { req with retransmitCnt := req.retransmitCnt - 1 })) :
    Safe (w.moved ({ w.comm with pending := false }.transmit { req with retransmitCnt := req.retransmitCnt - 1 })) := by
  have sent : written w.comm ({ w.comm with pending := false }.transmit { req with retransmitCnt := req.retransmitCnt - 1 }) =
      [req.request] := transmit_written { w.comm with pending := false } _
  refine ⟨booked, ?_, ?_, ?_, ?_⟩
  · rintro other (⟨⟨⟩⟩ | member) pdu sms
    · exact safe.texts req (.inl current) pdu sms
    · exact safe.texts other (.inr member) pdu sms
  · simp only [moved, sent, List.countP_append, List.countP_singleton]
    by_cases enters : entersPin req.request = true
    · have unspent := careful enters
      have none : w.comm.requestsQueue.countP (entersPin ·.request) = 0 :=
        List.countP_eq_zero.mpr fun other member => by simp [safe.alone current enters member]
      have attempts := unspent.attempts
      rw [unspent.count, if_pos enters]
      exact le_of_eq_of_le (congrArg (3 + ·) none) attempts
    · rw [if_neg enters]
      exact safe.enough
  · rintro other (⟨⟨⟩⟩ | member) enters
    · exact safe.mine req (.inl current) enters
    · exact safe.mine other (.inr member) enters
  · intro id waits three
    obtain ⟨attempts, commands⟩ := safe.checked id waits three
    refine ⟨attempts, fun command member => ?_⟩
    simp only [moved, sent, List.mem_append, List.mem_singleton] at member
    rcases member with before | rfl
    · exact commands command before
    · by_contra enters
      have mine := safe.mine req (.inl current) (by simpa using enters)
      rw [show w.check = _ from waits] at mine
      cases mine

/-- The line of a command enters a PIN if its text does. -/
theorem entersPin_line (text : Octets) : entersPin (text ++ [13]) = entersPin text := by
  have whole : cpinText ≠ text ++ [13] := by
    intro same
    have last := congrArg List.getLast? same
    rw [List.getLast?_concat] at last
    cases last
  rw [entersPin, entersPin, Bool.eq_iff_iff, List.isPrefixOf_iff_prefix, List.isPrefixOf_iff_prefix, List.prefix_concat_iff,
    or_iff_right whole]

/-- Another request waits for its turn. -/
theorem reqMake_queue (c : Comm) (timeout : Int) (smsPdu printed : Octets) :
    (c.reqMake timeout smsPdu printed).outputs = c.outputs ∧
      (c.reqMake timeout smsPdu printed).currentReq = c.currentReq ∧
      ∃ made : List Req, (c.reqMake timeout smsPdu printed).requestsQueue = c.requestsQueue ++ made ∧ made.length ≤ 1 ∧
        ∀ req ∈ made, req.request = cString printed ++ [13] ∧ req.id = c.accepted ∧
          ∀ pdu ∈ req.smsTextPdu, entersPin pdu = false := by
  unfold Comm.reqMake
  split
  · exact ⟨rfl, rfl, [], (List.append_nil _).symm, Nat.zero_le _, nofun⟩
  · refine ⟨rfl, rfl, _, rfl, Nat.le_refl _, fun req member => ?_⟩
    obtain rfl := List.mem_singleton.mp member
    refine ⟨rfl, rfl, fun pdu sms => ?_⟩
    dsimp only at sms
    split at sms
    · cases sms
    · cases sms
      exact hexText_enters smsPdu

/-- A request is accepted, and the check may be somewhere else then. A PIN is the check's own,
and is entered when there is one attempt to lose. -/
theorem Safe.request (safe : Safe w) (timeout : Int) (smsPdu printed : Octets) {check : PinCheck} {remaining : Int}
    (mine : ∀ req, req ∈ w.comm.currentReq ∨ req ∈ w.comm.requestsQueue → entersPin req.request = true →
      check = .cpin req.id)
    (entered : entersPin (cString printed ++ [13]) = true → check = .cpin w.comm.accepted ∧ w.Unspent ∧ Plain w.comm)
    (checked : ∀ id, check = .cpinQuery id → 3 ≤ remaining → w.Unspent) :
    Safe { w with comm := w.comm.reqMake timeout smsPdu printed, check := check, remainingAttempts := remaining } := by
  obtain ⟨-, current, made, queue, one, new⟩ := reqMake_queue w.comm timeout smsPdu printed
  refine ⟨safe.booked.reqMake timeout smsPdu printed, ?_, ?_, ?_, ?_⟩
  · intro req member pdu sms
    rw [current, queue, List.mem_append] at member
    rcases member with old | old | added
    · exact safe.texts req (.inl old) pdu sms
    · exact safe.texts req (.inr old) pdu sms
    · exact (new req added).2.2 pdu sms
  · have enough := safe.enough
    rw [queue, List.countP_append]
    by_cases enters : entersPin (cString printed ++ [13]) = true
    · obtain ⟨-, unspent, plain⟩ := entered enters
      have attempts := unspent.attempts
      have few : made.countP (entersPin ·.request) ≤ made.length := List.countP_le_length
      rw [plain.count]
      simp only [unspent.count]
      omega
    · have none : made.countP (entersPin ·.request) = 0 :=
        List.countP_eq_zero.mpr fun req member => by rw [(new req member).1]; exact enters
      rw [none]
      exact enough
  · intro req member enters
    rw [current, queue, List.mem_append] at member
    rcases member with old | old | added
    · exact mine req (.inl old) enters
    · exact mine req (.inr old) enters
    · obtain ⟨request, id, -⟩ := new req added
      rw [request] at enters
      rw [id]
      exact (entered enters).1
  · intro id waits three
    obtain ⟨attempts, commands⟩ := checked id waits three
    exact ⟨attempts, commands⟩

theorem Safe.engine (safe : Safe w) (took : w.comm.step e = some c) (careful : Careful w (.engine e))
    (other : ∀ timeout smsPdu printed, e = .make timeout smsPdu printed → entersPin (cString printed ++ [13]) = false) :
    Safe (w.moved c) := by
  have booked := step_booked safe.booked took
  cases step_moves safe.texts took with
  | quiet quiet => exact safe.quiet booked quiet
  | make timeout smsPdu printed =>
    have silent : written w.comm (w.comm.reqMake timeout smsPdu printed) = [] := by
      rw [written, (reqMake_queue w.comm timeout smsPdu printed).1, List.drop_length]
      rfl
    rw [moved, silent, List.append_nil]
    refine safe.request timeout smsPdu printed safe.mine (fun enters => ?_) safe.checked
    rw [other _ _ _ rfl] at enters
    cases enters
  | next free queue => exact safe.send queue booked
  | again current recovering left => exact safe.again current (careful _ current recovering left) booked

/-! ### The check -/

/-- When a request of the check has its result, the engine has no PIN to send. -/
theorem Safe.settled (safe : Safe w) {id : Nat} {req : Req} (result : w.result id = some req)
    (waits : ∀ other, w.check = .cpin other → other = id) : Plain w.comm := by
  intro other member
  by_contra enters
  have same : other.id = id := waits _ (safe.mine other member (by simpa using enters))
  have nodup : (w.comm.requests.map Req.id).Nodup := safe.booked.ids.nodup_iff.mpr List.nodup_range
  rw [Comm.requests, List.append_assoc, List.map_append] at nodup
  obtain ⟨-, -, apart⟩ := List.nodup_append.mp nodup
  have done : req.id = id := by simpa using List.find?_some result
  refine apart id (List.mem_map.mpr ⟨req, List.mem_of_find?_eq_some result, done⟩) id ?_ rfl
  refine List.mem_map.mpr ⟨other, ?_, same⟩
  rcases member with current | queued
  · exact List.mem_append_left _ (Option.mem_toList.mpr current)
  · exact List.mem_append_right _ queued

theorem Safe.leave (safe : Safe w) (plain : Plain w.comm) (status : Monitor.MeStatus) (returned : Int) :
    Safe (w.leave status returned) where
  booked := safe.booked
  texts := safe.texts
  enough := safe.enough
  mine req member enters := by
    rw [plain req member] at enters
    cases enters
  checked := nofun

/-- The check asks something else, with no more than it has read. -/
theorem Safe.ask (safe : Safe w) (plain : Plain w.comm) {text : Octets} (other : entersPin (cString text ++ [13]) = false)
    (timeout remaining : Int) {check : Nat → PinCheck}
    (checked : ∀ id, check w.comm.accepted = .cpinQuery id → 3 ≤ remaining → w.Unspent) :
    Safe ({ w with remainingAttempts := remaining }.ask timeout text check) := by
  refine safe.request timeout [] text (fun req member enters => ?_) (fun enters => ?_) checked
  · rw [plain req member] at enters
    cases enters
  · rw [other] at enters
    cases enters

theorem Safe.askSpic (safe : Safe w) (plain : Plain w.comm) (retries : Nat) : Safe (w.askSpic retries) :=
  safe.ask plain rfl _ w.remainingAttempts nofun

theorem Safe.enterPin (safe : Safe w) (plain : Plain w.comm) (unspent : w.Unspent) : Safe (w.enterPin pin) := by
  unfold Bench.enterPin
  dsimp only
  split
  · exact safe.leave plain _ _
  · refine safe.request _ [] _ (fun req member enters => ?_) (fun _ => ⟨rfl, unspent, plain⟩) nofun
    rw [plain req member] at enters
    cases enters

theorem Safe.spicAnswered (safe : Safe w) (plain : Plain w.comm) {req : Req} {behind : Int} (retries : Nat)
    (careful : req.err = respOk → 3 ≤ attemptsRead req behind → w.Unspent) :
    Safe (w.spicAnswered retries behind req) := by
  unfold Bench.spicAnswered
  split_ifs with noSim busy last failed
  · exact safe.leave plain _ _
  · exact safe.leave plain _ _
  · exact safe.askSpic plain _
  · exact safe.leave plain _ _
  · exact safe.ask plain rfl _ _ fun _ _ => careful (not_not.mp failed)

theorem Safe.cpinQueryAnswered (safe : Safe w) (plain : Plain w.comm) {id : Nat} (waits : w.check = .cpinQuery id)
    (req : Req) : Safe (w.cpinQueryAnswered pin req) := by
  have checked := safe.checked id waits
  unfold Bench.cpinQueryAnswered
  dsimp only
  split_ifs with noSim busy failed ready needed few configured known
  · exact safe.leave plain _ _
  · exact safe.ask plain rfl _ w.remainingAttempts fun _ _ => checked
  · exact safe.leave plain _ _
  · exact safe.leave plain _ _
  · exact safe.leave plain _ _
  · exact safe.enterPin plain (checked (Int.not_lt.mp few))
  · exact safe.leave plain _ _
  · exact safe.leave plain _ _
  · exact safe.leave plain _ _

theorem Safe.answered (safe : Safe w) {behind : Int} (careful : Careful w (.answered behind))
    (took : w.answered pin behind = some after) : Safe after := by
  unfold Bench.answered at took
  split at took
  · cases took
  · next id retries waits =>
    obtain ⟨req, result, rfl⟩ := Option.map_eq_some_iff.mp took
    have plain : Plain w.comm := safe.settled result (by rw [waits]; nofun)
    rw [Careful, waits] at careful
    exact safe.spicAnswered plain retries (careful req result)
  · next id waits =>
    obtain ⟨req, result, rfl⟩ := Option.map_eq_some_iff.mp took
    have plain : Plain w.comm := safe.settled result (by rw [waits]; nofun)
    exact safe.cpinQueryAnswered plain waits req
  · next id waits =>
    obtain ⟨req, result, rfl⟩ := Option.map_eq_some_iff.mp took
    have plain : Plain w.comm := safe.settled result (by rw [waits]; rintro other ⟨⟩; rfl)
    unfold Bench.cpinAnswered
    split
    · exact safe.leave plain _ _
    · exact safe.leave plain _ _

/-! ### The line -/

/-- The module takes a command, and with a PIN an attempt is gone. -/
theorem Safe.receive (safe : Safe w) {command : Octets} {commands : List Octets} (line : w.commands = command :: commands)
    (responses : Octets) :
    Safe { w with
      commands := commands
      responses := responses
      attempts := if entersPin command then w.attempts - 1 else w.attempts } where
  booked := safe.booked
  texts := safe.texts
  enough := by
    have enough := safe.enough
    rw [line, List.countP_cons] at enough
    dsimp only
    split_ifs at enough ⊢ <;> omega
  mine := safe.mine
  checked := by
    intro id waits three
    obtain ⟨attempts, none⟩ := safe.checked id waits three
    rw [line] at none
    refine ⟨?_, fun other member => none other (List.mem_cons_of_mem _ member)⟩
    rw [none command List.mem_cons_self]
    exact attempts

/-- Less is on its way. -/
theorem Safe.lose (safe : Safe w) (responses : Octets) :
    Safe { w with commands := w.commands.tail, responses := responses } where
  booked := safe.booked
  texts := safe.texts
  enough := by
    have fewer := (List.tail_sublist w.commands).countP_le (p := entersPin)
    have enough := safe.enough
    dsimp only
    omega
  mine := safe.mine
  checked := by
    intro id waits three
    obtain ⟨attempts, none⟩ := safe.checked id waits three
    exact ⟨attempts, fun command member => none command (List.mem_of_mem_tail member)⟩

theorem Safe.respond (safe : Safe w) (responses : Octets) : Safe { w with responses := responses } where
  booked := safe.booked
  texts := safe.texts
  enough := safe.enough
  mine := safe.mine
  checked id waits three :=
    have unspent := safe.checked id waits three
    ⟨unspent.attempts, unspent.commands⟩

theorem step_safe {event : BenchEvent} (safe : Safe w) (careful : Careful w event) (took : w.step pin event = some after) :
    Safe after := by
  cases event with
  | engine e =>
    cases e with
    | make timeout smsPdu printed =>
      simp only [Bench.step] at took
      split_ifs at took with enters
      obtain ⟨c, ran, rfl⟩ := Option.map_eq_some_iff.mp took
      refine safe.engine ran careful ?_
      rintro _ _ _ ⟨⟩
      rw [entersPin_line]
      exact Bool.eq_false_iff.mpr enters
    | read chunk =>
      simp only [Bench.step] at took
      split_ifs at took
      obtain ⟨c, ran, rfl⟩ := Option.map_eq_some_iff.mp took
      exact (safe.respond _).engine (w := { w with responses := _ }) ran trivial nofun
    | «open» | timer | requests | message | scan | exit =>
      obtain ⟨c, ran, rfl⟩ := Option.map_eq_some_iff.mp took
      exact safe.engine ran careful nofun
  | begin =>
    simp only [Bench.step] at took
    split_ifs at took with out
    cases took
    have plain : Plain w.comm := by
      intro req member
      by_contra enters
      have mine := safe.mine req member (by simpa using enters)
      rw [out] at mine
      cases mine
    have initializing : Safe { w with status := .initializing } :=
      ⟨safe.booked, safe.texts, safe.enough, safe.mine, fun id waits three =>
        have unspent := safe.checked id waits three
        ⟨unspent.attempts, unspent.commands⟩⟩
    exact initializing.askSpic plain 60
  | answered behind => exact safe.answered careful took
  | receive other =>
    simp only [Bench.step] at took
    split at took
    · cases took
    · next command commands line =>
      cases took
      exact safe.receive line _
  | loseCommand =>
    cases took
    exact safe.lose w.responses
  | loseResponse start count =>
    cases took
    exact safe.respond _
  | urc line =>
    simp only [Bench.step] at took
    split_ifs at took
    cases took
    exact safe.respond _

end Attempts

/-- As long as no PIN is sent again that may have reached the module, and no answer to AT^SPIC is
read that is no longer true, the SIM keeps two attempts in every run. -/
theorem attempts_stay_of_run {pin : Octets} {urcClasses : List UrcClass} {events : List BenchEvent} {w : Bench}
    (run : Run (step pin) Careful (start urcClasses) events w) : 2 ≤ w.attempts := by
  have safe : Safe w := run.invariant Safe (fun safe careful took => step_safe safe careful took) (start_safe urcClasses)
  have enough := safe.enough
  omega

/-- The check comes to the PIN, which the module takes and refuses. -/
def entered : List BenchEvent :=
  [.begin, .engine .requests, .receive [], .engine (.read (ascii "AT^SPIC\r\r\n^SPIC: 3\r\n\r\nOK\r\n")),
    .engine .scan, .engine .scan, .engine .scan, .engine .scan,
    .answered 0, .engine .requests, .receive [], .engine (.read (ascii "AT+CPIN?\r\r\n+CPIN: SIM PIN\r\n\r\nOK\r\n")),
    .engine .scan, .engine .scan, .engine .scan, .engine .scan,
    .answered 0, .engine .requests, .receive []]

theorem entered_costs_one :
    ∃ w, follow (step (ascii "1234")) Careful (start []) entered = some w ∧ w.attempts = 2 ∧ 2 ≤ w.attempts := by
  have done : (follow (step (ascii "1234")) Careful (start []) entered).map Bench.attempts = some 2 := by decide +kernel
  obtain ⟨w, follows, two⟩ := Option.map_eq_some_iff.mp done
  exact ⟨w, follows, two, attempts_stay_of_run (follow_run _ _ _ _ follows)⟩

/-- Nothing of the answer comes back, and the engine sends the PIN once more. -/
theorem lost_answer_costs_another :
    ¬∀ (pin : Octets) (urcClasses : List UrcClass) (events : List BenchEvent) (w : Bench),
      Run (step pin) Any (start urcClasses) events w → 2 ≤ w.attempts := by
  intro claim
  have done : (follow (step (ascii "1234")) Any (start [])
      (entered ++ [.loseResponse 0 40, .engine .timer, .engine .timer, .receive [], .receive []])).map Bench.attempts =
        some 1 := by decide +kernel
  obtain ⟨w, follows, one⟩ := Option.map_eq_some_iff.mp done
  have two := claim _ _ _ w (follow_run _ _ _ _ follows)
  omega

end Bench
end Vstuff.Vgsm
