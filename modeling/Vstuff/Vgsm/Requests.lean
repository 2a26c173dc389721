import Vstuff.Vgsm.Engine
import Mathlib.Data.List.Range

/-! Every request that is accepted is completed once, unless the engine is closed while
it still has it: the thread leaves its loop without flushing. -/
namespace Vstuff.Vgsm
open Transition
open Lapd (Octets)
set_option linter.all false

namespace Comm
variable {c d : Comm} {e : Event} {npull : Nat}

/-- The requests are the ones there were, done with or not; those done with are ready. -/
structure Keeps (c d : Comm) : Prop where
  ids : (d.requests.map Req.id).Perm (c.requests.map Req.id)
  accepted : d.accepted = c.accepted
  ready : (∀ req ∈ c.completionQueue, req.ready) → ∀ req ∈ d.completionQueue, req.ready
  running : c.running → d.running

theorem Keeps.refl (c : Comm) : Keeps c c := ⟨.refl _, rfl, id, id⟩

theorem Keeps.trans {a b c : Comm} (first : Keeps a b) (second : Keeps b c) : Keeps a c where
  ids := second.ids.trans first.ids
  accepted := second.accepted.trans first.accepted
  ready := second.ready ∘ first.ready
  running := second.running ∘ first.running

/-- The requests are not touched. -/
theorem Keeps.of_same (queue : d.requestsQueue = c.requestsQueue) (current : d.currentReq.map Req.id = c.currentReq.map Req.id)
    (done : d.completionQueue = c.completionQueue) (accepted : d.accepted = c.accepted)
    (running : c.running → d.running) : Keeps c d where
  ids := by
    have same : d.currentReq.toList.map Req.id = c.currentReq.toList.map Req.id := by
      rw [← Option.toList_map, ← Option.toList_map, current]
    rw [requests, requests, queue, done, List.map_append, List.map_append, List.map_append, List.map_append, same]
  accepted := accepted
  ready := by rw [done]; exact id
  running := running

theorem complete_ready {req : Req} {err : Int} (before : ∀ other ∈ c.completionQueue, other.ready) :
    ∀ other ∈ (c.complete req err).completionQueue, other.ready := by
  intro other member
  rcases List.mem_append.mp member with earlier | last
  · exact before other earlier
  · rw [List.mem_singleton.mp last]

theorem Keeps.finish {req current : Req} {state : CommState} {err : Int} (asked : c.currentReq = some current)
    (same : req.id = current.id) (on : state ≠ .closed ∧ state ≠ .closing) : Keeps c (c.finish req state err) where
  ids := by simp [requests, asked, same]
  accepted := rfl
  ready := complete_ready
  running _ := by simp [Comm.running, on]

theorem matchResponse_keeps (took : c.matchResponse = some (d, npull)) : Keeps c d := by
  obtain ⟨req, current, rfl | ⟨-, rfl⟩ | ⟨pdu, -, rfl⟩ | ⟨buf, line, rfl | ⟨err, rfl⟩⟩⟩ := matchResponse_cases took
  · exact .refl _
  · exact .of_same rfl rfl rfl rfl id
  · exact .of_same rfl rfl rfl rfl fun _ => rfl
  · exact .of_same rfl (by rw [current]; rfl) rfl rfl id
  · have added : Keeps c (c.addLine req buf line) := .of_same rfl (by rw [current]; rfl) rfl rfl id
    exact added.trans (.finish rfl rfl ⟨nofun, nofun⟩)

theorem matchUrc_keeps (took : c.matchUrc = some (d, npull)) : Keeps c d := by
  obtain ⟨buf, rfl⟩ | ⟨buf, urc, rfl⟩ := matchUrc_cases took
  · exact .of_same rfl rfl rfl rfl id
  · unfold beginUrc
    simp only
    split
    · split
      · exact .of_same rfl rfl rfl rfl fun _ => rfl
      · exact .of_same rfl rfl rfl rfl id
    · split
      · exact .of_same rfl rfl rfl rfl fun _ => rfl
      · exact .of_same rfl rfl rfl rfl fun _ => rfl

theorem matchUrcCont_keeps (took : c.matchUrcCont = some (d, npull)) : Keeps c d := by
  obtain rfl | ⟨urc, buf, line, -, rfl | rfl⟩ := matchUrcCont_cases took
  · exact .refl _
  · exact .of_same rfl rfl rfl rfl id
  · unfold endUrc
    simp only
    split
    · exact .of_same rfl rfl rfl rfl fun _ => rfl
    · exact .of_same rfl rfl rfl rfl fun _ => rfl

theorem matchBuffer_keeps {nread : Nat} (took : c.matchBuffer nread = some (d, npull)) : Keeps c d := by
  unfold matchBuffer at took
  split at took
  · cases took; exact .refl _
  · cases took; exact .refl _
  · cases took; exact .refl _
  · cases took; exact .refl _
  · exact matchUrc_keeps took
  · obtain ⟨req, -, took⟩ := Option.bind_eq_some_iff.mp took
    simp only at took
    split at took
    · cases took
      exact .of_same rfl rfl rfl rfl fun _ => rfl
    split at took
    · exact matchUrc_keeps took
    · cases took; exact .refl _
  · exact matchUrcCont_keeps took
  · exact matchUrcCont_keeps took
  · obtain ⟨pdu, -, took⟩ := Option.bind_eq_some_iff.mp took
    simp only at took
    split at took
    · cases took
      exact .of_same rfl rfl rfl rfl fun _ => rfl
    · cases took; exact .refl _
  · simp only at took
    split at took
    · obtain ⟨req, -, took⟩ := Option.bind_eq_some_iff.mp took
      cases took
      exact .of_same rfl rfl rfl rfl fun _ => rfl
    · cases took; exact .refl _
  · exact matchResponse_keeps took

theorem scan_keeps {nread : Nat} (took : c.scan nread = some d) : Keeps c d := by
  obtain ⟨⟨matched, npull⟩, took, rest⟩ := Option.bind_eq_some_iff.mp took
  have kept : Keeps c matched := matchBuffer_keeps took
  simp only at rest
  split at rest
  · cases rest; exact kept.trans (.of_same rfl rfl rfl rfl id)
  · cases rest; exact kept.trans (.of_same rfl rfl rfl rfl id)

theorem flushRequests_keeps (c : Comm) : Keeps c c.flushRequests := by
  have flushed : ∀ (queue : List Req) (c : Comm),
      Keeps { c with requestsQueue := queue ++ c.requestsQueue }
        (queue.foldl (fun c req => c.complete req respFailed) c) := by
    intro queue
    induction queue with
    | nil => exact .refl
    | cons req rest ih =>
      intro c
      refine Keeps.trans ?_ (ih (c.complete req respFailed))
      constructor
      · simp only [requests, complete_completionQueue, complete_requestsQueue, complete_currentReq, List.map_append,
          List.map_cons, List.append_assoc, List.cons_append, List.nil_append]
        exact .append_left _ List.perm_middle.symm
      · rfl
      · exact complete_ready
      · exact id
  have all := flushed c.requestsQueue { c with requestsQueue := [] }
  simp only [List.append_nil] at all
  exact all

theorem processNextRequest_keeps (took : c.processNextRequest = some d) : Keeps c d := by
  unfold processNextRequest at took
  split at took
  · cases took
  split at took
  · cases took; exact .refl _
  · rename_i free _ req rest queue
    cases took
    have none : c.currentReq = none := Option.not_isSome_iff_eq_none.mp free
    constructor
    · simp [requests, none, queue]
    · rfl
    · exact id
    · exact fun _ => rfl

theorem timerFired_keeps (took : { c with pending := false }.timerFired = some d) : Keeps c d := by
  unfold timerFired at took
  split at took
  · split at took
    · cases took
      exact .of_same rfl rfl rfl rfl fun _ => rfl
    · rename_i req current
      simp only at took
      split at took
      · cases took
        exact .finish current rfl ⟨nofun, nofun⟩
      split at took
      · cases took
        exact .of_same rfl (by rw [current]; rfl) rfl rfl fun _ => rfl
      · cases took
  iterate 6
    · cases took
      exact .of_same rfl rfl rfl rfl fun _ => rfl
  all_goals
    cases took
    exact .of_same rfl rfl rfl rfl id

/-! ## Runs -/

/-- Each request accepted has one place. -/
structure Booked (c : Comm) : Prop where
  ids : (c.requests.map Req.id).Perm (List.range c.accepted)
  ready : ∀ req ∈ c.completionQueue, req.ready

theorem Booked.keeps (booked : Booked c) (keeps : Keeps c d) : Booked d where
  ids := by
    rw [keeps.accepted]
    exact keeps.ids.trans booked.ids
  ready := keeps.ready booked.ready

theorem Booked.reqMake (booked : Booked c) (timeout : Int) (smsPdu printed : Octets) :
    Booked (c.reqMake timeout smsPdu printed) := by
  unfold Comm.reqMake
  split
  · exact booked
  · refine ⟨?_, booked.ready⟩
    simp only [requests, List.range_succ, ← List.append_assoc]
    rw [List.map_append]
    exact booked.ids.append_right _

/-- Every event but a new request and the thread's end keeps the requests. -/
theorem handle_keeps (took : c.handle e = some d) (other : ∀ timeout smsPdu printed, e ≠ .make timeout smsPdu printed)
    (lives : e ≠ .message .close ∧ e ≠ .exit) : Keeps c d := by
  cases e with
  | make timeout smsPdu printed => exact absurd rfl (other timeout smsPdu printed)
  | «open» => cases took; exact .of_same rfl rfl rfl rfl fun _ => rfl
  | timer => exact timerFired_keeps took
  | requests =>
    simp only [handle] at took
    split at took
    · exact processNextRequest_keeps took
    split at took
    · cases took; exact flushRequests_keeps c
    · cases took; exact .refl _
  | message message =>
    cases message with
    | close => exact absurd rfl lives.1
    | refresh => cases took; exact .refl _
    | init => cases took; exact .refl _
  | read chunk => cases took; exact .of_same rfl rfl rfl rfl id
  | scan =>
    obtain ⟨nread, -, took⟩ := Option.bind_eq_some_iff.mp took
    exact scan_keeps took
  | exit => exact absurd rfl lives.2

theorem step_booked (booked : Booked c) (took : c.step e = some d) : Booked d := by
  obtain ⟨-, took⟩ := handle_of_step took
  by_cases made : ∃ timeout smsPdu printed, e = .make timeout smsPdu printed
  · obtain ⟨timeout, smsPdu, printed, rfl⟩ := made
    cases took
    exact booked.reqMake timeout smsPdu printed
  by_cases ends : e = .message .close ∨ e = .exit
  · obtain rfl | rfl := ends
    · cases took; exact ⟨booked.ids, booked.ready⟩
    · cases took; exact ⟨booked.ids, booked.ready⟩
  · refine booked.keeps (handle_keeps took (fun timeout smsPdu printed same => ?_) (not_or.mp ends))
    exact made ⟨timeout, smsPdu, printed, same⟩

/-- No request is left to be completed. -/
def Drained (c : Comm) : Prop := c.currentReq = none ∧ c.requestsQueue = []

instance (c : Comm) : Decidable (Drained c) := inferInstanceAs (Decidable (_ ∧ _))

/-- The thread leaves its loop while requests are left, or one is accepted afterwards. -/
def Abandons (c : Comm) : Event → Prop
  | .message .close => ¬ Drained c
  | .make _ _ printed => c.running = false ∧ (cString printed).length < 80
  | _ => False

instance (c : Comm) (e : Event) : Decidable (Abandons c e) :=
  match e with
  | .message .close => inferInstanceAs (Decidable (¬ _))
  | .make .. => inferInstanceAs (Decidable (_ ∧ _))
  | .open | .timer | .requests | .message .refresh | .message .init | .read _ | .scan | .exit => isFalse id

/-- The engine is opened once. -/
def OpenedOnce (_ : Comm) (e : Event) : Prop := e ≠ .open

instance (c : Comm) (e : Event) : Decidable (OpenedOnce c e) := inferInstanceAs (Decidable (e ≠ .open))

theorem step_running (running : c.running) (lives : e ≠ .message .close) (took : c.step e = some d) : d.running := by
  obtain ⟨enabled, took⟩ := handle_of_step took
  by_cases made : ∃ timeout smsPdu printed, e = .make timeout smsPdu printed
  · obtain ⟨timeout, smsPdu, printed, rfl⟩ := made
    cases took
    unfold reqMake
    split
    · exact running
    · exact running
  have inside : e ≠ .exit := by
    rintro rfl
    have state : c.state = .closing := beq_iff_eq.mp enabled
    simp [Comm.running, state] at running
  refine (handle_keeps took (fun timeout smsPdu printed same => ?_) ⟨lives, inside⟩).running running
  exact made ⟨timeout, smsPdu, printed, same⟩

/-- Out of its loop, the thread completes nothing. -/
theorem step_stopped (stopped : c.running = false) (once : e ≠ .open) (took : c.step e = some d) :
    d.running = false ∧ (Drained d ↔ Drained c ∧ ¬ Abandons c e) := by
  obtain ⟨enabled, took⟩ := handle_of_step took
  cases e with
  | make timeout smsPdu printed =>
    cases took
    refine ⟨?_, ?_⟩
    · unfold reqMake
      split
      · exact stopped
      · exact stopped
    · by_cases fits : (cString printed).length < 80
      · have made : (c.reqMake timeout smsPdu printed).requestsQueue ≠ [] := by
          rw [reqMake, if_neg (Nat.not_le.mpr fits)]
          simp
        simp [Abandons, stopped, fits, Drained, made]
      · rw [reqMake, if_pos (Nat.le_of_not_lt fits)]
        simp [Abandons, stopped, fits]
  | «open» => exact absurd rfl once
  | timer => simp [Comm.enabled, stopped] at enabled
  | requests => simp [Comm.enabled, stopped] at enabled
  | message message => simp [Comm.enabled, stopped] at enabled
  | read chunk => simp [Comm.enabled, stopped] at enabled
  | scan =>
    obtain ⟨nread, -, took⟩ := Option.bind_eq_some_iff.mp took
    have idle : c.matchBuffer nread = some (c, 0) := by
      cases state : c.state <;> simp [Comm.running, state] at stopped <;> simp [matchBuffer, state]
    rw [scan, idle] at took
    cases took
    exact ⟨stopped, by simp [Abandons, Drained]⟩
  | exit =>
    cases took
    exact ⟨rfl, by simp [Abandons, Drained]⟩

theorem run_stopped {es : List Event} (run : Run step OpenedOnce c es d) (stopped : c.running = false) :
    Drained d ↔ Drained c ∧ ¬ Somewhere step Abandons c es := by
  induction run with
  | nil => simp [Somewhere]
  | cons once took _ ih =>
    obtain ⟨still, drained⟩ := step_stopped stopped once took
    rw [ih still, drained, Somewhere, took, Option.elim_some]
    tauto

theorem run_drained {es : List Event} (run : Run step OpenedOnce c es d) (running : c.running)
    (stopped : d.running = false) : Drained d ↔ ¬ Somewhere step Abandons c es := by
  induction run with
  | nil => rw [running] at stopped; cases stopped
  | @cons c next d e es once took rest ih =>
    rw [Somewhere, took, Option.elim_some]
    by_cases closes : e = .message .close
    · subst closes
      obtain ⟨-, closed⟩ := handle_of_step took
      cases closed
      rw [run_stopped rest rfl]
      simp only [Abandons]
      tauto
    · have here : ¬ Abandons c e := by
        cases e with
        | make timeout smsPdu printed =>
          rintro ⟨out, -⟩
          rw [running] at out
          cases out
        | message message => cases message <;> first | exact absurd rfl closes | exact nofun
        | _ => exact nofun
      rw [ih (step_running running closes took) stopped]
      simp [here]

/-- All are completed when none is left. -/
theorem Booked.completed_iff (booked : Booked c) :
    (∀ id < c.accepted, id ∈ c.completionQueue.map Req.id) ↔ Drained c := by
  have nodup : (c.requests.map Req.id).Nodup := booked.ids.nodup_iff.mpr List.nodup_range
  have known : ∀ id ∈ c.requests.map Req.id, id < c.accepted := fun id member =>
    List.mem_range.mp (booked.ids.mem_iff.mp member)
  rw [requests, List.append_assoc, List.map_append] at nodup
  obtain ⟨-, -, apart⟩ := List.nodup_append.mp nodup
  constructor
  · intro all
    have none : c.currentReq.toList ++ c.requestsQueue = [] := by
      refine List.eq_nil_iff_forall_not_mem.mpr fun req left => ?_
      have later : req.id ∈ (c.currentReq.toList ++ c.requestsQueue).map Req.id := List.mem_map_of_mem left
      refine apart req.id (all req.id (known req.id ?_)) req.id later rfl
      rw [requests, List.append_assoc, List.map_append]
      exact List.mem_append_right _ later
    obtain ⟨current, queue⟩ := List.append_eq_nil_iff.mp none
    exact ⟨Option.toList_eq_nil_iff.mp current, queue⟩
  · rintro ⟨current, queue⟩ id old
    have member := booked.ids.mem_iff.mpr (List.mem_range.mpr old)
    rw [requests, current, queue, List.append_nil] at member
    simpa using member

end Comm
open Comm

/-- No request is completed twice; and when the thread has ended all are completed,
exactly if none was abandoned. -/
theorem requests_complete_iff {urcClasses : List UrcClass} {es : List Event} {c : Comm}
    (run : Run step OpenedOnce (opened urcClasses) es c) :
    (c.completionQueue.map Req.id).Nodup ∧ (∀ req ∈ c.completionQueue, req.ready) ∧
    (c.state = .closed →
      ((∀ id < c.accepted, id ∈ c.completionQueue.map Req.id) ↔ ¬ Somewhere step Abandons (opened urcClasses) es)) := by
  have booked : Booked c := run.invariant Booked (fun booked _ => step_booked booked) ⟨.refl _, nofun⟩
  have nodup : (c.requests.map Req.id).Nodup := booked.ids.nodup_iff.mpr List.nodup_range
  rw [requests, List.append_assoc, List.map_append] at nodup
  refine ⟨(List.nodup_append.mp nodup).1, booked.ready, fun closed => ?_⟩
  have stopped : c.running = false := by rw [Comm.running, closed]; rfl
  rw [booked.completed_iff, run_drained run rfl stopped]

/-- Two requests, one sent to no avail and one flushed from the queue. -/
theorem failed_engine_completes_its_requests :
    ∃ c, follow step OpenedOnce (opened [])
        [.make 0 [] (ascii "AT"), .make 0 [] (ascii "ATZ"), .requests, .timer, .timer, .timer, .timer, .timer, .timer,
          .requests, .message .close, .exit] = some c ∧
      c.state = .closed ∧ c.accepted = 2 ∧ ∀ id < c.accepted, id ∈ c.completionQueue.map Req.id := by
  refine ⟨_, rfl, rfl, rfl, ?_⟩
  have run := follow_run step OpenedOnce (opened [])
    [.make 0 [] (ascii "AT"), .make 0 [] (ascii "ATZ"), .requests, .timer, .timer, .timer, .timer, .timer, .timer,
      .requests, .message .close, .exit] rfl
  exact ((requests_complete_iff run).2.2 rfl).mpr (by decide)

/-- A request in progress and one in the queue are left behind when the engine is closed. -/
theorem closing_abandons_requests :
    ∃ c, follow step OpenedOnce (opened [])
        [.make 0 [] (ascii "AT"), .make 0 [] (ascii "ATZ"), .requests, .message .close, .exit] = some c ∧
      c.state = .closed ∧ c.accepted = 2 ∧ c.completionQueue = [] ∧ ¬ ∀ id < c.accepted, id ∈ c.completionQueue.map Req.id := by
  refine ⟨_, rfl, rfl, rfl, rfl, fun claim => ?_⟩
  exact absurd (claim 0 (by decide)) (by decide)

end Vstuff.Vgsm
