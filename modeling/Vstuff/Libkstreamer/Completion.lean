import Vstuff.Libkstreamer.Conn
import Mathlib.Data.List.Nodup

/-! Which requests are done, and who has references to them, over every order of
queueing, sending, answers and timers. -/
namespace Vstuff.Libkstreamer
open Kstreamer (NLMSG_ERROR NLMSG_DONE KS_NETLINK_VERSION)
open Transition
set_option linter.all false

/-- A request that is on a list or not, and that its timer supervises or not: it is
done when it has left the lists, with the one result it was given, and it has a
reference for its caller, its list and its timer. -/
structure Req.Kept (req : Req) (listed awaited : Bool) : Prop where
  completed : req.completed = !listed
  results : req.results = if listed then [] else [req.err]
  timer : req.pending = awaited
  refcnt : req.refcnt = (!req.released).toNat + listed.toNat + awaited.toNat

namespace Req

variable {req : Req} {awaited : Bool}

theorem alive_of_pos (pos : 0 < req.refcnt) : req.alive = some req := if_neg (by omega)

theorem Kept.pos (kept : req.Kept true awaited) : 0 < req.refcnt := by
  rw [kept.refcnt, Bool.toNat_true]
  omega

theorem Kept.alive (kept : req.Kept true awaited) : req.alive = some req := alive_of_pos kept.pos

theorem put_of_pos (pos : 0 < req.refcnt) : req.put = some { req with refcnt := req.refcnt - 1 } := by
  rw [put, alive_of_pos pos]
  rfl

theorem get_of_pos (pos : 0 < req.refcnt) : req.get = some { req with refcnt := req.refcnt + 1 } := by
  rw [get, alive_of_pos pos]
  rfl

/-- The list puts its reference once a request of it is completed. -/
theorem Kept.complete (kept : req.Kept true awaited) (err : Int) :
    ∃ done, req.complete err = some done ∧ 0 < done.refcnt ∧ { done with refcnt := done.refcnt - 1 }.Kept false false := by
  obtain ⟨completed, results, timer, refcnt⟩ := kept
  cases awaited with
  | false =>
    refine ⟨{ req with err := err, completed := true, results := req.results ++ [err] }, ?_, ?_, ?_⟩
    · rw [Req.complete, timerStop, if_neg (by simp [timer])]
      exact congrArg (Option.bind · _) (alive_of_pos (by simp [refcnt]))
    · simp [refcnt]
    · exact ⟨rfl, by simp [results], timer, by simp [refcnt]⟩
  | true =>
    refine ⟨{ req with
      err := err, pending := false, refcnt := req.refcnt - 1, completed := true, results := req.results ++ [err] }, ?_, ?_, ?_⟩
    · rw [Req.complete, timerStop, if_pos (by simp [timer]), put_of_pos (by simp [refcnt])]
      exact congrArg (Option.bind · _) (alive_of_pos (by simp [refcnt]))
    · simp [refcnt]
    · exact ⟨rfl, by simp [results], rfl, by simp [refcnt]⟩

/-- The timer is started for the first time or once more. -/
theorem Kept.timerStart (kept : req.Kept true awaited) (expires : Nat) :
    ∃ waits, req.timerStart expires = some waits ∧ waits.Kept true true ∧
      waits.response_payload = req.response_payload ∧ waits.response_payload_size = req.response_payload_size := by
  obtain ⟨completed, results, timer, refcnt⟩ := kept
  rw [Req.timerStart]
  cases awaited with
  | false =>
    rw [if_neg (by simp [timer]), if_neg (by simp [timer])]
    refine ⟨_, get_of_pos (by simp [refcnt]), ⟨completed, results, rfl, ?_⟩, rfl, rfl⟩
    simp [refcnt]
  | true =>
    by_cases same : req.expires = expires
    · rw [if_pos ⟨timer, same⟩]
      exact ⟨req, rfl, ⟨completed, results, timer, refcnt⟩, rfl, rfl⟩
    · rw [if_neg (by simp [same]), if_pos timer, put_of_pos (by simp [refcnt])]
      refine ⟨_, get_of_pos (by simp [refcnt]), ⟨completed, results, rfl, ?_⟩, rfl, rfl⟩
      simp [refcnt]

/-- What does not touch these is of no account. -/
theorem Kept.of_eq {other : Req} {listed : Bool} (kept : req.Kept listed awaited)
    (same : (other.completed, other.results, other.err, other.pending, other.refcnt, other.released) =
      (req.completed, req.results, req.err, req.pending, req.refcnt, req.released)) : other.Kept listed awaited := by
  simp only [Prod.mk.injEq] at same
  obtain ⟨completed, results, err, pending, refcnt, released⟩ := same
  refine ⟨completed.trans kept.completed, ?_, pending.trans kept.timer, ?_⟩
  · rw [results, err, kept.results]
  · rw [refcnt, released, kept.refcnt]

end Req

namespace Conn

variable {conn later : Conn} {r : Nat} {req : Req}

/-- The request is on one of the lists. -/
def listed (conn : Conn) (r : Nat) : Bool :=
  r ∈ conn.requests_pending ∨ r ∈ conn.requests_waiting_ack ∨ r ∈ conn.requests_multi

/-- The request has been sent. -/
def awaited (conn : Conn) (r : Nat) : Bool := r ∈ conn.requests_waiting_ack ∨ r ∈ conn.requests_multi

/-- Every request is on one list until it is done, and on none from then on; nobody
has kept the lock. -/
structure Consistent (conn : Conn) : Prop where
  free : conn.requests_lock = false
  once : (conn.requests_pending ++ conn.requests_waiting_ack ++ conn.requests_multi).Nodup
  known : ∀ r, conn.listed r → r < conn.next
  kept : ∀ r < conn.next, (conn.reqs r).Kept (conn.listed r) (conn.awaited r)
  bare : ∀ r, r ∈ conn.requests_pending ∨ r ∈ conn.requests_waiting_ack →
    (conn.reqs r).response_payload = false ∧ (conn.reqs r).response_payload_size = 0

/-- What is done stays so, with the result it has. -/
structure Onward (conn later : Conn) : Prop where
  next : conn.next ≤ later.next
  result : ∀ r < conn.next, (conn.reqs r).completed → (later.reqs r).completed ∧ (later.reqs r).err = (conn.reqs r).err

theorem Onward.refl : conn.Onward conn := ⟨Nat.le_refl _, fun _ _ done => ⟨done, rfl⟩⟩

theorem Onward.trans {mid : Conn} (first : conn.Onward mid) (rest : mid.Onward later) : conn.Onward later := by
  refine ⟨Nat.le_trans first.next rest.next, fun r below done => ?_⟩
  obtain ⟨still, same⟩ := first.result r below done
  obtain ⟨last, result⟩ := rest.result r (Nat.lt_of_lt_of_le below first.next) still
  exact ⟨last, result.trans same⟩

theorem modify_eq {f : Req → Option Req} (pos : 0 < (conn.reqs r).refcnt) (done : f (conn.reqs r) = some req) :
    conn.modify r f = some { conn with reqs := Function.update conn.reqs r req } := by
  rw [modify, Req.alive_of_pos pos]
  exact congrArg (Option.bind · _) done

/-- The first request that is found; all of a list are alive. -/
theorem search_eq {p : Req → Bool} {rs : List Nat} (alive : ∀ r ∈ rs, 0 < (conn.reqs r).refcnt) :
    conn.search p rs = some (rs.find? fun r => p (conn.reqs r)) := by
  induction rs with
  | nil => rfl
  | cons r rs ih =>
    obtain ⟨here, rest⟩ := List.forall_mem_cons.mp alive
    rw [search, Req.alive_of_pos here]
    by_cases found : p (conn.reqs r)
    · rw [List.find?_cons_of_pos (p := fun r => p (conn.reqs r)) found]
      exact if_pos found
    · rw [List.find?_cons_of_neg (p := fun r => p (conn.reqs r)) found]
      exact (if_neg found).trans (ih rest)

namespace Consistent

theorem listed_iff : conn.listed r ↔
    r ∈ conn.requests_pending ∨ r ∈ conn.requests_waiting_ack ∨ r ∈ conn.requests_multi := decide_eq_true_iff

theorem awaited_iff : conn.awaited r ↔ r ∈ conn.requests_waiting_ack ∨ r ∈ conn.requests_multi := decide_eq_true_iff

theorem pos (held : conn.Consistent) (there : conn.listed r) : 0 < (conn.reqs r).refcnt := by
  have kept := held.kept r (held.known r there)
  rw [there] at kept
  exact kept.pos

/-- One request of the lists has changed, and where it is. -/
theorem change (held : conn.Consistent) (there : conn.listed r) (free : later.requests_lock = false)
    (next : later.next = conn.next)
    (once : (later.requests_pending ++ later.requests_waiting_ack ++ later.requests_multi).Nodup)
    (elsewhere : ∀ o ≠ r, (o ∈ later.requests_pending ↔ o ∈ conn.requests_pending) ∧
      (o ∈ later.requests_waiting_ack ↔ o ∈ conn.requests_waiting_ack) ∧
      (o ∈ later.requests_multi ↔ o ∈ conn.requests_multi) ∧ later.reqs o = conn.reqs o)
    (kept : (later.reqs r).Kept (later.listed r) (later.awaited r))
    (bare : r ∈ later.requests_pending ∨ r ∈ later.requests_waiting_ack →
      (later.reqs r).response_payload = false ∧ (later.reqs r).response_payload_size = 0) :
    later.Consistent ∧ conn.Onward later := by
  have same : ∀ o ≠ r, later.listed o = conn.listed o ∧ later.awaited o = conn.awaited o := by
    intro o other
    obtain ⟨pending, waiting, multi, -⟩ := elsewhere o other
    simp only [listed, awaited, pending, waiting, multi, and_self]
  refine ⟨⟨free, once, ?_, ?_, ?_⟩, Nat.le_of_eq next.symm, ?_⟩
  · intro o member
    rw [next]
    by_cases here : o = r
    · exact here ▸ held.known r there
    · exact held.known o ((same o here).1 ▸ member)
  · intro o below
    by_cases here : o = r
    · exact here ▸ kept
    · rw [(same o here).1, (same o here).2, (elsewhere o here).2.2.2]
      exact held.kept o (next ▸ below)
  · intro o member
    by_cases here : o = r
    · subst here
      exact bare member
    · obtain ⟨pending, waiting, -, reqs⟩ := elsewhere o here
      rw [pending, waiting] at member
      rw [reqs]
      exact held.bare o member
  · intro o below done
    by_cases here : o = r
    · subst here
      have open' := (held.kept o below).completed
      rw [there, done] at open'
      cases open'
    · rw [(elsewhere o here).2.2.2]
      exact ⟨done, rfl⟩

/-- One request has changed and is on other lists. -/
theorem moved {pending waiting multi : List Nat} (held : conn.Consistent) (there : conn.listed r)
    (once : (pending ++ waiting ++ multi).Nodup)
    (elsewhere : ∀ o ≠ r, (o ∈ pending ↔ o ∈ conn.requests_pending) ∧ (o ∈ waiting ↔ o ∈ conn.requests_waiting_ack) ∧
      (o ∈ multi ↔ o ∈ conn.requests_multi))
    (kept : req.Kept (decide (r ∈ pending ∨ r ∈ waiting ∨ r ∈ multi)) (decide (r ∈ waiting ∨ r ∈ multi)))
    (bare : r ∈ pending ∨ r ∈ waiting → req.response_payload = false ∧ req.response_payload_size = 0) :
    Conn.Consistent { conn with
      requests_pending := pending
      requests_waiting_ack := waiting
      requests_multi := multi
      reqs := Function.update conn.reqs r req } ∧
    conn.Onward { conn with
      requests_pending := pending
      requests_waiting_ack := waiting
      requests_multi := multi
      reqs := Function.update conn.reqs r req } := by
  have here : Function.update conn.reqs r req r = req := Function.update_self ..
  refine held.change there held.free rfl once ?_ ?_ ?_
  · intro o other
    obtain ⟨pending, waiting, multi⟩ := elsewhere o other
    exact ⟨pending, waiting, multi, Function.update_of_ne other ..⟩
  · dsimp only
    rw [here]
    exact kept
  · dsimp only
    rw [here]
    exact bare

/-- A request is on one of the lists, and there once. -/
theorem apart_of_pending (held : conn.Consistent) (there : r ∈ conn.requests_pending) :
    r ∉ conn.requests_pending.erase r ∧ r ∉ conn.requests_waiting_ack ∧ r ∉ conn.requests_multi := by
  have once := held.once
  simp only [List.nodup_append, List.mem_append] at once
  obtain ⟨⟨pending, -, waiting⟩, -, multi⟩ := once
  exact ⟨pending.not_mem_erase, fun also => waiting r there r also rfl, fun also => multi r (.inl there) r also rfl⟩

theorem apart_of_waiting (held : conn.Consistent) (there : r ∈ conn.requests_waiting_ack) :
    r ∉ conn.requests_pending ∧ r ∉ conn.requests_waiting_ack.erase r ∧ r ∉ conn.requests_multi := by
  have once := held.once
  simp only [List.nodup_append, List.mem_append] at once
  obtain ⟨⟨-, waiting, pending⟩, -, multi⟩ := once
  exact ⟨fun also => pending r also r there rfl, waiting.not_mem_erase, fun also => multi r (.inr there) r also rfl⟩

theorem apart_of_multi (held : conn.Consistent) (there : r ∈ conn.requests_multi) :
    r ∉ conn.requests_pending ∧ r ∉ conn.requests_waiting_ack ∧ r ∉ conn.requests_multi.erase r := by
  have once := held.once
  simp only [List.nodup_append, List.mem_append] at once
  obtain ⟨-, multi, others⟩ := once
  exact ⟨fun also => others r (.inl also) r there rfl, fun also => others r (.inr also) r there rfl, multi.not_mem_erase⟩

end Consistent

/-- A request is completed, and put by the list it was on. -/
theorem modify_complete {awaited : Bool} (kept : (conn.reqs r).Kept true awaited) (err : Int) :
    ∃ req, ((conn.modify r (Req.complete err)).bind fun conn => conn.modify r Req.put) =
      some { conn with reqs := Function.update conn.reqs r req } ∧ req.Kept false false := by
  obtain ⟨done, completes, pos, left⟩ := kept.complete err
  refine ⟨_, ?_, left⟩
  rw [modify_eq kept.pos completes, Option.bind_some]
  have here : Function.update conn.reqs r done r = done := Function.update_self ..
  rw [modify_eq (Nat.lt_of_lt_of_eq pos (congrArg Req.refcnt here.symm)) ((congrArg Req.put here).trans (Req.put_of_pos pos))]
  simp only [Function.update_idem]

theorem append_kept {nlh : Nlmsghdr} {memory awaited listed : Bool} (kept : req.Kept listed awaited) :
    ∃ more, req.append nlh memory = some more ∧ more.Kept listed awaited ∧ more.multi_seq = req.multi_seq := by
  refine ⟨_, rfl, kept.of_eq ?_, ?_⟩
  · cases memory <;> rfl
  · cases memory <;> rfl

namespace Consistent

/-- A request has left the list of those sent, and is done. -/
theorem answered (held : conn.Consistent) (there : r ∈ conn.requests_waiting_ack) (left : req.Kept false false) :
    Conn.Consistent { conn with
      requests_waiting_ack := conn.requests_waiting_ack.erase r
      reqs := Function.update conn.reqs r req } ∧
    conn.Onward { conn with
      requests_waiting_ack := conn.requests_waiting_ack.erase r
      reqs := Function.update conn.reqs r req } := by
  obtain ⟨pending, waiting, multi⟩ := held.apart_of_waiting there
  refine held.moved (listed_iff.mpr (.inr (.inl there))) ?_ ?_ ?_ ?_
  · exact held.once.sublist (((List.Sublist.refl _).append List.erase_sublist).append (List.Sublist.refl _))
  · exact fun o other => ⟨Iff.rfl, List.mem_erase_of_ne other, Iff.rfl⟩
  · simp only [pending, waiting, multi, or_self, decide_false]
    exact left
  · exact fun also => absurd also (not_or.mpr ⟨pending, waiting⟩)

/-- A request has left the list of those with a response in parts, and is done. -/
theorem ended (held : conn.Consistent) (there : r ∈ conn.requests_multi) (left : req.Kept false false) :
    Conn.Consistent { conn with
      requests_multi := conn.requests_multi.erase r
      reqs := Function.update conn.reqs r req } ∧
    conn.Onward { conn with
      requests_multi := conn.requests_multi.erase r
      reqs := Function.update conn.reqs r req } := by
  obtain ⟨pending, waiting, multi⟩ := held.apart_of_multi there
  refine held.moved (listed_iff.mpr (.inr (.inr there))) ?_ ?_ ?_ ?_
  · exact held.once.sublist ((List.Sublist.refl _).append List.erase_sublist)
  · exact fun o other => ⟨Iff.rfl, Iff.rfl, List.mem_erase_of_ne other⟩
  · simp only [pending, waiting, multi, or_self, decide_false]
    exact left
  · exact fun also => absurd also (not_or.mpr ⟨pending, waiting⟩)

/-- A request has got the first part of its response. -/
theorem begun (held : conn.Consistent) (there : r ∈ conn.requests_waiting_ack) (waits : req.Kept true true) :
    Conn.Consistent { conn with
      requests_waiting_ack := conn.requests_waiting_ack.erase r
      requests_multi := conn.requests_multi ++ [r]
      reqs := Function.update conn.reqs r req } ∧
    conn.Onward { conn with
      requests_waiting_ack := conn.requests_waiting_ack.erase r
      requests_multi := conn.requests_multi ++ [r]
      reqs := Function.update conn.reqs r req } := by
  obtain ⟨pending, waiting, multi⟩ := held.apart_of_waiting there
  refine held.moved (listed_iff.mpr (.inr (.inl there))) ?_ ?_ ?_ ?_
  · have moved : (conn.requests_waiting_ack.erase r ++ (conn.requests_multi ++ [r])).Perm
        (conn.requests_waiting_ack ++ conn.requests_multi) := by
      rw [← List.append_assoc]
      refine List.perm_append_comm.trans ?_
      exact (List.perm_cons_erase there).symm.append_right _
    have once := held.once
    rw [List.append_assoc] at once ⊢
    exact (moved.append_left _).nodup_iff.mpr once
  · intro o other
    simp [List.mem_erase_of_ne other, other]
  · simp only [List.mem_append, List.mem_singleton, or_true, decide_true]
    exact waits
  · exact fun also => absurd also (not_or.mpr ⟨pending, waiting⟩)

/-- A request is sent. -/
theorem sent (held : conn.Consistent) (there : r ∈ conn.requests_pending) (waits : req.Kept true true)
    (bare : req.response_payload = false ∧ req.response_payload_size = 0) :
    Conn.Consistent { conn with
      requests_pending := conn.requests_pending.erase r
      requests_waiting_ack := conn.requests_waiting_ack ++ [r]
      reqs := Function.update conn.reqs r req } ∧
    conn.Onward { conn with
      requests_pending := conn.requests_pending.erase r
      requests_waiting_ack := conn.requests_waiting_ack ++ [r]
      reqs := Function.update conn.reqs r req } := by
  refine held.moved (listed_iff.mpr (.inl there)) ?_ ?_ ?_ fun _ => bare
  · have moved : (conn.requests_pending.erase r ++ (conn.requests_waiting_ack ++ [r])).Perm
        (conn.requests_pending ++ conn.requests_waiting_ack) := by
      rw [← List.append_assoc]
      refine List.perm_append_comm.trans ?_
      exact (List.perm_cons_erase there).symm.append_right _
    exact (moved.append_right _).nodup_iff.mpr held.once
  · intro o other
    simp [List.mem_erase_of_ne other, other]
  · simp only [List.mem_append, List.mem_singleton, or_true, true_or, decide_true]
    exact waits

theorem kept_of_waiting (held : conn.Consistent) (there : r ∈ conn.requests_waiting_ack) : (conn.reqs r).Kept true true := by
  have listed : conn.listed r := listed_iff.mpr (.inr (.inl there))
  have awaited : conn.awaited r := awaited_iff.mpr (.inl there)
  have kept := held.kept r (held.known r listed)
  rwa [listed, awaited] at kept

theorem kept_of_multi (held : conn.Consistent) (there : r ∈ conn.requests_multi) : (conn.reqs r).Kept true true := by
  have listed : conn.listed r := listed_iff.mpr (.inr (.inr there))
  have awaited : conn.awaited r := awaited_iff.mpr (.inr there)
  have kept := held.kept r (held.known r listed)
  rwa [listed, awaited] at kept

theorem kept_of_pending (held : conn.Consistent) (there : r ∈ conn.requests_pending) : (conn.reqs r).Kept true false := by
  have listed : conn.listed r := listed_iff.mpr (.inl there)
  obtain ⟨-, waiting, multi⟩ := held.apart_of_pending there
  have awaited : conn.awaited r = false := decide_eq_false (not_or.mpr ⟨waiting, multi⟩)
  have kept := held.kept r (held.known r listed)
  rwa [listed, awaited] at kept

/-- An acknowledgement with a code, if it is an error, settles its request, or is the
first part of a response. -/
theorem acknowledge {nlh : Nlmsghdr} {now : Nat} {memory : Bool} (held : conn.Consistent)
    (there : r ∈ conn.requests_waiting_ack) (coded : nlh.nlmsg_type = NLMSG_ERROR → nlh.malformed = false) :
    ∃ later, conn.acknowledge r nlh now memory = some later ∧ later.Consistent ∧ conn.Onward later := by
  have kept := held.kept_of_waiting there
  obtain ⟨payload, size⟩ := held.bare r (.inr there)
  rw [Conn.acknowledge, if_neg (by simp [payload, size])]
  by_cases error : nlh.nlmsg_type = NLMSG_ERROR
  · obtain ⟨left, result, gone⟩ := @modify_complete
      { conn with requests_waiting_ack := conn.requests_waiting_ack.erase r } r true kept nlh.err
    rw [if_pos error, completeError, if_neg (by simp [coded error])]
    exact ⟨_, result, held.answered there gone⟩
  · obtain ⟨more, appended, settled, -⟩ := @append_kept (conn.reqs r) nlh memory true true kept
    rw [if_neg error, @modify_eq { conn with requests_waiting_ack := conn.requests_waiting_ack.erase r } r more _ kept.pos
      appended]
    have here : Function.update conn.reqs r more r = more := Function.update_self ..
    simp only [Option.bind_eq_bind, Option.bind_some]
    by_cases multi : nlh.multi
    · obtain ⟨waits, started, kept, -, -⟩ := settled.timerStart (now + timeout)
      rw [if_pos multi, modify_eq (Nat.lt_of_lt_of_eq settled.pos (congrArg Req.refcnt here.symm))
        ((congrArg (Req.timerStart _) here).trans started)]
      simp only [Function.update_idem]
      exact ⟨_, rfl, held.begun there kept⟩
    · rw [if_neg multi]
      obtain ⟨left, result, gone⟩ := @modify_complete
        { conn with
          requests_waiting_ack := conn.requests_waiting_ack.erase r
          reqs := Function.update conn.reqs r more } r true ((congrArg (Req.Kept · true true) here).mpr settled) 0
      simp only [Function.update_idem] at result
      exact ⟨_, result, held.answered there gone⟩

/-- A request that stays where it is. -/
theorem stayed (held : conn.Consistent) (there : conn.listed r) (kept : req.Kept true (conn.awaited r))
    (bare : r ∈ conn.requests_pending ∨ r ∈ conn.requests_waiting_ack →
      req.response_payload = false ∧ req.response_payload_size = 0) :
    Conn.Consistent { conn with reqs := Function.update conn.reqs r req } ∧
      conn.Onward { conn with reqs := Function.update conn.reqs r req } := by
  refine held.moved there held.once (fun _ _ => ⟨Iff.rfl, Iff.rfl, Iff.rfl⟩) ?_ bare
  rw [decide_eq_true (listed_iff.mp there)]
  exact kept

/-- The part that comes next, and no error, leaves its request where it is, or is the
last one. -/
theorem part {nlh : Nlmsghdr} {memory : Bool} (held : conn.Consistent) (there : r ∈ conn.requests_multi)
    (next : nlh.nlmsg_seq % 2 ^ 16 = (conn.reqs r).multi_seq) (fine : nlh.nlmsg_type ≠ NLMSG_ERROR) :
    ∃ later, conn.part r nlh memory = some later ∧ later.Consistent ∧ conn.Onward later := by
  have kept := held.kept_of_multi there
  obtain ⟨more, appended, settled, seq⟩ := @append_kept (conn.reqs r) nlh memory true true kept
  have here : Function.update conn.reqs r more r = more := Function.update_self ..
  have counted : ({ more with multi_seq := more.multi_seq + 1 } : Req).Kept true true := settled.of_eq rfl
  rw [Conn.part, if_neg (not_not.mpr next)]
  simp only [Option.bind_eq_bind, Option.bind_some]
  rw [if_neg fine, modify_eq kept.pos appended, Option.bind_some,
    modify_eq (Nat.lt_of_lt_of_eq settled.pos (congrArg Req.refcnt here.symm))
      (congrArg (fun req : Req => some { req with multi_seq := req.multi_seq + 1 }) here), Option.bind_some]
  simp only [Function.update_idem]
  by_cases done : nlh.nlmsg_type = NLMSG_DONE
  · rw [if_pos done]
    obtain ⟨left, result, gone⟩ := @modify_complete
      { conn with
        requests_multi := conn.requests_multi.erase r
        reqs := Function.update conn.reqs r { more with multi_seq := more.multi_seq + 1 } } r true
      ((congrArg (Req.Kept · true true) (Function.update_self ..)).mpr counted) 0
    simp only [Function.update_idem] at result
    exact ⟨_, result, held.ended there gone⟩
  · rw [if_neg done]
    obtain ⟨pending, waiting, -⟩ := held.apart_of_multi there
    have awaited : conn.awaited r := awaited_iff.mpr (.inr there)
    exact ⟨_, rfl, held.stayed (listed_iff.mpr (.inr (.inr there))) (awaited.symm ▸ counted)
      fun also => absurd also (not_or.mpr ⟨pending, waiting⟩)⟩

end Consistent

/-! ## Sending -/

theorem room_fresh {skb : Option Nat} (small : skb.all (· < 4080)) : ∃ used, room 0 skb = some used := by
  cases skb with
  | none => exact ⟨_, rfl⟩
  | some len =>
    rw [Option.all_some, decide_eq_true_eq] at small
    rw [room, if_neg (by omega)]
    exact ⟨_, if_neg (by omega)⟩

/-- With memory, a request that fits a new buffer gets room. -/
theorem place_spec {skb used : Option Nat} {allocs : List Bool} (small : skb.all (· < 4080)) (memory : false ∉ allocs) :
    (∀ result, place skb used allocs = some result →
      ∃ used, result.1 = some used ∧ false ∉ result.2 ∧ allocs.length ≤ result.2.length + 1) ∧
    (0 < allocs.length → (place skb used allocs).isSome) := by
  rw [place]
  cases used.bind (room · skb) with
  | some used =>
    refine ⟨?_, fun _ => rfl⟩
    rintro _ ⟨⟩
    exact ⟨_, rfl, memory, Nat.le_succ _⟩
  | none =>
    obtain ⟨used, fits⟩ := room_fresh small
    cases allocs with
    | nil => exact ⟨nofun, nofun⟩
    | cons answer allocs =>
      rw [List.mem_cons, not_or] at memory
      obtain ⟨yes, memory⟩ := memory
      obtain rfl : answer = true := Bool.not_eq_false _ ▸ fun no => yes no.symm
      dsimp only
      rw [renew, fits]
      refine ⟨?_, fun _ => rfl⟩
      rintro _ ⟨⟩
      exact ⟨_, rfl, memory, Nat.le_refl _⟩

namespace Consistent

/-- The requests are sent one by one. -/
theorem send {now : Nat → Nat} {used : Option Nat} {allocs : List Bool} {rs : List Nat} (held : conn.Consistent)
    (all : conn.requests_pending = rs) (memory : false ∉ allocs) (small : ∀ r ∈ rs, (conn.reqs r).skb.all (· < 4080)) :
    (∀ later, Conn.send now conn used allocs rs = some later → later.Consistent ∧ conn.Onward later) ∧
      (rs.length ≤ allocs.length → (Conn.send now conn used allocs rs).isSome) := by
  induction rs generalizing conn used allocs with
  | nil =>
    refine ⟨?_, fun _ => rfl⟩
    rintro _ ⟨⟩
    exact ⟨held, .refl⟩
  | cons r rs ih =>
    obtain ⟨here, others⟩ := List.forall_mem_cons.mp small
    have there : r ∈ conn.requests_pending := all ▸ List.mem_cons_self
    have kept := held.kept_of_pending there
    obtain ⟨fits, ends⟩ := @place_spec (conn.reqs r).skb used allocs here memory
    rw [Conn.send, kept.alive]
    simp only [Option.bind_eq_bind, Option.bind_some]
    cases placed : place (conn.reqs r).skb used allocs with
    | none =>
      rw [placed] at ends
      refine ⟨nofun, fun enough => absurd (ends (by simp at enough; omega)) nofun⟩
    | some result =>
      obtain ⟨used, room, memory, enough⟩ := fits result placed
      obtain ⟨_, allocs⟩ := result
      cases room
      obtain ⟨waits, started, settled, payload, size⟩ := kept.timerStart (now r + timeout)
      have bare := held.bare r (.inl there)
      obtain ⟨sent, onward⟩ := held.sent there settled ⟨payload.trans bare.1, size.trans bare.2⟩
      have rest : conn.requests_pending.erase r = rs := by rw [all, List.erase_cons_head]
      simp only [Option.bind_some]
      rw [@modify_eq { conn with
        requests_pending := conn.requests_pending.erase r
        requests_waiting_ack := conn.requests_waiting_ack ++ [r] } r waits _ kept.pos started]
      simp only [Option.bind_some]
      have still : ∀ o ∈ rs, (Function.update conn.reqs r waits o).skb.all (· < 4080) := by
        intro o member
        have other : o ≠ r := fun same => (held.apart_of_pending there).1 (rest ▸ same ▸ member)
        rw [Function.update_of_ne other]
        exact others o member
      obtain ⟨spec, done⟩ := @ih _ (some used) allocs sent rest memory still
      refine ⟨fun later sends => ?_, fun long => done ?_⟩
      · obtain ⟨held, rest⟩ := spec later sends
        exact ⟨held, onward.trans rest⟩
      · simp only [List.length_cons] at long enough
        omega

/-! ## Callers -/

/-- A new request. -/
theorem queueRequest (held : conn.Consistent) (skb : Option Nat) :
    ∃ later, conn.queueRequest (Req.alloc skb) = some later ∧ later.Consistent ∧ conn.Onward later := by
  have new : ∀ r, conn.listed r → r ≠ conn.next := fun r there same => Nat.ne_of_lt (held.known r there) same
  have absent : conn.next ∉ conn.requests_pending ++ conn.requests_waiting_ack ++ conn.requests_multi := by
    simp only [List.mem_append, or_assoc]
    exact fun there => new _ (listed_iff.mpr there) rfl
  rw [Conn.queueRequest, if_neg (by simp [held.free]), Req.get_of_pos (by simp [Req.alloc])]
  refine ⟨_, rfl, ⟨held.free, ?_, ?_, ?_, ?_⟩, Nat.le_succ _, ?_⟩
  · have moved : (conn.requests_pending ++ [conn.next] ++ conn.requests_waiting_ack ++ conn.requests_multi).Perm
        (conn.next :: (conn.requests_pending ++ conn.requests_waiting_ack ++ conn.requests_multi)) := by
      simp only [List.append_assoc, List.singleton_append]
      exact List.perm_middle
    exact moved.nodup_iff.mpr (List.nodup_cons.mpr ⟨absent, held.once⟩)
  · intro r there
    by_cases here : r = conn.next
    · exact here ▸ Nat.lt_succ_self _
    · refine Nat.lt_succ_of_lt (held.known r (listed_iff.mpr ?_))
      simpa [listed, here] using there
  · intro r below
    by_cases here : r = conn.next
    · subst here
      have waiting : conn.next ∉ conn.requests_waiting_ack := fun there => new _ (listed_iff.mpr (.inr (.inl there))) rfl
      have multi : conn.next ∉ conn.requests_multi := fun there => new _ (listed_iff.mpr (.inr (.inr there))) rfl
      simp only [listed, awaited, Function.update_self, List.mem_append, List.mem_singleton, waiting, multi, or_true,
        or_self, decide_false]
      exact ⟨rfl, rfl, rfl, rfl⟩
    · have kept := held.kept r (Nat.lt_of_le_of_ne (Nat.le_of_lt_succ below) here)
      simp only [listed, awaited, Function.update_of_ne here, List.mem_append, List.mem_singleton, here, or_false]
      exact kept
  · intro r there
    by_cases here : r = conn.next
    · subst here
      simp only [Function.update_self]
      exact ⟨rfl, rfl⟩
    · simp only [Function.update_of_ne here]
      simp only [List.mem_append, List.mem_singleton, here, or_false] at there
      exact held.bare r there
  · intro r below done
    dsimp only
    rw [Function.update_of_ne (Nat.ne_of_lt below)]
    exact ⟨done, rfl⟩

/-- A caller puts its reference. -/
theorem release (held : conn.Consistent) (below : r < conn.next) (has : (conn.reqs r).released = false) :
    ∃ later, (conn.modify r fun req => { req with released := true }.put) = some later ∧
      later.Consistent ∧ conn.Onward later := by
  have kept := held.kept r below
  have refcnt := kept.refcnt
  rw [has] at refcnt
  have pos : 0 < (conn.reqs r).refcnt := by
    simp at refcnt
    omega
  have result := @modify_eq conn r _ (fun req : Req => ({ req with released := true } : Req).put) pos
    (@Req.put_of_pos { conn.reqs r with released := true } pos)
  refine ⟨_, result, ⟨held.free, held.once, held.known, ?_, ?_⟩, Nat.le_refl _, ?_⟩
  · intro o below
    by_cases here : o = r
    · subst here
      dsimp only
      rw [Function.update_self]
      refine ⟨kept.completed, kept.results, kept.timer, ?_⟩
      change (conn.reqs o).refcnt - 1 = 0 + (conn.listed o).toNat + (conn.awaited o).toNat
      simp at refcnt
      omega
    · dsimp only
      rw [Function.update_of_ne here]
      exact held.kept o below
  · intro o there
    by_cases here : o = r
    · subst here
      dsimp only
      rw [Function.update_self]
      exact held.bare o there
    · dsimp only
      rw [Function.update_of_ne here]
      exact held.bare o there
  · intro o below done
    by_cases here : o = r
    · subst here
      dsimp only
      rw [Function.update_self]
      exact ⟨done, rfl⟩
    · dsimp only
      rw [Function.update_of_ne here]
      exact ⟨done, rfl⟩

end Consistent

/-! ## Runs -/

/-- The request that an acknowledgement is about. -/
def acknowledged (conn : Conn) (nlh : Nlmsghdr) : Option Nat :=
  conn.requests_waiting_ack.find? fun r => (conn.reqs r).id = nlh.nlmsg_seq

/-- The request that a part of a response is about. -/
def continued (conn : Conn) (nlh : Nlmsghdr) : Option Nat :=
  conn.requests_multi.find? fun r => (conn.reqs r).id / 2 ^ 16 = nlh.nlmsg_seq / 2 ^ 16

/-- An acknowledgement is for a request that waits for one, if any does, and has a
code if it is an error; a part for a request is the one it expects, and no error. -/
def Orderly (conn : Conn) (nlh : Nlmsghdr) : Prop :=
  if nlh.ack then
    conn.requests_waiting_ack = [] ∨
      (conn.acknowledged nlh).isSome ∧ (nlh.nlmsg_type = NLMSG_ERROR → nlh.malformed = false)
  else nlh.multi → ∀ r ∈ conn.continued nlh,
    nlh.nlmsg_seq % 2 ^ 16 = (conn.reqs r).multi_seq ∧ nlh.nlmsg_type ≠ NLMSG_ERROR

instance (conn : Conn) (nlh : Nlmsghdr) : Decidable (conn.Orderly nlh) := by
  unfold Orderly
  infer_instance

/-- No request runs out of time, there is memory to send the requests and each fits
a buffer, and the kernel answers in order. -/
def Clean (conn : Conn) : Event → Prop
  | .queue _ => True
  | .release _ => True
  | .send _ allocs => false ∉ allocs ∧ ∀ r ∈ conn.requests_pending, (conn.reqs r).skb.all (· < 4080)
  | .expire _ => False
  | .receive nlh _ _ => conn.Orderly nlh

instance (conn : Conn) (e : Event) : Decidable (conn.Clean e) := by
  cases e <;> unfold Clean <;> infer_instance

/-- The event can happen: a caller that puts a request has it, a timer that expires is
pending, and alloc_skb answers for as many requests as there are. -/
def Enabled (conn : Conn) : Event → Prop
  | .queue _ => True
  | .release r => r < conn.next ∧ (conn.reqs r).released = false
  | .send _ allocs => conn.requests_pending.length ≤ allocs.length
  | .expire r => (conn.reqs r).pending
  | .receive .. => True

namespace Consistent

theorem receive {nlh : Nlmsghdr} {now : Nat} {memory : Bool} (held : conn.Consistent) (orderly : conn.Orderly nlh) :
    ∃ later, conn.receiveUnicast nlh now memory = some later ∧ later.Consistent ∧ conn.Onward later := by
  rw [receiveUnicast]
  rw [Orderly] at orderly
  by_cases ack : nlh.ack
  · rw [if_pos ack, receiveAcknowledge, if_neg (by simp [held.free])]
    rw [if_pos ack] at orderly
    by_cases idle : conn.requests_waiting_ack = []
    · rw [if_pos idle]
      exact ⟨_, rfl, held, .refl⟩
    obtain ⟨found, coded⟩ := orderly.resolve_left idle
    obtain ⟨r, found⟩ := Option.isSome_iff_exists.mp found
    rw [if_neg idle, search_eq fun r there => (held.kept_of_waiting there).pos]
    change conn.requests_waiting_ack.find? _ = some r at found
    simp only [Option.bind_eq_bind, Option.bind_some, found]
    exact held.acknowledge (List.mem_of_find?_eq_some found) coded
  · rw [if_neg ack]
    rw [if_neg ack] at orderly
    by_cases multi : nlh.multi
    · rw [if_pos multi, receiveMulti, if_neg (by simp [held.free]),
        search_eq fun r there => (held.kept_of_multi there).pos]
      simp only [Option.bind_eq_bind, Option.bind_some]
      cases found : conn.requests_multi.find? fun r => decide ((conn.reqs r).id / 2 ^ 16 = nlh.nlmsg_seq / 2 ^ 16) with
      | none => exact ⟨_, rfl, held, .refl⟩
      | some r =>
        obtain ⟨next, fine⟩ := orderly multi r found
        exact held.part (List.mem_of_find?_eq_some found) next fine
    · rw [if_neg multi]
      exact ⟨_, rfl, held, .refl⟩

/-- What one event makes of the requests, and that it comes to an end. -/
theorem step {e : Event} (held : conn.Consistent) (clean : conn.Clean e) :
    (∀ later, Libkstreamer.step conn e = some later → later.Consistent ∧ conn.Onward later) ∧
      (conn.Enabled e → (Libkstreamer.step conn e).isSome) := by
  -- where the step is known to take place
  have of_result {o : Option Conn} (result : ∃ later, o = some later ∧ later.Consistent ∧ conn.Onward later) :
      (∀ later, o = some later → later.Consistent ∧ conn.Onward later) ∧ (conn.Enabled e → o.isSome) := by
    obtain ⟨later, took, spec⟩ := result
    subst took
    refine ⟨?_, fun _ => rfl⟩
    rintro _ ⟨⟩
    exact spec
  cases e with
  | queue skb => exact of_result (held.queueRequest skb)
  | release r =>
    dsimp only [Libkstreamer.step]
    by_cases has : r < conn.next ∧ ¬ (conn.reqs r).released
    · rw [if_pos has]
      exact of_result (held.release has.1 (Bool.not_eq_true _ ▸ has.2))
    · rw [if_neg has]
      exact ⟨nofun, fun enabled => absurd ⟨enabled.1, by simp [enabled.2]⟩ has⟩
  | send now allocs =>
    obtain ⟨memory, small⟩ := clean
    change (∀ later, conn.sendRequests now allocs = some later → _) ∧ (_ → (conn.sendRequests now allocs).isSome)
    rw [sendRequests, if_neg (by simp [held.free])]
    exact held.send rfl memory small
  | expire r => exact clean.elim
  | receive nlh now memory => exact of_result (held.receive clean)

theorem init : ({} : Conn).Consistent := by
  refine ⟨rfl, List.nodup_nil, ?_, fun r below => absurd below (Nat.not_lt_zero r), ?_⟩
  · intro r there
    simp [listed] at there
  · intro r there
    simp at there

theorem run {es : List Event} (held : conn.Consistent) (run : Run Libkstreamer.step Clean conn es later) :
    later.Consistent ∧ conn.Onward later := by
  induction run with
  | nil => exact ⟨held, .refl⟩
  | cons clean took _ ih =>
    obtain ⟨kept, onward⟩ := (held.step clean).1 _ took
    obtain ⟨last, rest⟩ := ih kept
    exact ⟨last, onward.trans rest⟩

end Consistent

/-- In every run without a request that runs out of time, where there is memory to
send them and the kernel answers in order: a request is on one list until it is
done, and on none from then on; it is completed once, and keeps its result; its
references are those of its caller, its list and its timer; the lock is given
back, and whatever happens next comes to an end. -/
theorem requests_complete_once_of_run {es es' : List Event} (before : Run step Clean {} es conn)
    (after : Run step Clean conn es' later) :
    conn.Consistent ∧ conn.Onward later ∧ ∀ e, conn.Enabled e → conn.Clean e → (step conn e).isSome := by
  have held := (Consistent.init.run before).1
  exact ⟨held, (held.run after).2, fun e enabled clean => (held.step clean).2 enabled⟩

/-- A message that answers the first request. -/
def answer (multi : Bool) (type part : Nat) : Event :=
  .receive { nlmsg_type := type, ack := part = 0, multi := multi, nlmsg_seq := 0xF1CA0000 + part } 0 true

/-- A response in two parts. -/
def inParts : List Event :=
  [.queue none, .send (fun _ => 0) [true], answer true 34 0, answer true NLMSG_DONE 1, .release 0]

theorem response_in_parts_completes_once : ∃ conn : Conn, conn.Consistent ∧ (conn.reqs 0).results = [0] ∧
    (conn.reqs 0).refcnt = 0 := by
  have reached : (follow step Clean {} inParts).map (fun conn => ((conn.reqs 0).results, (conn.reqs 0).refcnt)) =
      some ([0], 0) := by
    decide +kernel
  obtain ⟨conn, reached, same⟩ := Option.map_eq_some_iff.mp reached
  obtain ⟨results, refcnt⟩ := Prod.mk.inj same
  obtain ⟨held, -, -⟩ := requests_complete_once_of_run (follow_run _ _ _ _ reached) (Run.nil conn)
  exact ⟨conn, held, results, refcnt⟩

/-- A request that has run out of time stays on the list of those sent, and the answer
that comes late completes it once more. -/
def tooLate : List Event := [.queue none, .send (fun _ => 0) [true], .expire 0, answer false KS_NETLINK_VERSION 0]

theorem late_answer_completes_once_more : ∃ conn : Conn, Run step Any {} tooLate conn ∧
    (conn.reqs 0).results = [-ETIMEDOUT, 0] ∧ (conn.reqs 0).err = 0 ∧ ¬ conn.Consistent := by
  have reached : (follow step Any {} tooLate).map
      (fun conn => ((conn.reqs 0).results, (conn.reqs 0).err, conn.next, conn.listed 0)) =
        some ([-ETIMEDOUT, 0], 0, 1, false) := by
    decide +kernel
  obtain ⟨conn, reached, same⟩ := Option.map_eq_some_iff.mp reached
  simp only [Prod.mk.injEq] at same
  obtain ⟨results, err, next, left⟩ := same
  refine ⟨conn, follow_run _ _ _ _ reached, results, err, fun held => ?_⟩
  have kept := held.kept 0 (by omega)
  rw [left] at kept
  have once := kept.results
  rw [results] at once
  exact absurd (congrArg List.length once) (by simp)

end Conn
end Vstuff.Libkstreamer
