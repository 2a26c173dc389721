import Mathlib.Data.List.Nodup
import Vstuff.Kstreamer.TopologyLock

/-! The packets that wait for the topology lock, in the order they came in: a
pass of the backlog rotates the queue, but the packets already put back, the
one being looked at and those still to come are always, in this order, what is
left of the packets that arrived. -/
namespace Vstuff.Kstreamer
open Transition
set_option linter.all false

/-- The queue up to the packet that ends the pass, and what is behind it. -/
def split (tail : Nat) : List Packet → List Packet × List Packet
  | [] => ([], [])
  | packet :: packets =>
    if packet.id = tail then ([packet], packets)
    else (packet :: (split tail packets).1, (split tail packets).2)

theorem split_at {tail : Nat} {before after : List Packet} {last : Packet} (here : last.id = tail)
    (others : ∀ packet ∈ before, packet.id ≠ tail) : split tail (before ++ last :: after) = (before ++ [last], after) := by
  induction before with
  | nil => rw [List.nil_append, split, if_pos here]; rfl
  | cons packet before ih =>
    obtain ⟨first, others⟩ := List.forall_mem_cons.mp others
    rw [List.cons_append, split, if_neg first, ih others]
    rfl

/-- What a client sends: requests that have a handler, all of them under its own
pid, which is not 0 where they ask for the lock. -/
def Proper (messages : List Nlmsghdr) : Prop :=
  ∀ nlh ∈ messages, nlh.served ∧ (nlh.locks → nlh.nlmsg_pid ≠ 0) ∧
    ∀ other ∈ messages, other.nlmsg_pid = nlh.nlmsg_pid

instance (messages : List Nlmsghdr) : Decidable (Proper messages) :=
  inferInstanceAs (Decidable (∀ nlh ∈ messages, _))

theorem Proper.rest {nlh : Nlmsghdr} {rest : List Nlmsghdr} (proper : Proper (nlh :: rest)) : Proper rest := by
  intro message member
  obtain ⟨served, named, same⟩ := proper message (List.mem_cons_of_mem _ member)
  exact ⟨served, named, fun other there => same other (List.mem_cons_of_mem _ there)⟩

namespace Packet

/-- Nobody has sent requests in both packets. -/
def apart (q r : Packet) : Prop := ∀ n ∈ q.rest, ∀ m ∈ r.rest, n.nlmsg_pid ≠ m.nlmsg_pid

instance (q r : Packet) : Decidable (q.apart r) := inferInstanceAs (Decidable (∀ n ∈ q.rest, _))

/-- Somebody else owns the lock. -/
def blocked (q : Packet) (owner : Nat) : Prop := owner ≠ 0 ∧ ∀ n ∈ q.rest, n.nlmsg_pid ≠ owner

end Packet

/-- The messages of one sender. -/
def ofPid (pid : Nat) (messages : List Nlmsghdr) : List Nlmsghdr := messages.filter (·.nlmsg_pid == pid)

/-- What is left of a packet. -/
def restOf (queue : List Packet) (i : Nat) : List Nlmsghdr := (queue.filter (·.id == i)).flatMap (·.rest)

namespace NetlinkState

variable {s t : NetlinkState} {nlh : Nlmsghdr}

/-- The requests of a packet that were handled, in the order they were. -/
def handledOf (s : NetlinkState) (i : Nat) : List Nlmsghdr := (s.handled.filter (·.packet == i)).map (·.nlh)

/-- The requests of a sender that were handled, in the order they were. -/
def handledFor (s : NetlinkState) (pid : Nat) : List Nlmsghdr := ofPid pid (s.handled.map (·.nlh))

/-- The packets of the backlog that this pass has still to look at. -/
def coming (s : NetlinkState) : List Packet :=
  match s.work with
  | some ⟨packet, some pass⟩ => if packet.id = pass.tail then [] else (split pass.tail s.backlog).1
  | _ => []

/-- The packets of the backlog that came before the one being looked at. -/
def passed (s : NetlinkState) : List Packet :=
  match s.work with
  | some ⟨packet, some pass⟩ => if packet.id = pass.tail then s.backlog else (split pass.tail s.backlog).2
  | _ => s.backlog

def current (s : NetlinkState) : List Packet := s.work.toList.map (·.packet)

/-- The packets that are not finished, in the order they came in. -/
def queue (s : NetlinkState) : List Packet := s.passed ++ s.current ++ s.coming

/-- The packets stand in line, some before and some after the one being looked
at: each is there once, and the pass ends with the last one. -/
structure Lined (s : NetlinkState) (before after : List Packet) : Prop where
  passed : s.passed = before
  coming : s.coming = after
  backlog : s.backlog = after ++ before
  tail : ∀ packet pass, s.work = some ⟨packet, some pass⟩ → ((packet :: after).getLast (by simp)).id = pass.tail
  plain : (∀ packet pass, s.work ≠ some ⟨packet, some pass⟩) → after = []
  nodup : ((before ++ s.current ++ after).map Packet.id).Nodup

variable {before after : List Packet}

theorem Lined.queue (lined : Lined s before after) : s.queue = before ++ s.current ++ after := by
  rw [NetlinkState.queue, lined.passed, lined.coming]

/-- A pass at its packet, with what the backlog holds before and behind its end. -/
theorem lined_pass {packet : Packet} {pass : Pass} (work : s.work = some ⟨packet, some pass⟩)
    (backlog : s.backlog = after ++ before) (tail : ((packet :: after).getLast (by simp)).id = pass.tail)
    (nodup : ((before ++ [packet] ++ after).map Packet.id).Nodup) : Lined s before after := by
  have current : s.current = [packet] := by rw [current, work]; rfl
  have apart : packet.id ∉ after.map Packet.id ∧ (after.map Packet.id).Nodup := by
    rw [List.append_assoc, List.map_append] at nodup
    exact List.nodup_cons.mp nodup.of_append_right
  have ends : (if packet.id = pass.tail then ([], s.backlog) else split pass.tail s.backlog) = (after, before) := by
    obtain rfl | ⟨first, last, rfl⟩ := List.eq_nil_or_concat' after
    · rw [List.getLast_singleton] at tail
      rw [if_pos tail, backlog]
      rfl
    · have here : last.id = pass.tail := by
        rw [List.getLast_cons (by simp), List.getLast_concat] at tail
        exact tail
      have other : packet.id ≠ pass.tail := by
        intro same
        exact apart.1 (by simp [same, here])
      have first_other : ∀ q ∈ first, q.id ≠ pass.tail := by
        intro q member same
        have nodup := apart.2
        rw [List.map_append] at nodup
        exact (List.nodup_append'.mp nodup).2.2 (List.mem_map.mpr ⟨q, member, rfl⟩) (by simp [same, here])
      rw [if_neg other, backlog, List.append_assoc, List.singleton_append, split_at here first_other]
  refine ⟨?_, ?_, backlog, ?_, fun plain => absurd work (plain _ _), current ▸ nodup⟩
  · have second := congrArg Prod.snd ends
    rw [NetlinkState.passed, work]
    dsimp only
    split at second
    · rename_i last
      rw [if_pos last]
      exact second
    · rename_i more
      rw [if_neg more]
      exact second
  · have first := congrArg Prod.fst ends
    rw [NetlinkState.coming, work]
    dsimp only
    split at first
    · rename_i last
      rw [if_pos last]
      exact first
    · rename_i more
      rw [if_neg more]
      exact first
  · rintro packet' pass' here
    cases work.symm.trans here
    exact tail

/-- Outside a pass everything in the backlog came before. -/
theorem lined_plain (plain : ∀ packet pass, s.work ≠ some ⟨packet, some pass⟩) (backlog : s.backlog = before)
    (nodup : ((before ++ s.current).map Packet.id).Nodup) : Lined s before [] := by
  refine ⟨?_, ?_, backlog, fun packet pass here => absurd here (plain packet pass), fun _ => rfl, by rwa [List.append_nil]⟩
  · rw [NetlinkState.passed]
    split
    · exact absurd ‹_› (plain _ _)
    · exact backlog
  · rw [NetlinkState.coming]
    split
    · exact absurd ‹_› (plain _ _)
    · rfl

/-- A pass starts with nothing put back. -/
theorem startPass_lined (nodup : (s.backlog.map Packet.id).Nodup) :
    (s.backlog = [] ∧ s.startPass = { s with work := none }) ∨
    ∃ packet backlog tail, s.backlog = packet :: backlog ∧
      s.startPass = { s with backlog := backlog, work := some ⟨packet, some ⟨tail, false⟩⟩ } ∧
      Lined s.startPass [] backlog := by
  cases there : s.backlog with
  | nil => exact .inl ⟨rfl, by rw [startPass, there]⟩
  | cons packet backlog =>
    have result : s.startPass = { s with
        backlog := backlog
        work := some ⟨packet, some ⟨((packet :: backlog).getLast (by simp)).id, false⟩⟩ } := by
      rw [startPass, there]
    refine .inr ⟨packet, backlog, _, rfl, result, ?_⟩
    rw [result]
    rw [there] at nodup
    exact lined_pass rfl (List.append_nil _).symm rfl nodup

/-- The end of a turn: the next packet of the pass, or the pass is over. -/
theorem endTurn_lined {packet : Packet} {pass : Pass} (backlog : s.backlog = after ++ before)
    (tail : ((packet :: after).getLast (by simp)).id = pass.tail) (other : packet.id ∉ after.map Packet.id)
    (nodup : ((before ++ after).map Packet.id).Nodup) :
    (after = [] ∧ s.endTurn packet pass = if pass.processed then s.startPass else { s with work := none }) ∨
    ∃ next rest, after = next :: rest ∧
      s.endTurn packet pass = { s with backlog := rest ++ before, work := some ⟨next, some pass⟩ } ∧
      Lined (s.endTurn packet pass) before rest := by
  cases after with
  | nil =>
    rw [List.getLast_singleton] at tail
    refine .inl ⟨rfl, ?_⟩
    rw [endTurn, if_pos tail]
  | cons next rest =>
    rw [List.getLast_cons (by simp)] at tail
    have differs : packet.id ≠ pass.tail := by
      rw [← tail]
      exact fun same => other (same ▸ List.mem_map.mpr ⟨_, List.getLast_mem _, rfl⟩)
    have result : s.endTurn packet pass = { s with backlog := rest ++ before, work := some ⟨next, some pass⟩ } := by
      rw [endTurn, if_neg differs, backlog]
      rfl
    refine .inr ⟨next, rest, rfl, result, ?_⟩
    rw [result]
    refine lined_pass rfl rfl tail ?_
    rwa [List.append_assoc]

/-- The packets of the queue are what is left of those that arrived. -/
structure Account (s : NetlinkState) (queue : List Packet) : Prop where
  nodup : (queue.map Packet.id).Nodup
  fresh : ∀ p ∈ queue, p.id < s.arrived.length
  heard : ∀ h ∈ s.handled, h.packet < s.arrived.length
  proper : ∀ p ∈ queue, Proper p.rest
  once : ∀ i messages, s.arrived[i]? = some messages → s.handledOf i ++ restOf queue i = messages
  order : ∀ pid, s.handledFor pid ++ ofPid pid (queue.flatMap (·.rest)) = ofPid pid s.arrived.flatten

section account

variable {queue : List Packet} {p : Packet} {rest : List Nlmsghdr}

theorem Account.of_same (account : Account s queue) (arrived : t.arrived = s.arrived) (handled : t.handled = s.handled) :
    Account t queue := by
  refine ⟨account.nodup, arrived ▸ account.fresh, ?_, account.proper, ?_, ?_⟩
  · rw [arrived, handled]
    exact account.heard
  · intro i messages there
    rw [handledOf, handled]
    exact account.once i messages (arrived ▸ there)
  · intro pid
    rw [arrived, handledFor, handled]
    exact account.order pid

/-- A finished packet leaves the queue. -/
theorem Account.finish (account : Account s (before ++ p :: after)) (finished : p.rest = []) : Account s (before ++ after) := by
  have part : (before ++ after).Sublist (before ++ p :: after) := (List.Sublist.refl before).append (.cons _ (.refl _))
  refine ⟨account.nodup.sublist (part.map _), fun q member => account.fresh q (part.subset member), account.heard,
    fun q member => account.proper q (part.subset member), fun i messages there => ?_, fun pid => ?_⟩
  · have once := account.once i messages there
    rw [restOf, List.filter_append, List.filter_cons, List.flatMap_append] at once
    rw [restOf, List.filter_append, List.flatMap_append]
    split at once
    · rw [List.flatMap_cons, finished, List.nil_append] at once
      exact once
    · exact once
  · have order := account.order pid
    rw [List.flatMap_append, List.flatMap_cons, finished, List.nil_append] at order
    rwa [List.flatMap_append]

theorem ofPid_append (pid : Nat) (l l' : List Nlmsghdr) : ofPid pid (l ++ l') = ofPid pid l ++ ofPid pid l' :=
  List.filter_append ..

theorem restOf_append (q q' : List Packet) (i : Nat) : restOf (q ++ q') i = restOf q i ++ restOf q' i := by
  rw [restOf, List.filter_append, List.flatMap_append]
  rfl

theorem restOf_other {i : Nat} (other : ∀ q ∈ queue, q.id ≠ i) : restOf queue i = [] := by
  rw [restOf, List.filter_eq_nil_iff.mpr fun q member => by simpa using other q member]
  rfl

/-- The first message of a packet is handled while no packet before it has one
of the same sender. -/
theorem Account.handle {owner : Nat} (account : Account s (before ++ p :: after)) (here : p.rest = nlh :: rest)
    (first : ∀ q ∈ before, ∀ n ∈ q.rest, n.nlmsg_pid ≠ nlh.nlmsg_pid) (arrived : t.arrived = s.arrived)
    (handled : t.handled = s.handled ++ [⟨p.id, nlh, owner⟩]) : Account t (before ++ { p with rest := rest } :: after) := by
  have ids : (before ++ { p with rest := rest } :: after).map Packet.id = (before ++ p :: after).map Packet.id := by
    rw [List.map_append, List.map_append]
    rfl
  have apart := account.nodup
  rw [List.map_append, List.map_cons] at apart
  obtain ⟨-, tail, separate⟩ := List.nodup_append'.mp apart
  have before_other : ∀ q ∈ before, q.id ≠ p.id := fun q member same =>
    separate (List.mem_map.mpr ⟨q, member, rfl⟩) (by simp [same])
  have after_other : ∀ q ∈ after, q.id ≠ p.id := fun q member same =>
    (List.nodup_cons.mp tail).1 (List.mem_map.mpr ⟨q, member, same⟩)
  have proper := account.proper p (by simp)
  rw [here] at proper
  refine ⟨ids ▸ account.nodup, ?_, ?_, ?_, fun i messages there => ?_, fun pid => ?_⟩
  · intro q member
    rw [arrived]
    obtain left | rfl | right := (List.mem_append.mp member).imp_right List.mem_cons.mp
    · exact account.fresh q (List.mem_append_left _ left)
    · exact account.fresh p (by simp)
    · exact account.fresh q (by simp [right])
  · intro h member
    rw [handled] at member
    rw [arrived]
    obtain old | new := List.mem_append.mp member
    · exact account.heard h old
    · rw [List.mem_singleton.mp new]
      exact account.fresh p (by simp)
  · intro q member
    obtain left | rfl | right := (List.mem_append.mp member).imp_right List.mem_cons.mp
    · exact account.proper q (List.mem_append_left _ left)
    · exact proper.rest
    · exact account.proper q (by simp [right])
  · have once := account.once i messages (arrived ▸ there)
    rw [handledOf, handled, List.filter_append, List.map_append]
    rw [handledOf, restOf_append, restOf, restOf] at once
    rw [restOf_append, restOf, restOf]
    by_cases this : p.id = i
    · subst this
      have nothing := restOf_other before_other
      rw [restOf] at nothing
      rw [nothing, List.nil_append] at once ⊢
      simp only [List.filter_cons, beq_self_eq_true, if_true, List.flatMap_cons, here, List.filter_nil, List.map_cons,
        List.map_nil] at once ⊢
      rw [← once, List.append_assoc]
      rfl
    · have this' : (p.id == i) = false := by simpa using this
      simp only [List.filter_cons, this', Bool.false_eq_true, if_false, List.filter_nil, List.map_nil,
        List.append_nil] at once ⊢
      exact once
  · have order := account.order pid
    rw [handledFor, handled, List.map_append, ofPid_append]
    rw [List.flatMap_append, List.flatMap_cons, here, ofPid_append, ofPid_append] at order
    rw [List.flatMap_append, List.flatMap_cons, ofPid_append, ofPid_append, arrived, ← order, handledFor]
    by_cases this : nlh.nlmsg_pid = pid
    · subst this
      have nothing : ofPid nlh.nlmsg_pid (before.flatMap (·.rest)) = [] := by
        refine List.filter_eq_nil_iff.mpr fun n member => ?_
        obtain ⟨q, there, in_q⟩ := List.mem_flatMap.mp member
        simpa using first q there n in_q
      rw [nothing]
      simp [ofPid]
    · simp [ofPid, this]

/-- A packet arrives behind all others. -/
theorem Account.arrive {messages : List Nlmsghdr} (account : Account s queue) (proper : Proper messages)
    (arrived : t.arrived = s.arrived ++ [messages]) (handled : t.handled = s.handled) :
    Account t (queue ++ [⟨s.arrived.length, messages⟩]) := by
  have long : t.arrived.length = s.arrived.length + 1 := by rw [arrived, List.length_append, List.length_singleton]
  refine ⟨?_, fun q member => ?_, fun h member => ?_, fun q member => ?_, fun i given there => ?_, fun pid => ?_⟩
  · rw [List.map_append]
    refine List.nodup_append'.mpr ⟨account.nodup, List.nodup_singleton _, fun id member new => ?_⟩
    obtain ⟨q, old, rfl⟩ := List.mem_map.mp member
    exact absurd (List.mem_singleton.mp new) (Nat.ne_of_lt (account.fresh q old))
  · rw [long]
    obtain old | new := List.mem_append.mp member
    · exact Nat.lt_succ_of_lt (account.fresh q old)
    · rw [List.mem_singleton.mp new]
      exact Nat.lt_succ_self _
  · rw [long]
    exact Nat.lt_succ_of_lt (account.heard h (handled ▸ member))
  · obtain old | new := List.mem_append.mp member
    · exact account.proper q old
    · rw [List.mem_singleton.mp new]
      exact proper
  · rw [handledOf, handled, restOf_append]
    rw [arrived] at there
    by_cases last : i = s.arrived.length
    · subst last
      have unheard : s.handled.filter (·.packet == s.arrived.length) = [] :=
        List.filter_eq_nil_iff.mpr fun h member => by simpa using Nat.ne_of_lt (account.heard h member)
      rw [unheard, restOf_other fun q member => Nat.ne_of_lt (account.fresh q member)]
      rw [List.getElem?_append_right (Nat.le_refl _), Nat.sub_self] at there
      simpa [restOf] using there
    · have earlier : i < s.arrived.length := by
        have bound := (List.getElem?_eq_some_iff.mp there).1
        rw [List.length_append, List.length_singleton] at bound
        omega
      rw [List.getElem?_append_left earlier] at there
      have none_left : restOf [⟨s.arrived.length, messages⟩] i = [] := restOf_other (by simpa using Ne.symm last)
      rw [none_left, List.append_nil]
      exact account.once i given there
  · rw [handledFor, handled, arrived, List.flatMap_append, List.flatten_append, ofPid_append, ofPid_append, ← account.order,
      handledFor, List.append_assoc]
    simp

end account

end NetlinkState
end Vstuff.Kstreamer
