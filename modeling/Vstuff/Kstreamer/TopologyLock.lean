import Vstuff.Kstreamer.Netlink
import Mathlib.Algebra.Ring.Int.Defs

/-! The topology lock over every order of requests, kernel-side sections and
expiries of its timer: who owns it, how deep, and what is let go when it is
free. -/
namespace Vstuff.Kstreamer
open Transition
set_option linter.all false

/-- The message asks for the lock. -/
def Nlmsghdr.locks (nlh : Nlmsghdr) : Bool :=
  nlh.request && (nlh.command == some .topologyLock || nlh.command == some .topologyTrylock)

namespace NetlinkState

variable {s t : NetlinkState} {nlh : Nlmsghdr}

/-- All but the buffers of the replies and of the notices. -/
def core (s : NetlinkState) : NetlinkState :=
  { s with
    out_skb := none
    written := []
    unicasts := []
    mcast_seqnum := 0
    mcast_skb := none
    mcast_queue := []
    broadcasts := [] }

@[simp] theorem core_core : s.core.core = s.core := rfl

theorem needSkb_core : s.needSkb.core = s.core := by
  rw [needSkb]
  split <;> rfl

theorem flush_core : s.flush.core = s.core := by
  rw [flush]
  split <;> rfl

theorem put_core (reply : Reply) (fits : Bool) : (s.put nlh reply fits).core = s.core := by
  cases fits with
  | true => exact needSkb_core
  | false => exact needSkb_core.trans (flush_core.trans needSkb_core)

theorem sendAck_core (nlh : Nlmsghdr) : (s.sendAck nlh).core = s.core := put_core _ _

theorem sendError_core (nlh : Nlmsghdr) (error : Int) : (s.sendError nlh error).core = s.core := put_core _ _

theorem mcastNeedSkb_core : s.mcastNeedSkb.core = s.core := by
  rw [mcastNeedSkb]
  split <;> rfl

theorem mcastNeedAnotherSkb_core : s.mcastNeedAnotherSkb.core = s.core := by
  rw [mcastNeedAnotherSkb]
  split
  · exact mcastNeedSkb_core
  · exact mcastNeedSkb_core

theorem mcastSend_core (fits : Bool) : (s.mcastSend fits).core = s.core := by
  cases fits with
  | true => exact mcastNeedSkb_core
  | false => exact mcastNeedAnotherSkb_core.trans mcastNeedSkb_core

theorem mcastFlush_core : s.mcastFlush.core = s.core := by
  rw [mcastFlush]
  split <;> rfl

theorem write_core (nlh : Nlmsghdr) (write : Write) : (s.write nlh write).core = s.core := by
  cases write with
  | response kind seq fits => exact put_core _ _
  | mcast fits => exact mcastSend_core fits

theorem writes_core (nlh : Nlmsghdr) (writes : List Write) : (writes.foldl (write nlh) s).core = s.core := by
  induction writes generalizing s with
  | nil => rfl
  | cons w writes ih => exact ih.trans (write_core nlh w)

/-- No notice to the topology group is waiting. -/
def Quiet (s : NetlinkState) : Prop := s.mcast_skb = none ∧ s.mcast_queue = []

theorem mcastFlush_quiet (free : s.lock_owner = 0) : s.mcastFlush.Quiet := by
  rw [mcastFlush, if_neg (by rw [free]; exact fun nothing => nothing rfl)]
  exact ⟨rfl, rfl⟩

/-- What a handler may do to the lock. -/
inductive Locks (s t : NetlinkState) (nlh : Nlmsghdr) : Prop where
  | same (core : t.core = s.core)
  | taken (free : s.lock_owner = 0) (named : nlh.nlmsg_pid ≠ 0)
      (core : t.core = { s.core with
        lock_owner := nlh.nlmsg_pid, lock_depth := wrap (s.lock_depth + 1), lock_timer := true, held := [.locked] })
  | nested (asks : nlh.locks) (owns : s.lock_owner = nlh.nlmsg_pid) (held : s.lock_owner ≠ 0)
      (core : t.core = { s.core with lock_depth := wrap (s.lock_depth + 1), held := s.held ++ [.locked] })
  | given (owns : s.lock_owner ≠ 0) (some : wrap (s.lock_depth - 1) ≠ 0)
      (core : t.core = { s.core with lock_depth := wrap (s.lock_depth - 1), held := s.held ++ [.unlocked] })
  | freed (unlocks : nlh.command = some .topologyUnlock) (owns : s.lock_owner ≠ 0) (last : wrap (s.lock_depth - 1) = 0)
      (core : t.core = { s.core with lock_owner := 0, lock_depth := 0, lock_timer := false, held := [] })

theorem Locks.of_core {r : NetlinkState} (locks : Locks s t nlh) (same : r.core = t.core) : Locks s r nlh := by
  cases locks with
  | same core => exact .same (same.trans core)
  | taken free named core => exact .taken free named (same.trans core)
  | nested asks owns held core => exact .nested asks owns held (same.trans core)
  | given owns some core => exact .given owns some (same.trans core)
  | freed unlocks owns last core => exact .freed unlocks owns last (same.trans core)

/-- `ks_do_lock` for somebody who may have the lock. -/
theorem doLock_locks (asks : nlh.locks) (named : nlh.nlmsg_pid ≠ 0)
    (mine : s.lock_owner = 0 ∨ s.lock_owner = nlh.nlmsg_pid) (clear : s.lock_owner = 0 → s.lock_depth = 0) : ∃ t, s.doLock nlh = some t ∧ Locks s t nlh := by
  rw [doLock]
  by_cases free : s.lock_owner = 0
  · rw [if_pos free, if_neg (not_not.mpr (clear free))]
    refine ⟨_, rfl, .taken free named ?_⟩
    have flushed := @mcastFlush_core { s with
      lock_owner := nlh.nlmsg_pid, lock_depth := wrap (s.lock_depth + 1), held := [.locked] }
    exact congrArg (fun core : NetlinkState => { core with lock_timer := true }) flushed
  · rw [if_neg free]
    exact ⟨_, rfl, .nested asks (mine.resolve_left free) free rfl⟩

theorem cmdTopologyUnlock_locks (unlocks : nlh.command = some .topologyUnlock) : Locks s (s.cmdTopologyUnlock nlh).1 nlh := by
  rw [cmdTopologyUnlock]
  split
  · exact .same rfl
  · rename_i owned
    split
    · exact .same rfl
    · dsimp only
      split
      · rename_i last
        refine .freed unlocks owned last ((mcastFlush_core.trans (sendAck_core nlh)).trans ?_)
        change { s.core with lock_owner := 0, lock_depth := wrap (s.lock_depth - 1), lock_timer := false, held := [] } = _
        rw [show wrap (s.lock_depth - 1) = 0 from last]
      · rename_i more
        exact .given owned more (sendAck_core nlh)

/-- Every handler, for a sender that may have the lock and, if it asks for it,
has a pid. -/
theorem handler_locks {cmd : Command} (request : nlh.request) (known : nlh.command = some cmd)
    (mine : s.lock_owner = 0 ∨ s.lock_owner = nlh.nlmsg_pid) (clear : s.lock_owner = 0 → s.lock_depth = 0)
    (named : nlh.locks → nlh.nlmsg_pid ≠ 0) : ∃ t err, s.handler nlh cmd = some (t, err) ∧ Locks s t nlh := by
  have own : ¬ (s.lock_owner ≠ 0 ∧ s.lock_owner ≠ nlh.nlmsg_pid) := fun ⟨held, other⟩ => mine.elim held other
  cases cmd with
  | done => exact ⟨_, _, rfl, .same rfl⟩
  | noop => exact ⟨_, _, rfl, .same (sendAck_core nlh)⟩
  | version => exact ⟨_, _, rfl, .same (put_core _ _)⟩
  | topologyLock =>
    have asks : nlh.locks := by simp [Nlmsghdr.locks, request, known]
    have pid := named asks
    obtain ⟨t, done, locks⟩ := doLock_locks asks pid mine clear
    refine ⟨t.sendAck nlh, 0, ?_, locks.of_core (sendAck_core nlh)⟩
    rw [handler, cmdTopologyLock, if_neg own, if_neg pid, done]
    rfl
  | topologyTrylock =>
    have asks : nlh.locks := by simp [Nlmsghdr.locks, request, known]
    have pid := named asks
    obtain ⟨t, done, locks⟩ := doLock_locks asks pid mine clear
    refine ⟨t.sendAck nlh, 0, ?_, locks.of_core (sendAck_core nlh)⟩
    rw [handler, cmdTopologyTrylock, if_neg pid, if_neg own, done]
    rfl
  | topologyUnlock => exact ⟨_, _, rfl, cmdTopologyUnlock_locks known⟩
  | notImplemented => exact ⟨_, _, rfl, .same rfl⟩
  | object => exact ⟨_, _, rfl, .same (writes_core nlh nlh.writes)⟩

/-- The handler of the message is entered. -/
def entered (s : NetlinkState) (packet : Nat) (nlh : Nlmsghdr) : NetlinkState :=
  { s with
    cur_pid := nlh.nlmsg_pid
    cur_seq := nlh.nlmsg_seq
    handled := s.handled ++ [⟨packet, nlh, s.lock_owner⟩] }

/-- What becomes of one message. -/
inductive Received (s : NetlinkState) (packet : Nat) (nlh : Nlmsghdr) : Prop where
  | refused (unserved : nlh.served = false) (result : s.rcvMsg packet nlh = some (s, -EINVAL))
  | again (served : nlh.served) (owned : s.lock_owner ≠ 0) (other : s.lock_owner ≠ nlh.nlmsg_pid)
      (result : s.rcvMsg packet nlh = some (s, -EAGAIN))
  | handled (t : NetlinkState) (served : nlh.served) (mine : s.lock_owner = 0 ∨ s.lock_owner = nlh.nlmsg_pid)
      (result : s.rcvMsg packet nlh = some (t, 0)) (locks : Locks (s.entered packet nlh) t nlh)
      (quiet : t.lock_owner = 0 → t.Quiet)

theorem flushed_core {r : NetlinkState} : r.flush.mcastFlush.core = r.core := mcastFlush_core.trans flush_core

theorem flushed_quiet {r : NetlinkState} (free : r.flush.mcastFlush.lock_owner = 0) : r.flush.mcastFlush.Quiet := by
  have same : r.flush.core.lock_owner = r.flush.mcastFlush.core.lock_owner := congrArg _ mcastFlush_core.symm
  exact mcastFlush_quiet (same.trans free)

theorem rcvMsg_received {packet : Nat} (clear : s.lock_owner = 0 → s.lock_depth = 0)
    (named : nlh.locks → s.lock_owner = 0 ∨ s.lock_owner = nlh.nlmsg_pid → nlh.nlmsg_pid ≠ 0) :
    Received s packet nlh := by
  by_cases request : nlh.request
  · cases known : nlh.command with
    | none =>
      refine .refused (by simp [Nlmsghdr.served, known]) ?_
      rw [rcvMsg, if_neg (not_not.mpr request), known]
    | some cmd =>
      have served : nlh.served := by simp [Nlmsghdr.served, request, known]
      by_cases own : s.lock_owner ≠ 0 ∧ s.lock_owner ≠ nlh.nlmsg_pid
      · refine .again served own.1 own.2 ?_
        rw [rcvMsg, if_neg (not_not.mpr request), known]
        exact if_pos own
      · have mine : s.lock_owner = 0 ∨ s.lock_owner = nlh.nlmsg_pid := by
          by_cases free : s.lock_owner = 0
          · exact .inl free
          · exact .inr (not_not.mp fun other => own ⟨free, other⟩)
        obtain ⟨t, err, done, locks⟩ := @handler_locks (s.entered packet nlh) nlh cmd request known mine clear
          fun asks => named asks mine
        have result : s.rcvMsg packet nlh =
            some ((if err < 0 then t.sendError nlh err else t).flush.mcastFlush, 0) := by
          rw [rcvMsg, if_neg (not_not.mpr request), known]
          refine (if_neg own).trans ?_
          change (((s.entered packet nlh).handler nlh cmd).map _) = _
          rw [done]
          rfl
        refine .handled _ served mine result (locks.of_core (flushed_core.trans ?_)) flushed_quiet
        split
        · exact sendError_core nlh err
        · rfl
  · refine .refused (by simp [Nlmsghdr.served, request]) ?_
    rw [rcvMsg, if_pos request]

/-- The lock is held exactly while it is deep, and while its timer runs; the
depth counts what its owner asked for. -/
structure Deep (owner : Nat) (depth : Int) (timer : Bool) (held : List Held) : Prop where
  deep : owner ≠ 0 ↔ 0 < depth
  timer : owner ≠ 0 ↔ timer
  counts : depth = held.count .locked - held.count .unlocked
  clear : owner = 0 → held = []
  range : depth < 2 ^ 31

def Owned (s : NetlinkState) : Prop := Deep s.lock_owner s.lock_depth s.lock_timer s.held

theorem wrap_up {d : Int} (low : 0 ≤ d) (high : d + 1 < 2 ^ 31) : wrap (d + 1) = d + 1 :=
  Int.bmod_eq_of_le_mul_two (by omega) (by omega)

theorem wrap_down {d : Int} (low : 0 < d) (high : d < 2 ^ 31) : wrap (d - 1) = d - 1 :=
  Int.bmod_eq_of_le_mul_two (by omega) (by omega)

theorem Deep.none : Deep 0 0 false [] :=
  ⟨by decide, by decide, by decide, fun _ => rfl, by decide⟩

theorem Deep.taken {pid : Nat} (named : pid ≠ 0) : Deep pid (wrap (0 + 1)) true [.locked] := by
  rw [wrap_up (by decide) (by decide)]
  exact ⟨iff_of_true named (by decide), iff_of_true named rfl, by decide, fun nobody => absurd nobody named, by decide⟩

section

variable {owner : Nat} {depth : Int} {timer : Bool} {held : List Held}

theorem Deep.zero (deep : Deep owner depth timer held) (free : owner = 0) : depth = 0 := by
  rw [deep.counts, deep.clear free]
  rfl

theorem Deep.nested (deep : Deep owner depth timer held) (owned : owner ≠ 0) (room : depth ≠ 2 ^ 31 - 1) :
    Deep owner (wrap (depth + 1)) timer (held ++ [.locked]) := by
  have positive := deep.deep.mp owned
  have range := deep.range
  have counts := deep.counts
  rw [wrap_up (by omega) (by omega)]
  refine ⟨iff_of_true owned (by omega), deep.timer, ?_, fun nobody => absurd nobody owned, by omega⟩
  rw [List.count_append, List.count_append, List.count_singleton_self, List.count_singleton]
  simp only [beq_iff_eq, reduceCtorEq, if_false]
  omega

theorem Deep.given (deep : Deep owner depth timer held) (owned : owner ≠ 0) (more : wrap (depth - 1) ≠ 0) :
    Deep owner (wrap (depth - 1)) timer (held ++ [.unlocked]) := by
  have positive := deep.deep.mp owned
  have range := deep.range
  have counts := deep.counts
  rw [wrap_down positive range] at more ⊢
  refine ⟨iff_of_true owned (by omega), deep.timer, ?_, fun nobody => absurd nobody owned, by omega⟩
  rw [List.count_append, List.count_append, List.count_singleton_self, List.count_singleton]
  simp only [beq_iff_eq, reduceCtorEq, if_false]
  omega

end

theorem Owned.of_core (owned : s.Owned) (same : t.core = s.core) : t.Owned := by
  have lifted : t.core.Owned := same ▸ (owned : s.core.Owned)
  exact lifted

theorem Owned.locks (owned : s.Owned) (room : nlh.locks → s.lock_depth ≠ 2 ^ 31 - 1) (locks : Locks s t nlh) : t.Owned := by
  cases locks with
  | same core => exact owned.of_core core
  | taken free named core =>
    have taken := Deep.taken named
    rw [← Deep.zero owned free] at taken
    have lifted : t.core.Owned := core ▸ taken
    exact lifted
  | nested asks owns held core =>
    have lifted : t.core.Owned := core ▸ Deep.nested owned held (room asks)
    exact lifted
  | given held more core =>
    have lifted : t.core.Owned := core ▸ Deep.given owned held more
    exact lifted
  | freed _ held last core =>
    have lifted : t.core.Owned := core ▸ Deep.none
    exact lifted

/-- What the lock has nothing to do with. -/
def others (s : NetlinkState) :
    List Packet × Option Work × Bool × List (List Nlmsghdr) × List Handled × List Nat :=
  (s.backlog, s.work, s.bug, s.arrived, s.handled, s.sections)

theorem others_of_core (same : t.core = s.core) : t.others = s.others := by
  have lifted : t.core.others = s.core.others := congrArg others same
  exact lifted

theorem Locks.others (locks : Locks s t nlh) : t.others = s.others := by
  cases locks with
  | same core => exact others_of_core core
  | taken _ _ core =>
    have lifted : t.core.others = s.core.others := by rw [core]; rfl
    exact lifted
  | nested _ _ _ core =>
    have lifted : t.core.others = s.core.others := by rw [core]; rfl
    exact lifted
  | given _ _ core =>
    have lifted : t.core.others = s.core.others := by rw [core]; rfl
    exact lifted
  | freed _ _ _ core =>
    have lifted : t.core.others = s.core.others := by rw [core]; rfl
    exact lifted

theorem put_quiet {reply : Reply} {fits : Bool} : (s.put nlh reply fits).Quiet ↔ s.Quiet := by
  have need : ∀ {r : NetlinkState}, r.needSkb.Quiet ↔ r.Quiet := by
    intro r
    rw [needSkb]
    split <;> rfl
  have flush : ∀ {r : NetlinkState}, r.flush.Quiet ↔ r.Quiet := by
    intro r
    rw [NetlinkState.flush]
    split <;> rfl
  cases fits with
  | true => exact need
  | false => exact need.trans (flush.trans need)

/-- Nothing is left waiting for the lock when it is free: no notice, unless the
receive path is going to flush it, and no packet, unless it goes through the
backlog. -/
structure Deferred (s : NetlinkState) : Prop where
  idle : s.work = none → s.lock_owner = 0 → s.Quiet ∧ s.backlog = []
  busy : ∀ work, s.work = some work → s.lock_owner = 0 →
    s.Quiet ∨ work.packet.rest.any (·.served) ∨ s.backlog ≠ []
  waiting : ∀ packet ∈ s.backlog, packet.rest.any (·.served)

theorem startPass_deferred (waiting : ∀ packet ∈ s.backlog, packet.rest.any (·.served))
    (pending : s.lock_owner = 0 → s.Quiet ∨ s.backlog ≠ []) : s.startPass.Deferred := by
  rw [startPass]
  split
  · rename_i nobody
    refine ⟨fun _ free => ⟨(pending free).resolve_right (not_not.mpr nobody), nobody⟩, fun _ => nofun, ?_⟩
    rw [nobody]
    exact fun _ => nofun
  · rename_i packet backlog there
    rw [there] at waiting
    obtain ⟨first, others⟩ := List.forall_mem_cons.mp waiting
    refine ⟨nofun, ?_, others⟩
    rintro work ⟨⟩ -
    exact .inr (.inl first)

theorem endTurn_deferred {packet : Packet} {pass : Pass} (waiting : ∀ packet ∈ s.backlog, packet.rest.any (·.served))
    (pending : s.lock_owner = 0 → s.Quiet ∨ s.backlog ≠ []) (stuck : pass.processed = false → s.lock_owner ≠ 0) :
    (s.endTurn packet pass).Deferred := by
  have ended : (if pass.processed then s.startPass else { s with work := none }).Deferred := by
    split
    · exact startPass_deferred waiting pending
    · rename_i nothing
      exact ⟨fun _ free => absurd free (stuck (Bool.eq_false_iff.mpr nothing)), fun _ => nofun, waiting⟩
  rw [endTurn]
  split
  · rename_i next backlog there
    have members : ∀ packet ∈ next :: backlog, packet ∈ s.backlog := by
      rw [← there]
      split
      · exact fun _ => nofun
      · exact fun _ member => member
    obtain ⟨first, others⟩ := List.forall_mem_cons.mp fun packet member => waiting packet (members packet member)
    refine ⟨nofun, ?_, others⟩
    rintro work ⟨⟩ -
    exact .inr (.inl first)
  · exact ended

theorem endPacket_deferred {work : Work} {again : Bool} (waiting : ∀ packet ∈ s.backlog, packet.rest.any (·.served))
    (put_back : again → s.lock_owner ≠ 0 ∧ work.packet.rest.any (·.served))
    (consumed : again = false → s.lock_owner = 0 → s.Quiet ∨ s.backlog ≠ []) : (s.endPacket work again).Deferred := by
  cases again with
  | true =>
    obtain ⟨owned, served⟩ := put_back rfl
    have waiting' : ∀ packet ∈ s.backlog ++ [work.packet], packet.rest.any (·.served) := by
      intro packet member
      obtain here | here := List.mem_append.mp member
      · exact waiting packet here
      · rw [List.mem_singleton.mp here]
        exact served
    simp only [endPacket, if_true]
    split
    · exact startPass_deferred waiting' fun free => absurd free owned
    · exact endTurn_deferred waiting' (fun free => absurd free owned) fun _ => owned
  | false =>
    simp only [endPacket, Bool.false_eq_true, if_false]
    split
    · exact startPass_deferred waiting (consumed rfl)
    · exact endTurn_deferred waiting (consumed rfl) nofun

/-- What is so of the lock, and of those who ran under it. -/
structure Steady (s : NetlinkState) : Prop where
  owned : s.Owned
  fine : s.bug = false
  alone : ∀ h ∈ s.handled, h.owner = 0 ∨ h.owner = h.nlh.nlmsg_pid
  sections : ∀ owner ∈ s.sections, owner = 0

/-- All but the packets that wait and the one being looked at. -/
def apart (s : NetlinkState) : NetlinkState := { s with backlog := [], work := none }

theorem Steady.of_apart (steady : s.Steady) (same : t.apart = s.apart) : t.Steady := by
  have lifted : t.apart.Steady := same ▸ ⟨steady.owned, steady.fine, steady.alone, steady.sections⟩
  exact ⟨lifted.owned, lifted.fine, lifted.alone, lifted.sections⟩

theorem Steady.of_core (steady : s.Steady) (same : t.core = s.core) : t.Steady := by
  have lifted : t.core.Steady := same ▸ ⟨steady.owned, steady.fine, steady.alone, steady.sections⟩
  exact ⟨lifted.owned, lifted.fine, lifted.alone, lifted.sections⟩

theorem startPass_apart : s.startPass.apart = s.apart := by
  rw [startPass]
  split <;> rfl

theorem endTurn_apart {packet : Packet} {pass : Pass} : (s.endTurn packet pass).apart = s.apart := by
  rw [endTurn]
  split
  · rfl
  · split
    · exact startPass_apart
    · rfl

theorem endPacket_apart {work : Work} {again : Bool} : (s.endPacket work again).apart = s.apart := by
  rw [endPacket]
  cases again with
  | true =>
    split
    · exact startPass_apart
    · exact endTurn_apart
  | false =>
    split
    · exact startPass_apart
    · exact endTurn_apart

/-- The step is none of those that break the lock: a LOCK or TRYLOCK that the
sender may have asks for it with a pid and less than 2 ^ 31 - 1 deep, and the
timer expires with nothing waiting, or in the middle of a packet that will let
it go. -/
def Meets (s : NetlinkState) : NetlinkEvent → Prop
  | .look => ∀ work ∈ s.work, ∀ nlh ∈ work.packet.rest.head?, nlh.locks →
      s.lock_owner = 0 ∨ s.lock_owner = nlh.nlmsg_pid → nlh.nlmsg_pid ≠ 0 ∧ s.lock_depth ≠ 2 ^ 31 - 1
  | .timeout =>
    match s.work with
    | none => s.Quiet ∧ s.backlog = []
    | some work => s.Quiet ∨ work.packet.rest.any (·.served) ∨ s.backlog ≠ []
  | _ => True

theorem mcasts_core {writes : List Bool} : (writes.foldl mcastSend s).core = s.core := by
  induction writes generalizing s with
  | nil => rfl
  | cons w writes ih => exact ih.trans (mcastSend_core w)

section look

variable {work : Work} {rest : List Nlmsghdr}

theorem look_end (consumed : work.packet.rest = []) : s.look work = s.endPacket work false := by
  rw [look, consumed]

theorem look_refused (here : work.packet.rest = nlh :: rest)
    (result : s.rcvMsg work.packet.id nlh = some (s, -EINVAL)) :
    s.look work = (s.sendError nlh (-EINVAL)).pull work rest := by
  rw [look, here]
  dsimp only
  rw [result]
  rfl

theorem look_again (here : work.packet.rest = nlh :: rest)
    (result : s.rcvMsg work.packet.id nlh = some (s, -EAGAIN)) : s.look work = s.endPacket work true := by
  rw [look, here]
  dsimp only
  rw [result]
  rfl

theorem look_handled (here : work.packet.rest = nlh :: rest) (result : s.rcvMsg work.packet.id nlh = some (t, 0)) :
    s.look work = t.pull work rest := by
  rw [look, here]
  dsimp only
  rw [result]
  rfl

theorem look_kept (steady : s.Steady) (deferred : s.Deferred) (here : s.work = some work) (meets : s.Meets .look) :
    (s.look work).Steady ∧ (s.look work).Deferred := by
  cases rest : work.packet.rest with
  | nil =>
    rw [look_end rest]
    refine ⟨steady.of_apart endPacket_apart, endPacket_deferred deferred.waiting nofun fun _ free => ?_⟩
    obtain quiet | served | waits := deferred.busy work here free
    · exact .inl quiet
    · rw [rest] at served
      cases served
    · exact .inr waits
  | cons nlh rest' =>
    have named : nlh.locks → s.lock_owner = 0 ∨ s.lock_owner = nlh.nlmsg_pid →
        nlh.nlmsg_pid ≠ 0 ∧ s.lock_depth ≠ 2 ^ 31 - 1 :=
      meets work here nlh (by rw [rest]; rfl)
    obtain ⟨unserved, result⟩ | ⟨served, owned, other, result⟩ | ⟨t, served, mine, result, locks, quiet⟩ :=
      @rcvMsg_received s nlh work.packet.id (Deep.zero steady.owned) fun asks mine => (named asks mine).1
    · rw [look_refused rest result]
      have core := @sendError_core s nlh (-EINVAL)
      have backlog : (s.sendError nlh (-EINVAL)).backlog = s.backlog := congrArg (·.1) (others_of_core core)
      have owner : (s.sendError nlh (-EINVAL)).core.lock_owner = s.core.lock_owner := congrArg _ core
      refine ⟨(steady.of_core core).of_apart rfl, nofun, ?_, ?_⟩
      · rintro _ ⟨⟩ free
        obtain quiet | later | waits := deferred.busy work here (owner.symm.trans free)
        · have still : (s.sendError nlh (-EINVAL)).Quiet := put_quiet.mpr quiet
          exact .inl still
        · rw [rest, List.any_cons, unserved, Bool.false_or] at later
          exact .inr (.inl later)
        · exact .inr (.inr fun nothing => waits (backlog.symm.trans nothing))
      · exact fun packet member => deferred.waiting packet (backlog ▸ member)
    · rw [look_again rest result]
      refine ⟨steady.of_apart endPacket_apart, endPacket_deferred deferred.waiting (fun _ => ⟨owned, ?_⟩) nofun⟩
      rw [rest, List.any_cons, served, Bool.true_or]
    · rw [look_handled rest result]
      have others := locks.others
      simp only [NetlinkState.others, entered, Prod.mk.injEq] at others
      obtain ⟨backlog, -, bug, -, handled, sections⟩ := others
      have entered_owned : (s.entered work.packet.id nlh).Owned := steady.owned
      have owned := entered_owned.locks (fun asks => (named asks mine).2) locks
      refine ⟨⟨owned, bug.trans steady.fine, ?_, ?_⟩, nofun, ?_, ?_⟩
      · intro h member
        obtain before | now := List.mem_append.mp (handled ▸ member)
        · exact steady.alone h before
        · rw [List.mem_singleton.mp now]
          exact mine
      · exact fun owner member => steady.sections owner (sections ▸ member)
      · rintro _ ⟨⟩ free
        exact .inl (quiet free)
      · exact fun packet member => deferred.waiting packet (backlog ▸ member)

end look

theorem timeout_kept (steady : s.Steady) (deferred : s.Deferred) (meets : s.Meets .timeout) :
    s.lockTimeout.Steady ∧ s.lockTimeout.Deferred := by
  refine ⟨⟨Deep.none, steady.fine, steady.alone, steady.sections⟩, ?_, ?_, deferred.waiting⟩
  · intro nobody _
    rw [Meets, show s.work = none from nobody] at meets
    exact meets
  · intro work here _
    rw [Meets, show s.work = some work from here] at meets
    exact meets

theorem kernelSection_kept {writes : List Bool} (steady : s.Steady) (deferred : s.Deferred) (free : s.lock_owner = 0) :
    (s.kernelSection writes).Steady ∧ (s.kernelSection writes).Deferred := by
  have core : (s.kernelSection writes).core = { s with sections := s.sections ++ [s.lock_owner] }.core :=
    mcastFlush_core.trans mcasts_core
  have quiet : (s.kernelSection writes).Quiet := by
    have owner : (writes.foldl mcastSend { s with sections := s.sections ++ [s.lock_owner] }).core.lock_owner =
        { s with sections := s.sections ++ [s.lock_owner] }.core.lock_owner := congrArg _ mcasts_core
    exact mcastFlush_quiet (owner.trans free)
  have others := others_of_core core
  simp only [NetlinkState.others, Prod.mk.injEq] at others
  obtain ⟨backlog, work, -⟩ := others
  have entered : { s with sections := s.sections ++ [s.lock_owner] }.Steady := by
    refine ⟨steady.owned, steady.fine, steady.alone, fun owner member => ?_⟩
    obtain before | now := List.mem_append.mp member
    · exact steady.sections owner before
    · rw [List.mem_singleton.mp now, free]
  refine ⟨entered.of_core core, fun nobody free' => ⟨quiet, ?_⟩, fun _ _ _ => .inl quiet, ?_⟩
  · exact backlog.trans (deferred.idle (work.symm.trans nobody) free).2
  · exact fun packet member => deferred.waiting packet (backlog ▸ member)

theorem step_kept {e : NetlinkEvent} (kept : s.Steady ∧ s.Deferred) (meets : s.Meets e) (took : s.step e = some t) :
    t.Steady ∧ t.Deferred := by
  obtain ⟨steady, deferred⟩ := kept
  cases e with
  | arrive messages =>
    cases here : s.work with
    | some work => simp [step, here] at took
    | none =>
      obtain ⟨-, rfl⟩ : s.bug = false ∧ _ = t := by simpa [step, here] using took
      refine ⟨⟨steady.owned, steady.fine, steady.alone, steady.sections⟩, nofun, ?_, deferred.waiting⟩
      rintro _ ⟨⟩ free
      exact .inl (deferred.idle here free).1
  | look =>
    cases here : s.work with
    | none => simp [step, here] at took
    | some work =>
      obtain ⟨-, rfl⟩ : s.bug = false ∧ s.look work = t := by simpa [step, here] using took
      exact look_kept steady deferred here meets
  | timeout =>
    obtain ⟨-, -, rfl⟩ : s.bug = false ∧ s.lock_timer ∧ s.lockTimeout = t := by simpa [step] using took
    exact timeout_kept steady deferred meets
  | kernel writes =>
    obtain ⟨-, free, rfl⟩ : s.bug = false ∧ s.lock_owner = 0 ∧ s.kernelSection writes = t := by
      simpa [step] using took
    exact kernelSection_kept steady deferred free

/-- The topology lock is what it is for: held exactly while it is deep and its
timer runs, as deep as its owner asked for, nobody else served meanwhile, and
nothing left behind once it is free. -/
structure Sound (s : NetlinkState) : Prop where
  deep : s.lock_owner ≠ 0 ↔ 0 < s.lock_depth
  timer : s.lock_owner ≠ 0 ↔ s.lock_timer
  depth : s.lock_depth = s.held.count .locked - s.held.count .unlocked
  alone : ∀ h ∈ s.handled, h.owner ≠ 0 → h.nlh.nlmsg_pid = h.owner
  sections : ∀ owner ∈ s.sections, owner = 0
  fine : s.bug = false
  released : s.work = none → s.lock_owner = 0 → s.mcast_skb = none ∧ s.mcast_queue = [] ∧ s.backlog = []

theorem topology_lock_is_sound_of_run {es : List NetlinkEvent} (run : Run step Meets {} es s) : s.Sound := by
  have start : ({} : NetlinkState).Steady ∧ ({} : NetlinkState).Deferred :=
    ⟨⟨Deep.none, rfl, fun _ => nofun, fun _ => nofun⟩, fun _ _ => ⟨⟨rfl, rfl⟩, rfl⟩, fun _ => nofun, fun _ => nofun⟩
  obtain ⟨steady, deferred⟩ := run.invariant (fun s => s.Steady ∧ s.Deferred) step_kept start
  refine ⟨steady.owned.deep, steady.owned.timer, steady.owned.counts, fun h member owned => ?_, steady.sections,
    steady.fine, fun nobody free => ?_⟩
  · exact ((steady.alone h member).resolve_left owned).symm
  · obtain ⟨⟨skb, queue⟩, backlog⟩ := deferred.idle nobody free
    exact ⟨skb, queue, backlog⟩

/-- Two clients: the first takes the lock, the second has to wait for its
request to be served, and a notice waits with it until the lock is given up. -/
def twoClients : List NetlinkEvent :=
  [.arrive [⟨5, 1, KS_NETLINK_TOPOLOGY_LOCK, true, true, [], 0⟩], .look, .look,
   .arrive [⟨7, 1, NLMSG_NOOP, true, true, [], 0⟩], .look, .look,
   .arrive [⟨5, 2, KS_NETLINK_PIPELINE_DEL, true, true, [.mcast true], 0⟩], .look, .look, .look,
   .arrive [⟨5, 3, KS_NETLINK_TOPOLOGY_UNLOCK, true, true, [], 0⟩], .look, .look, .look, .look]

instance (s : NetlinkState) : Decidable s.Quiet := inferInstanceAs (Decidable (_ ∧ _))

instance (s : NetlinkState) (e : NetlinkEvent) : Decidable (s.Meets e) :=
  match e with
  | .look => inferInstanceAs (Decidable (∀ work ∈ s.work, ∀ nlh ∈ work.packet.rest.head?, nlh.locks →
      s.lock_owner = 0 ∨ s.lock_owner = nlh.nlmsg_pid → nlh.nlmsg_pid ≠ 0 ∧ s.lock_depth ≠ 2 ^ 31 - 1))
  | .timeout =>
    match here : s.work with
    | none => decidable_of_iff (s.Quiet ∧ s.backlog = []) (by rw [Meets, here])
    | some work => decidable_of_iff (s.Quiet ∨ work.packet.rest.any (·.served) ∨ s.backlog ≠ []) (by rw [Meets, here])
  | .arrive _ => inferInstanceAs (Decidable True)
  | .kernel _ => inferInstanceAs (Decidable True)

theorem two_clients_leave_nothing : ∃ s, follow step Meets {} twoClients = some s ∧ s.lock_owner = 0 ∧ s.Sound := by
  have done : (follow step Meets {} twoClients).map lock_owner = some 0 := by decide +kernel
  obtain ⟨s, reached, free⟩ := Option.map_eq_some_iff.mp done
  exact ⟨s, reached, free, topology_lock_is_sound_of_run (follow_run _ _ _ _ reached)⟩

/-- A LOCK with no pid in its header. -/
def anonymousLock : List NetlinkEvent := [.arrive [⟨0, 1, KS_NETLINK_TOPOLOGY_LOCK, true, true, [], 0⟩], .look]

theorem anonymous_lock_hits_the_assertion :
    ¬ ∀ (es : List NetlinkEvent) (s : NetlinkState), Run step Any {} es s → s.Sound := by
  intro always
  have done : (follow step Any {} anonymousLock).map bug = some true := by decide +kernel
  obtain ⟨s, reached, hit⟩ := Option.map_eq_some_iff.mp done
  have sound := always _ s (follow_run _ _ _ _ reached)
  rw [sound.fine] at hit
  cases hit

end NetlinkState
end Vstuff.Kstreamer
