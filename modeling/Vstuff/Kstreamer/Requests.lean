import Vstuff.Kstreamer.Backlog

/-! Requests through the netlink front end: each is handled once and, among
those of its sender, in the order sent, and what is written in answer to it goes
to its sender before anybody else is answered. -/
namespace Vstuff.Kstreamer
open Transition
set_option linter.all false

namespace NetlinkState

variable {s t : NetlinkState} {nlh : Nlmsghdr} {before after : List Packet}

/-- The replies of the datagrams, each with the pid it went to. -/
def delivered (unicasts : List (Nat × List Reply)) : List (Nat × Reply) :=
  unicasts.flatMap fun datagram => datagram.2.map (datagram.1, ·)

/-- While the request is handled: what was written was sent to whom it answers,
or is in the buffer and answers this request. -/
structure Answers (s : NetlinkState) (nlh : Nlmsghdr) : Prop where
  cur_pid : s.cur_pid = nlh.nlmsg_pid
  written : delivered s.unicasts ++ (s.out_skb.getD []).map (nlh.nlmsg_pid, ·) = s.written

theorem Answers.needSkb (answers : Answers s nlh) : Answers s.needSkb nlh := by
  rw [NetlinkState.needSkb]
  split
  · rename_i nothing
    refine ⟨answers.cur_pid, ?_⟩
    have written := answers.written
    rw [Option.isNone_iff_eq_none.mp nothing] at written
    exact written
  · exact answers

theorem Answers.flush (answers : Answers s nlh) : Answers s.flush nlh ∧ s.flush.out_skb = none := by
  obtain ⟨cur_pid, written⟩ := answers
  rw [NetlinkState.flush]
  split
  · rename_i nothing
    exact ⟨⟨cur_pid, written⟩, nothing⟩
  · rename_i empty
    refine ⟨⟨cur_pid, ?_⟩, rfl⟩
    rw [empty] at written
    exact written
  · rename_i replies _ there
    refine ⟨⟨cur_pid, ?_⟩, rfl⟩
    rw [there] at written
    rw [delivered, List.flatMap_append, cur_pid] at *
    simpa using written

theorem Answers.put {reply : Reply} {fits : Bool} (answers : Answers s nlh) : Answers (s.put nlh reply fits) nlh := by
  have add : ∀ {r : NetlinkState}, Answers r nlh → r.out_skb.isSome →
      Answers { r with out_skb := r.out_skb.map (· ++ [reply]), written := r.written ++ [(nlh.nlmsg_pid, reply)] } nlh := by
    rintro r ⟨cur_pid, written⟩ there
    obtain ⟨replies, here⟩ := Option.isSome_iff_exists.mp there
    refine ⟨cur_pid, ?_⟩
    rw [← written, here]
    simp
  have some : ∀ {r : NetlinkState}, r.needSkb.out_skb.isSome := by
    intro r
    rw [NetlinkState.needSkb]
    cases here : r.out_skb <;> simp [here]
  cases fits with
  | true => exact add answers.needSkb some
  | false => exact add answers.needSkb.flush.1.needSkb some

/-- What the replies are made of. -/
def talk (s : NetlinkState) : Nat × Option (List Reply) × List (Nat × Reply) × List (Nat × List Reply) :=
  (s.cur_pid, s.out_skb, s.written, s.unicasts)

theorem Answers.of_talk (answers : Answers s nlh) (same : t.talk = s.talk) : Answers t nlh := by
  simp only [talk, Prod.mk.injEq] at same
  obtain ⟨cur_pid, out_skb, written, unicasts⟩ := same
  refine ⟨cur_pid.trans answers.cur_pid, ?_⟩
  rw [out_skb, written, unicasts]
  exact answers.written

theorem mcastNeedSkb_talk : s.mcastNeedSkb.talk = s.talk := by
  rw [mcastNeedSkb]
  split <;> rfl

theorem mcastNeedAnotherSkb_talk : s.mcastNeedAnotherSkb.talk = s.talk := by
  rw [mcastNeedAnotherSkb]
  split
  · exact mcastNeedSkb_talk
  · exact mcastNeedSkb_talk

theorem mcastSend_talk (fits : Bool) : (s.mcastSend fits).talk = s.talk := by
  cases fits with
  | true => exact mcastNeedSkb_talk
  | false => exact mcastNeedAnotherSkb_talk.trans mcastNeedSkb_talk

theorem mcasts_talk {writes : List Bool} : (writes.foldl mcastSend s).talk = s.talk := by
  induction writes generalizing s with
  | nil => rfl
  | cons w writes ih => exact ih.trans (mcastSend_talk w)

theorem mcastFlush_talk : s.mcastFlush.talk = s.talk := by
  rw [mcastFlush]
  split <;> rfl

theorem doLock_talk (done : s.doLock nlh = some t) : t.talk = s.talk := by
  rw [doLock] at done
  split at done
  · split at done
    · cases done
    · obtain rfl := Option.some.inj done
      exact mcastFlush_talk (s := { s with
        lock_owner := nlh.nlmsg_pid, lock_depth := wrap (s.lock_depth + 1), held := [.locked] })
  · obtain rfl := Option.some.inj done
    rfl

theorem Answers.lock (answers : Answers s nlh) {r : NetlinkState} {err : Int}
    (done : ((s.doLock nlh).map fun t => (t.sendAck nlh, (0 : Int))) = some (r, err)) : Answers r nlh := by
  obtain ⟨t, locked, same⟩ := Option.map_eq_some_iff.mp done
  obtain ⟨rfl, -⟩ := Prod.mk.inj same
  exact (answers.of_talk (doLock_talk locked)).put

theorem Answers.unlock (answers : Answers s nlh) : Answers (s.cmdTopologyUnlock nlh).1 nlh := by
  have ack : ∀ {r : NetlinkState}, r.talk = s.talk → Answers (r.sendAck nlh) nlh := fun same => (answers.of_talk same).put
  rw [cmdTopologyUnlock]
  split
  · exact answers
  · split
    · exact answers
    · dsimp only
      split
      · refine Answers.of_talk (ack ?_) mcastFlush_talk
        rfl
      · exact ack rfl

theorem Answers.writes {writes : List Write} (answers : Answers s nlh) : Answers (writes.foldl (write nlh) s) nlh := by
  induction writes generalizing s with
  | nil => exact answers
  | cons w writes ih =>
    refine ih ?_
    cases w with
    | response kind seq fits => exact answers.put
    | mcast fits => exact answers.of_talk (mcastSend_talk fits)

/-- Whatever a handler writes answers its request. -/
theorem Answers.handler {cmd : Command} {err : Int} (answers : Answers s nlh)
    (done : s.handler nlh cmd = some (t, err)) : Answers t nlh := by
  cases cmd with
  | done | notImplemented =>
    cases done
    exact answers
  | noop | version =>
    cases done
    exact answers.put
  | topologyLock =>
    rw [NetlinkState.handler, cmdTopologyLock] at done
    split at done
    · cases done
    · split at done
      · cases done
      · exact answers.lock done
  | topologyTrylock =>
    rw [NetlinkState.handler, cmdTopologyTrylock] at done
    split at done
    · cases done
    · split at done
      · cases done
        exact answers
      · exact answers.lock done
  | topologyUnlock =>
    obtain ⟨rfl, -⟩ := Prod.mk.inj (Option.some.inj done)
    exact answers.unlock
  | object =>
    cases done
    exact answers.writes

/-- Between requests everything written was sent to whom it answers. -/
structure Sent (s : NetlinkState) : Prop where
  out_skb : s.out_skb = none
  written : delivered s.unicasts = s.written

theorem Sent.of_talk (sent : Sent s) (same : t.talk = s.talk) : Sent t := by
  simp only [talk, Prod.mk.injEq] at same
  obtain ⟨-, out_skb, written, unicasts⟩ := same
  refine ⟨out_skb.trans sent.out_skb, ?_⟩
  rw [unicasts, written]
  exact sent.written

theorem Sent.rcvMsg {packet : Nat} {err : Int} (sent : Sent s) (served : nlh.served)
    (result : s.rcvMsg packet nlh = some (t, err)) : Sent t := by
  obtain ⟨request, known⟩ := (Bool.and_eq_true _ _).mp served
  obtain ⟨cmd, known⟩ := Option.isSome_iff_exists.mp known
  rw [NetlinkState.rcvMsg, if_neg (not_not.mpr request), known] at result
  dsimp only at result
  split at result
  · cases result
    exact sent
  · obtain ⟨⟨r, err'⟩, done, same⟩ := Option.map_eq_some_iff.mp result
    obtain ⟨rfl, -⟩ := Prod.mk.inj same
    have entered : Answers (s.entered packet nlh) nlh := by
      refine ⟨rfl, ?_⟩
      change delivered s.unicasts ++ (s.out_skb.getD []).map _ = s.written
      rw [sent.out_skb, sent.written]
      exact List.append_nil _
    have answered := entered.handler done
    have ended : Answers (if err' < 0 then r.sendError nlh err' else r) nlh := by
      split
      · exact answered.put
      · exact answered
    obtain ⟨flushed, nothing⟩ := ended.flush
    refine Sent.of_talk ⟨nothing, ?_⟩ mcastFlush_talk
    have written := flushed.written
    rw [nothing] at written
    exact (List.append_nil _).symm.trans written

/-- The packets wait in the order they came in, and those before the one being
looked at belong to senders that somebody else's lock keeps out, or that none
of the packets behind them is from. -/
structure Waits (s : NetlinkState) (before after : List Packet) : Prop where
  lined : Lined s before after
  account : Account s (before ++ s.current ++ after)
  ahead : ∀ q ∈ before, ∀ r ∈ s.current ++ after, q.blocked s.lock_owner ∨ q.apart r
  stuck : ∀ packet pass, s.work = some ⟨packet, some pass⟩ → pass.processed = false →
    (∀ q ∈ before, q.blocked s.lock_owner) ∨ packet.rest = [] ∨ ¬ packet.blocked s.lock_owner
  idle : s.work = none → ∀ q ∈ before, q.blocked s.lock_owner

/-- What the queue has nothing to do with. -/
structure Ready (s : NetlinkState) : Prop where
  clear : s.lock_owner = 0 → s.lock_depth = 0
  fine : s.bug = false
  sent : Sent s

theorem Ready.of_apart (ready : s.Ready) (same : t.apart = s.apart) : t.Ready := by
  have lifted : t.apart.Ready := same ▸ ⟨ready.clear, ready.fine, ready.sent.out_skb, ready.sent.written⟩
  exact ⟨lifted.clear, lifted.fine, lifted.sent.out_skb, lifted.sent.written⟩

/-- The receive path is idle. -/
theorem idle_waits (work : s.work = none) (backlog : s.backlog = before) (account : Account s before)
    (blocked : ∀ q ∈ before, q.blocked s.lock_owner) : Waits s before [] := by
  have current : s.current = [] := by rw [current, work]; rfl
  have whole : before ++ s.current ++ [] = before := by rw [current, List.append_nil, List.append_nil]
  refine ⟨lined_plain ?_ backlog (by rw [current, List.append_nil]; exact account.nodup), ?_, ?_, ?_,
    fun _ => blocked⟩
  · intro packet pass here
    cases work.symm.trans here
  · rw [whole]
    exact account
  · rw [current]
    exact fun _ _ _ none => (List.not_mem_nil none).elim
  · intro packet pass here
    cases work.symm.trans here

theorem startPass_waits (account : Account s s.backlog) : ∃ before after, Waits s.startPass before after := by
  obtain ⟨empty, result⟩ | ⟨packet, backlog, tail, there, result, lined⟩ := startPass_lined account.nodup
  · rw [result]
    rw [empty] at account
    exact ⟨[], [], idle_waits rfl empty (account.of_same rfl rfl) fun _ => nofun⟩
  · refine ⟨[], backlog, lined, ?_, fun _ => nofun, fun _ _ _ _ => .inl fun _ => nofun, fun _ _ => nofun⟩
    rw [result]
    rw [there] at account
    exact account.of_same rfl rfl

section packet

variable {work : Work}

theorem Waits.current (here : s.work = some work) : s.current = [work.packet] := by
  rw [NetlinkState.current, here]
  rfl

theorem Waits.whole (waits : Waits s before after) (here : s.work = some work) :
    Account s (before ++ work.packet :: after) := by
  have account := waits.account
  rwa [Waits.current here, List.append_assoc] at account

theorem Waits.other (waits : Waits s before after) (here : s.work = some work) :
    work.packet.id ∉ after.map Packet.id := by
  have nodup := (waits.whole here).nodup
  rw [List.map_append] at nodup
  exact (List.nodup_cons.mp nodup.of_append_right).1

/-- The packet has to wait: it goes behind those that were put back before it. -/
theorem Waits.again (waits : Waits s before after) (here : s.work = some work) (more : work.packet.rest ≠ [])
    (blocked : work.packet.blocked s.lock_owner) : ∃ before after, Waits (s.endPacket work true) before after := by
  have account := waits.whole here
  have shape : before ++ work.packet :: after = before ++ [work.packet] ++ after := by simp
  have backlog : s.backlog ++ [work.packet] = after ++ (before ++ [work.packet]) := by
    rw [waits.lined.backlog, List.append_assoc]
  have other := waits.other here
  obtain ⟨packet, pass⟩ := work
  rw [shape] at account
  -- the state with the packet put back, for whatever is left of the pass
  let back : NetlinkState := { s with backlog := s.backlog ++ [packet] }
  have ended : after = [] → Account back back.backlog := by
    intro nothing
    change Account back (s.backlog ++ [packet])
    rw [backlog, nothing, List.nil_append]
    rw [nothing, List.append_nil] at account
    exact account.of_same rfl rfl
  rw [endPacket]
  simp only [if_true]
  cases pass with
  | none => exact startPass_waits (ended (waits.lined.plain fun _ _ same => by cases here.symm.trans same))
  | some pass =>
    have left := waits.stuck packet pass here
    obtain ⟨nothing, result⟩ | ⟨next, rest, rfl, result, lined⟩ :=
      endTurn_lined (s := back) backlog (waits.lined.tail packet pass here) other account.nodup
    · change ∃ before after, Waits (back.endTurn packet pass) before after
      rw [result]
      split
      · exact startPass_waits (ended nothing)
      · rename_i unprocessed
        have all := (left (Bool.eq_false_iff.mpr unprocessed)).resolve_right fun wrong => wrong.elim more fun free => free blocked
        refine ⟨_, [], idle_waits rfl rfl ((ended nothing).of_same rfl rfl) ?_⟩
        change ∀ q ∈ s.backlog ++ [packet], q.blocked s.lock_owner
        rw [backlog, nothing, List.nil_append]
        exact List.forall_mem_append.mpr ⟨all, List.forall_mem_singleton.mpr blocked⟩
    · change ∃ before after, Waits (back.endTurn packet pass) before after
      refine ⟨_, _, lined, ?_, ?_, ?_, ?_⟩
      · rw [result]
        have whole : before ++ [packet] ++ next :: rest = before ++ [packet] ++ [next] ++ rest := by simp
        rw [whole] at account
        exact account.of_same rfl rfl
      · rw [result]
        intro q member r there
        obtain old | new := List.mem_append.mp member
        · refine waits.ahead q old r (List.mem_append_right _ ?_)
          exact there
        · rw [List.mem_singleton.mp new]
          exact .inl blocked
      · rw [result]
        rintro packet' pass' ⟨⟩ unprocessed
        have all := (left unprocessed).resolve_right fun wrong => wrong.elim more fun free => free blocked
        exact .inl (List.forall_mem_append.mpr ⟨all, List.forall_mem_singleton.mpr blocked⟩)
      · rw [result]
        exact fun nobody => by cases nobody

/-- The packet is finished. -/
theorem Waits.finish (waits : Waits s before after) (here : s.work = some work) (finished : work.packet.rest = []) :
    ∃ before after, Waits (s.endPacket work false) before after := by
  have account := (waits.whole here).finish finished
  have other := waits.other here
  have ended : after = [] → Account s s.backlog := by
    intro nothing
    rw [nothing, List.append_nil] at account
    rwa [waits.lined.backlog, nothing, List.nil_append]
  obtain ⟨packet, pass⟩ := work
  rw [endPacket]
  simp only [Bool.false_eq_true, if_false]
  cases pass with
  | none => exact startPass_waits (ended (waits.lined.plain fun _ _ same => by cases here.symm.trans same))
  | some pass =>
    change ∃ before after, Waits (s.endTurn packet { pass with processed := true }) before after
    obtain ⟨nothing, result⟩ | ⟨next, rest, rfl, result, lined⟩ := @endTurn_lined s before after packet
      { pass with processed := true } waits.lined.backlog (waits.lined.tail packet pass here) other account.nodup
    · rw [result]
      exact startPass_waits (ended nothing)
    · refine ⟨_, _, lined, ?_, ?_, ?_, ?_⟩
      · rw [result]
        have whole : before ++ next :: rest = before ++ [next] ++ rest := by simp
        rw [whole] at account
        exact account.of_same rfl rfl
      · rw [result]
        intro q member r there
        exact waits.ahead q member r (List.mem_append_right _ there)
      · rw [result]
        rintro packet' pass' ⟨⟩ unprocessed
        cases unprocessed
      · rw [result]
        exact fun nobody => by cases nobody

theorem Lined.pull {rest : List Nlmsghdr} (lined : Lined s before after) (here : s.work = some work)
    (backlog : t.backlog = s.backlog) : Lined (t.pull work rest) before after := by
  have nodup := lined.nodup
  rw [Waits.current here] at nodup
  obtain ⟨packet, pass⟩ := work
  cases pass with
  | none =>
    obtain rfl : after = [] := lined.plain fun _ _ same => by cases here.symm.trans same
    refine lined_plain (fun _ _ same => by cases same) ?_ ?_
    · exact (backlog.trans lined.backlog).trans (List.nil_append _)
    · rw [List.append_nil] at nodup
      rw [List.map_append] at nodup ⊢
      exact nodup
  | some pass =>
    refine lined_pass rfl (backlog.trans lined.backlog) ?_ ?_
    · have tail := lined.tail packet pass here
      cases after with
      | nil => exact tail
      | cons next after => exact tail
    · rw [List.map_append, List.map_append] at nodup ⊢
      exact nodup

end packet

/-- The request gives the lock back for good. -/
def Frees (s : NetlinkState) (nlh : Nlmsghdr) : Prop :=
  nlh.command = some .topologyUnlock ∧ s.lock_owner ≠ 0 ∧ s.lock_owner = nlh.nlmsg_pid ∧ wrap (s.lock_depth - 1) = 0

instance (s : NetlinkState) (nlh : Nlmsghdr) : Decidable (s.Frees nlh) := inferInstanceAs (Decidable (_ ∧ _))

theorem Locks.clear (locks : Locks s t nlh) (clear : s.lock_owner = 0 → s.lock_depth = 0) :
    t.lock_owner = 0 → t.lock_depth = 0 := by
  intro free
  cases locks with
  | same core =>
    have owner : t.core.lock_owner = s.core.lock_owner := congrArg _ core
    have depth : t.core.lock_depth = s.core.lock_depth := congrArg _ core
    exact depth.trans (clear (owner.symm.trans free))
  | taken _ named core =>
    have owner : t.core.lock_owner = nlh.nlmsg_pid := congrArg NetlinkState.lock_owner core
    exact absurd (owner.symm.trans free) named
  | nested _ _ held core | given held _ core =>
    have owner : t.core.lock_owner = s.lock_owner := by rw [core]; rfl
    exact absurd (owner.symm.trans free) held
  | freed _ _ _ core =>
    have depth : t.core.lock_depth = 0 := by rw [core]
    exact depth

/-- Who owns the lock after the request of somebody who may have it. -/
theorem Locks.owner (locks : Locks s t nlh) (mine : s.lock_owner = 0 ∨ s.lock_owner = nlh.nlmsg_pid) :
    t.lock_owner = s.lock_owner ∨ s.lock_owner = 0 ∧ t.lock_owner = nlh.nlmsg_pid ∨ t.lock_owner = 0 ∧ s.Frees nlh := by
  cases locks with
  | same core | nested _ _ _ core | given _ _ core =>
    have owner : t.core.lock_owner = s.lock_owner := by rw [core]; rfl
    exact .inl owner
  | taken free _ core =>
    have owner : t.core.lock_owner = nlh.nlmsg_pid := by rw [core]
    exact .inr (.inl ⟨free, owner⟩)
  | freed unlocks held last core =>
    have owner : t.core.lock_owner = 0 := by rw [core]
    exact .inr (.inr ⟨owner, unlocks, held, mine.resolve_left held, last⟩)

/-- A request is handled. -/
theorem Waits.handle {work : Work} {rest : List Nlmsghdr} (waits : Waits s before after) (here : s.work = some work)
    (first : work.packet.rest = nlh :: rest) (mine : s.lock_owner = 0 ∨ s.lock_owner = nlh.nlmsg_pid)
    (locks : Locks (s.entered work.packet.id nlh) t nlh)
    (tame : s.Frees nlh → ∀ q ∈ before, ∀ r ∈ after, q.apart r) : Waits (t.pull work rest) before after := by
  have others := locks.others
  simp only [NetlinkState.others, entered, Prod.mk.injEq] at others
  obtain ⟨backlog, -, -, arrived, handled, -⟩ := others
  have whole := waits.whole here
  have proper := whole.proper work.packet (by simp)
  rw [first] at proper
  have senders : ∀ m ∈ rest, m.nlmsg_pid = nlh.nlmsg_pid := fun m member =>
    (proper nlh List.mem_cons_self).2.2 m (List.mem_cons_of_mem _ member)
  have ahead : ∀ q ∈ before, ∀ n ∈ q.rest, n.nlmsg_pid ≠ nlh.nlmsg_pid := by
    intro q member n there
    obtain ⟨owned, foreign⟩ | apart := waits.ahead q member work.packet (by rw [Waits.current here]; simp)
    · rw [← mine.resolve_left owned]
      exact foreign n there
    · exact apart n there nlh (by rw [first]; exact List.mem_cons_self)
  have owner := locks.owner mine
  refine ⟨waits.lined.pull here backlog, ?_, ?_, ?_, fun nobody => by cases nobody⟩
  · have account : Account t _ := whole.handle first ahead arrived handled
    have same : before ++ (t.pull work rest).current ++ after = before ++ { work.packet with rest := rest } :: after := by
      rw [Waits.current rfl, List.append_assoc]
      rfl
    rw [same]
    exact account.of_same rfl rfl
  · intro q member r there
    rw [Waits.current rfl] at there
    obtain rfl | later := List.mem_cons.mp there
    · -- the rest of the packet is from the same sender
      exact .inr fun n in_q m in_rest => senders m in_rest ▸ ahead q member n in_q
    · have before_now := waits.ahead q member r (List.mem_append_right _ later)
      obtain same | ⟨free, taken⟩ | ⟨-, frees⟩ := owner
      · change q.blocked t.lock_owner ∨ q.apart r
        rw [same]
        exact before_now
      · refine .inr (before_now.resolve_left fun blocked => blocked.1 free)
      · exact .inr (tame frees q member r later)
  · intro packet pass same _
    obtain ⟨rfl, -⟩ := Work.mk.inj (Option.some.inj same)
    refine .inr ?_
    cases rest with
    | nil => exact .inl rfl
    | cons m rest =>
      right
      rintro ⟨owned, foreign⟩
      refine foreign m List.mem_cons_self ?_
      rw [senders m List.mem_cons_self]
      change nlh.nlmsg_pid = t.lock_owner
      change t.lock_owner ≠ 0 at owned
      obtain same | ⟨-, taken⟩ | ⟨freed, -⟩ := owner
      · rw [same] at owned ⊢
        exact (mine.resolve_left owned).symm
      · exact taken.symm
      · exact absurd freed owned

/-- The step is none of those that lose the order of requests or the way to
their sender. -/
def Tame (s : NetlinkState) : NetlinkEvent → Prop
  | .arrive messages => Proper messages
  | .look => ∀ work ∈ s.work, ∀ nlh ∈ work.packet.rest.head?, s.Frees nlh → ∀ q ∈ s.passed, ∀ r ∈ s.coming, q.apart r
  | .timeout => ∀ q ∈ s.passed, (∀ r ∈ s.current ++ s.coming, q.apart r) ∧ s.work ≠ none
  | .kernel _ => True

instance (s : NetlinkState) (e : NetlinkEvent) : Decidable (s.Tame e) :=
  match e with
  | .arrive messages => inferInstanceAs (Decidable (Proper messages))
  | .look => inferInstanceAs (Decidable (∀ work ∈ s.work, ∀ nlh ∈ work.packet.rest.head?, s.Frees nlh →
      ∀ q ∈ s.passed, ∀ r ∈ s.coming, q.apart r))
  | .timeout => inferInstanceAs (Decidable (∀ q ∈ s.passed, (∀ r ∈ s.current ++ s.coming, q.apart r) ∧ s.work ≠ none))
  | .kernel _ => inferInstanceAs (Decidable True)

theorem look_waits {work : Work} (ready : s.Ready) (waits : Waits s before after) (here : s.work = some work)
    (tame : s.Tame .look) : (s.look work).Ready ∧ ∃ before after, Waits (s.look work) before after := by
  cases first : work.packet.rest with
  | nil =>
    rw [look_end first]
    exact ⟨ready.of_apart endPacket_apart, waits.finish here first⟩
  | cons nlh rest =>
    have proper := (waits.whole here).proper work.packet (by simp)
    rw [first] at proper
    obtain ⟨served, named, same⟩ := proper nlh List.mem_cons_self
    obtain ⟨unserved, -⟩ | ⟨-, owned, other, result⟩ | ⟨t, -, mine, result, locks, -⟩ :=
      @rcvMsg_received s nlh work.packet.id ready.clear fun asks _ => named asks
    · rw [served] at unserved
      cases unserved
    · rw [look_again first result]
      refine ⟨ready.of_apart endPacket_apart, waits.again here (by rw [first]; exact List.cons_ne_nil _ _) ⟨owned, ?_⟩⟩
      rw [first]
      exact fun n member => (same n member).symm ▸ fun mine => other mine.symm
    · rw [look_handled first result]
      have others := locks.others
      simp only [NetlinkState.others, entered, Prod.mk.injEq] at others
      have sent := ready.sent.rcvMsg served result
      refine ⟨⟨locks.clear ready.clear, others.2.2.1.trans ready.fine, sent.out_skb, sent.written⟩, before, after,
        waits.handle here first mine locks fun frees => ?_⟩
      rw [← waits.lined.passed, ← waits.lined.coming]
      exact tame work here nlh (by rw [first]; rfl) frees

theorem timeout_waits (ready : s.Ready) (waits : Waits s before after) (tame : s.Tame .timeout) :
    s.lockTimeout.Ready ∧ ∃ before after, Waits s.lockTimeout before after := by
  rw [Tame, waits.lined.passed, waits.lined.coming] at tame
  have lined := waits.lined
  refine ⟨⟨fun _ => rfl, ready.fine, ready.sent.out_skb, ready.sent.written⟩, before, after,
    ⟨lined.passed, lined.coming, lined.backlog, lined.tail, lined.plain, lined.nodup⟩, waits.account.of_same rfl rfl, ?_, ?_, ?_⟩
  · exact fun q member r there => .inr ((tame q member).1 r there)
  · exact fun packet _ _ _ => .inr (.inr fun blocked => blocked.1 rfl)
  · exact fun nobody q member => absurd nobody (tame q member).2

theorem Waits.of_same (waits : Waits s before after) (backlog : t.backlog = s.backlog) (work : t.work = s.work)
    (arrived : t.arrived = s.arrived) (handled : t.handled = s.handled) (owner : t.lock_owner = s.lock_owner) :
    Waits t before after := by
  have current : t.current = s.current := by rw [NetlinkState.current, work]; rfl
  have lined := waits.lined
  refine ⟨⟨?_, ?_, backlog.trans lined.backlog, work ▸ lined.tail, work ▸ lined.plain, current ▸ lined.nodup⟩,
    current ▸ waits.account.of_same arrived handled, ?_, ?_, ?_⟩
  · rw [NetlinkState.passed, work, backlog]
    exact lined.passed
  · rw [NetlinkState.coming, work, backlog]
    exact lined.coming
  · rw [current, owner]
    exact waits.ahead
  · rw [work, owner]
    exact waits.stuck
  · rw [work, owner]
    exact waits.idle

theorem kernelSection_waits {writes : List Bool} (ready : s.Ready) (waits : Waits s before after) :
    (s.kernelSection writes).Ready ∧ ∃ before after, Waits (s.kernelSection writes) before after := by
  have core : (s.kernelSection writes).core = { s with sections := s.sections ++ [s.lock_owner] }.core :=
    mcastFlush_core.trans mcasts_core
  have others := others_of_core core
  simp only [NetlinkState.others, Prod.mk.injEq] at others
  obtain ⟨backlog, work, fine, arrived, handled, -⟩ := others
  have owner : (s.kernelSection writes).core.lock_owner = s.lock_owner := by rw [core]; rfl
  have depth : (s.kernelSection writes).core.lock_depth = s.lock_depth := by rw [core]; rfl
  have talk : (s.kernelSection writes).talk = s.talk := mcastFlush_talk.trans mcasts_talk
  refine ⟨⟨fun free => ?_, fine.trans ready.fine, ready.sent.of_talk talk⟩, before, after,
    waits.of_same backlog work arrived handled owner⟩
  exact depth.trans (ready.clear (owner.symm.trans free))

theorem arrive_waits {messages : List Nlmsghdr} (ready : s.Ready) (waits : Waits s before after) (idle : s.work = none)
    (proper : Proper messages) {t : NetlinkState}
    (arrived : { s with arrived := s.arrived ++ [messages], work := some ⟨⟨s.arrived.length, messages⟩, none⟩ } = t) :
    t.Ready ∧ ∃ before after, Waits t before after := by
  subst arrived
  have account := waits.account
  have nobody : s.current = [] := by rw [current, idle]; rfl
  have nothing : after = [] := waits.lined.plain fun _ _ same => by cases idle.symm.trans same
  rw [nobody, nothing, List.append_nil, List.append_nil] at account
  have more : Account { s with
      arrived := s.arrived ++ [messages], work := some ⟨⟨s.arrived.length, messages⟩, none⟩ } _ :=
    account.arrive proper rfl rfl
  refine ⟨⟨ready.clear, ready.fine, ready.sent.out_skb, ready.sent.written⟩, before, [], ?_, ?_, ?_, ?_, fun nobody => by cases nobody⟩
  · refine lined_plain (fun _ _ same => by cases same) ?_ more.nodup
    exact waits.lined.backlog.trans (by rw [nothing, List.nil_append])
  · rw [List.append_nil]
    exact more
  · exact fun q member r _ => .inl (waits.idle idle q member)
  · rintro packet pass ⟨⟩

theorem step_waits {e : NetlinkEvent} (kept : s.Ready ∧ ∃ before after, Waits s before after) (tame : s.Tame e)
    (took : s.step e = some t) : t.Ready ∧ ∃ before after, Waits t before after := by
  obtain ⟨ready, before, after, waits⟩ := kept
  cases e with
  | arrive messages =>
    cases here : s.work with
    | some work => simp [step, here] at took
    | none =>
      obtain ⟨-, done⟩ : s.bug = false ∧ _ = t := by simpa [step, here] using took
      exact arrive_waits ready waits here tame done
  | look =>
    cases here : s.work with
    | none => simp [step, here] at took
    | some work =>
      obtain ⟨-, rfl⟩ : s.bug = false ∧ s.look work = t := by simpa [step, here] using took
      exact look_waits ready waits here tame
  | timeout =>
    obtain ⟨-, -, rfl⟩ : s.bug = false ∧ s.lock_timer ∧ s.lockTimeout = t := by simpa [step] using took
    exact timeout_waits ready waits tame
  | kernel writes =>
    obtain ⟨-, -, rfl⟩ : s.bug = false ∧ s.lock_owner = 0 ∧ s.kernelSection writes = t := by simpa [step] using took
    exact kernelSection_waits ready waits

/-- Every request that arrived was handled once or is still to be, in the
packet that the receive path holds or in the backlog, which nobody leaves there
when the lock is free; each sender's are handled in the order sent; and every
reply was sent to the sender of the request it answers, in the order written. -/
structure Delivered (s : NetlinkState) : Prop where
  once : ∀ i messages, s.arrived[i]? = some messages → s.handledOf i ++ restOf s.queue i = messages
  queue : s.queue.Perm (s.current ++ s.backlog)
  done : s.work = none → s.lock_owner = 0 → s.backlog = []
  order : ∀ pid, s.handledFor pid ++ ofPid pid (s.queue.flatMap (·.rest)) = ofPid pid s.arrived.flatten
  replies : s.out_skb = none ∧ delivered s.unicasts = s.written

theorem requests_are_delivered_of_run {es : List NetlinkEvent} (run : Run step Tame {} es s) : s.Delivered := by
  have start : ({} : NetlinkState).Ready ∧ ∃ before after, Waits {} before after :=
    ⟨⟨fun _ => rfl, rfl, rfl, rfl⟩, [], [], idle_waits rfl rfl
      ⟨List.nodup_nil, fun _ => nofun, fun _ => nofun, fun _ => nofun, fun _ _ => nofun, fun _ => rfl⟩ fun _ => nofun⟩
  obtain ⟨ready, before, after, waits⟩ :=
    run.invariant (fun s => s.Ready ∧ ∃ before after, Waits s before after) step_waits start
  have account := waits.account
  rw [← waits.lined.queue] at account
  refine ⟨account.once, ?_, fun nobody free => ?_, account.order, ready.sent.out_skb, ready.sent.written⟩
  · rw [waits.lined.queue, waits.lined.backlog, List.append_assoc]
    exact (List.perm_append_comm).trans (by rw [List.append_assoc])
  · have nothing : after = [] := waits.lined.plain fun _ _ same => by cases nobody.symm.trans same
    rw [waits.lined.backlog, nothing, List.nil_append]
    exact List.eq_nil_iff_forall_not_mem.mpr fun q member => (waits.idle nobody q member).1 free

theorem two_clients_are_answered : ∃ s, follow step Tame {} twoClients = some s ∧ s.lock_owner = 0 ∧ s.Delivered := by
  have done : (follow step Tame {} twoClients).map lock_owner = some 0 := by decide +kernel
  obtain ⟨s, reached, free⟩ := Option.map_eq_some_iff.mp done
  exact ⟨s, reached, free, requests_are_delivered_of_run (follow_run _ _ _ _ reached)⟩

/-- Three clients: while the first holds the lock, the second sends LOCK and
UNLOCK and the third a request before and one after the UNLOCK, each in a
packet of its own. -/
def overtaking : List NetlinkEvent :=
  let packet := fun pid seq type => NetlinkEvent.arrive [⟨pid, seq, type, true, true, [], 0⟩]
  [packet 3 1 KS_NETLINK_TOPOLOGY_LOCK] ++ List.replicate 2 NetlinkEvent.look ++
    [packet 5 1 KS_NETLINK_TOPOLOGY_LOCK] ++ List.replicate 2 NetlinkEvent.look ++
    [packet 7 1 NLMSG_NOOP] ++ List.replicate 3 NetlinkEvent.look ++
    [packet 5 2 KS_NETLINK_TOPOLOGY_UNLOCK] ++ List.replicate 4 NetlinkEvent.look ++
    [packet 7 2 NLMSG_NOOP] ++ List.replicate 5 NetlinkEvent.look ++
    [packet 3 2 KS_NETLINK_TOPOLOGY_UNLOCK] ++ List.replicate 11 NetlinkEvent.look

/-- When the first client gives the lock up, the pass through the backlog puts
the third client's first request back and serves the second. -/
theorem waiting_request_is_overtaken :
    ¬ ∀ (es : List NetlinkEvent) (s : NetlinkState), Run step Any {} es s → s.Delivered := by
  intro always
  have done : (follow step Any {} overtaking).map
      (fun s => (s.handledFor 7, s.queue, ofPid 7 s.arrived.flatten)) =
      some ([⟨7, 2, NLMSG_NOOP, true, true, [], 0⟩, ⟨7, 1, NLMSG_NOOP, true, true, [], 0⟩], [],
        [⟨7, 1, NLMSG_NOOP, true, true, [], 0⟩, ⟨7, 2, NLMSG_NOOP, true, true, [], 0⟩]) := by decide +kernel
  obtain ⟨s, reached, same⟩ := Option.map_eq_some_iff.mp done
  have order := (always _ s (follow_run _ _ _ _ reached)).order 7
  simp only [Prod.mk.injEq] at same
  obtain ⟨handled, queue, sent⟩ := same
  rw [handled, queue, sent] at order
  cases order

end NetlinkState
end Vstuff.Kstreamer
