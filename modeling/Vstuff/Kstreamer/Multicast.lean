import Vstuff.Kstreamer.Netlink
import Mathlib.Data.List.Chain

/-! The numbers of the notices to the topology group. A notice that finds no room
in the buffer is written once more into the next one, and either attempt takes a
number. -/
namespace Vstuff.Kstreamer
open Transition
set_option linter.all false

/-- Notices with their numbers, and the number of the next one: each fitted, or
was written at the second attempt. -/
inductive Numbered : List Nat → Nat → Prop where
  | nil : Numbered [] 0xBEEF
  | sent {notices : List Nat} {next : Nat} (before : Numbered notices next) (fits : Bool) :
      Numbered (notices ++ [next + (!fits).toNat]) (next + (!fits).toNat + 1)

/-- The number of a notice that follows, at the first or the second attempt. -/
def Follows (number later : Nat) : Prop := later = number + 1 ∨ later = number + 2

theorem Numbered.next {notices : List Nat} {next : Nat} (numbered : Numbered notices next) :
    ∀ last ∈ notices.getLast?, next = last + 1 := by
  intro last there
  cases numbered with
  | nil => cases there
  | sent _ fits =>
    rw [List.getLast?_concat] at there
    cases there
    rfl

/-- The numbers go up, by one or by two. -/
theorem Numbered.follows {notices : List Nat} {next : Nat} (numbered : Numbered notices next) :
    notices.IsChain Follows := by
  induction numbered with
  | nil => exact .nil
  | @sent notices next before fits ih =>
    apply List.IsChain.append ih (.singleton _)
    intro last there first here
    cases here
    have follows := before.next last there
    cases fits with
    | true => exact .inl follows
    | false => exact .inr (congrArg (· + 1) follows)

namespace NetlinkState

variable {s t : NetlinkState}

/-- The notices written so far, in this order: those that were broadcast, those of
the packets that wait, and those of the packet that is being filled. -/
def notices (s : NetlinkState) : List Nat :=
  s.broadcasts.flatten ++ s.mcast_queue.flatten ++ s.mcast_skb.getD []

/-- All that the topology group will hear of. -/
def news (s : NetlinkState) : List Nat × Nat := (s.notices, s.mcast_seqnum)

def Counted (s : NetlinkState) : Prop := Numbered s.notices s.mcast_seqnum

theorem Counted.of_news (counted : s.Counted) (same : t.news = s.news) : t.Counted := by
  obtain ⟨notices, seqnum⟩ := Prod.mk.inj same
  unfold Counted
  rw [notices, seqnum]
  exact counted

theorem put_news (nlh : Nlmsghdr) (reply : Reply) (fits : Bool) : (s.put nlh reply fits).news = s.news := by
  have need (r : NetlinkState) : r.needSkb.news = r.news := by
    unfold needSkb
    split <;> rfl
  have flush (r : NetlinkState) : r.flush.news = r.news := by
    unfold NetlinkState.flush
    split <;> rfl
  cases fits with
  | true => exact need s
  | false => exact (need _).trans ((flush _).trans (need s))

theorem sendError_news (nlh : Nlmsghdr) (error : Int) : (s.sendError nlh error).news = s.news := put_news _ _ _

theorem flush_news : s.flush.news = s.news := by
  unfold NetlinkState.flush
  split <;> rfl

theorem mcastFlush_news : s.mcastFlush.news = s.news := by
  unfold mcastFlush
  split
  · rfl
  · unfold news notices
    cases skb : s.mcast_skb with
    | none => simp
    | some numbers => cases numbers <;> simp

theorem mcastNeedSkb_news : s.mcastNeedSkb.news = s.news := by
  unfold mcastNeedSkb
  split
  · rename_i none
    rw [Option.isNone_iff_eq_none] at none
    simp [news, notices, none]
  · rfl

theorem mcastNeedSkb_some : ∃ numbers, s.mcastNeedSkb.mcast_skb = some numbers := by
  unfold mcastNeedSkb
  cases skb : s.mcast_skb with
  | none => exact ⟨[], rfl⟩
  | some numbers => exact ⟨numbers, skb⟩

theorem mcastNeedAnotherSkb_news : s.mcastNeedAnotherSkb.news = s.news := by
  unfold mcastNeedAnotherSkb
  split
  · exact mcastNeedSkb_news
  · rename_i skb
    refine mcastNeedSkb_news.trans ?_
    simp [news, notices, skb]

theorem mcastNeedAnotherSkb_some : ∃ numbers, s.mcastNeedAnotherSkb.mcast_skb = some numbers := by
  unfold mcastNeedAnotherSkb
  split
  · exact mcastNeedSkb_some
  · exact mcastNeedSkb_some

/-- Each attempt takes a number. -/
theorem mcastSend_news (fits : Bool) : (s.mcastSend fits).news =
    (s.notices ++ [s.mcast_seqnum + (!fits).toNat], s.mcast_seqnum + (!fits).toNat + 1) := by
  have append (r : NetlinkState) (some : ∃ numbers, r.mcast_skb = some numbers) :
      ({ r with
        mcast_skb := r.mcast_skb.map (· ++ [r.mcast_seqnum])
        mcast_seqnum := r.mcast_seqnum + 1 } : NetlinkState).news =
      (r.notices ++ [r.mcast_seqnum], r.mcast_seqnum + 1) := by
    obtain ⟨numbers, some⟩ := some
    simp [news, notices, some]
  obtain ⟨notices, seqnum⟩ := Prod.mk.inj (mcastNeedSkb_news (s := s))
  cases fits with
  | true =>
    refine (append s.mcastNeedSkb mcastNeedSkb_some).trans ?_
    rw [notices, seqnum]
    rfl
  | false =>
    refine (append _ mcastNeedAnotherSkb_some).trans ?_
    obtain ⟨notices', seqnum'⟩ := Prod.mk.inj
      (mcastNeedAnotherSkb_news (s := { s.mcastNeedSkb with mcast_seqnum := s.mcastNeedSkb.mcast_seqnum + 1 }))
    rw [notices', seqnum', seqnum]
    exact congrArg (fun ns => (ns ++ [s.mcast_seqnum + 1], s.mcast_seqnum + 1 + 1)) notices

theorem Counted.mcastSend (counted : s.Counted) (fits : Bool) : (s.mcastSend fits).Counted := by
  obtain ⟨notices, seqnum⟩ := Prod.mk.inj (mcastSend_news (s := s) fits)
  unfold Counted
  rw [notices, seqnum]
  exact .sent counted fits

theorem Counted.write (counted : s.Counted) (nlh : Nlmsghdr) (write : Write) : (s.write nlh write).Counted := by
  cases write with
  | response kind seq fits => exact counted.of_news (put_news _ _ _)
  | mcast fits => exact counted.mcastSend fits

theorem Counted.writes (counted : s.Counted) (nlh : Nlmsghdr) (writes : List Write) :
    (writes.foldl (NetlinkState.write nlh) s).Counted := by
  induction writes generalizing s with
  | nil => exact counted
  | cons w writes ih => exact ih (counted.write nlh w)

theorem Counted.mcasts (counted : s.Counted) (writes : List Bool) : (writes.foldl NetlinkState.mcastSend s).Counted := by
  induction writes generalizing s with
  | nil => exact counted
  | cons fits writes ih => exact ih (counted.mcastSend fits)

theorem doLock_news {nlh : Nlmsghdr} (locks : s.doLock nlh = some t) : t.news = s.news := by
  unfold doLock at locks
  split at locks
  · split at locks
    · cases locks
    · cases locks
      exact mcastFlush_news
  · cases locks
    rfl

/-- `TOPOLOGY_LOCK` and `TOPOLOGY_TRYLOCK` write no notice. -/
theorem acquired_news {nlh : Nlmsghdr} {err : Int}
    (locks : (s.doLock nlh).map (fun state => (state.sendAck nlh, (0 : Int))) = some (t, err)) : t.news = s.news := by
  obtain ⟨r, locked, same⟩ := Option.map_eq_some_iff.mp locks
  cases same
  exact (put_news _ _ _).trans (doLock_news locked)

theorem cmdTopologyUnlock_news (nlh : Nlmsghdr) : (s.cmdTopologyUnlock nlh).1.news = s.news := by
  unfold cmdTopologyUnlock
  split
  · rfl
  · split
    · rfl
    · dsimp only
      split
      · exact mcastFlush_news.trans (put_news _ _ _)
      · exact put_news _ _ _

theorem Counted.handler {nlh : Nlmsghdr} {cmd : Command} {err : Int} (counted : s.Counted)
    (done : s.handler nlh cmd = some (t, err)) : t.Counted := by
  cases cmd with
  | done =>
    cases done
    exact counted
  | noop =>
    cases done
    exact counted.of_news (put_news _ _ _)
  | version =>
    cases done
    exact counted.of_news (put_news _ _ _)
  | topologyLock =>
    change s.cmdTopologyLock nlh = _ at done
    unfold cmdTopologyLock at done
    split at done
    · cases done
    · split at done
      · cases done
      · exact counted.of_news (acquired_news done)
  | topologyTrylock =>
    change s.cmdTopologyTrylock nlh = _ at done
    unfold cmdTopologyTrylock at done
    split at done
    · cases done
    · split at done
      · cases done
        exact counted
      · exact counted.of_news (acquired_news done)
  | topologyUnlock =>
    have same := cmdTopologyUnlock_news (s := s) nlh
    change some (s.cmdTopologyUnlock nlh) = _ at done
    rw [Option.some.inj done] at same
    exact counted.of_news same
  | notImplemented =>
    cases done
    exact counted
  | object =>
    cases done
    exact counted.writes nlh nlh.writes

theorem Counted.rcvMsg {packet : Nat} {nlh : Nlmsghdr} {err : Int} (counted : s.Counted)
    (done : s.rcvMsg packet nlh = some (t, err)) : t.Counted := by
  unfold NetlinkState.rcvMsg at done
  split at done
  · cases done
    exact counted
  · split at done
    · cases done
      exact counted
    · split at done
      · cases done
        exact counted
      · obtain ⟨⟨r, code⟩, handled, same⟩ := Option.map_eq_some_iff.mp done
        cases same
        have counted : r.Counted := Counted.handler (s := { s with
          cur_pid := nlh.nlmsg_pid
          cur_seq := nlh.nlmsg_seq
          handled := s.handled ++ [⟨packet, nlh, s.lock_owner⟩] }) counted handled
        refine counted.of_news (mcastFlush_news.trans (flush_news.trans ?_))
        split
        · exact sendError_news _ _
        · rfl

theorem endPacket_news (work : Work) (again : Bool) : (s.endPacket work again).news = s.news := by
  have start (r : NetlinkState) : r.startPass.news = r.news := by
    unfold startPass
    split <;> rfl
  have turn (r : NetlinkState) (packet : Packet) (pass : Pass) : (r.endTurn packet pass).news = r.news := by
    unfold endTurn
    split
    · rfl
    · split
      · exact start r
      · rfl
  unfold endPacket
  cases again with
  | true =>
    dsimp only
    split
    · exact start _
    · exact turn _ _ _
  | false =>
    dsimp only
    split
    · exact start _
    · exact turn _ _ _

theorem Counted.look (counted : s.Counted) (work : Work) : (s.look work).Counted := by
  unfold NetlinkState.look
  split
  · exact counted.of_news (endPacket_news _ _)
  · split
    · exact counted
    · rename_i nlh _ _ _ _ err received
      have counted := counted.rcvMsg received
      split
      · exact counted.of_news (endPacket_news _ _)
      · have refused := counted.of_news (sendError_news nlh err)
        split
        · exact refused
        · exact counted

theorem Counted.step {e : NetlinkEvent} (counted : s.Counted) (took : s.step e = some t) : t.Counted := by
  unfold NetlinkState.step at took
  split at took
  · cases took
  · split at took
    · cases took
      exact counted
    · cases took
    · cases took
      exact counted.look _
    · cases took
    · split at took
      · cases took
        exact counted
      · cases took
    · split at took
      · cases took
        have written := Counted.mcasts (s := { s with sections := s.sections ++ [s.lock_owner] }) counted
        exact (written _).of_news mcastFlush_news
      · cases took

/-- In every run the notices that have been broadcast are numbered in their order, and
a number is left out only where a notice was written twice. -/
theorem broadcasts_follow {es : List NetlinkEvent} (run : Run NetlinkState.step Any {} es s) :
    s.broadcasts.flatten.IsChain Follows := by
  have counted : s.Counted := by
    refine run.invariant Counted (fun counted _ took => counted.step took) ?_
    exact Numbered.nil
  have chain := counted.follows
  unfold notices at chain
  rw [List.append_assoc] at chain
  exact chain.left_of_append

end NetlinkState
end Vstuff.Kstreamer
