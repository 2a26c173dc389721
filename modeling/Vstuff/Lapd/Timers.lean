import Vstuff.Lapd.LinkStep

/-! Timer supervision: in every state that waits for the peer a timer is
pending that will end the wait. One handler changes the timers and forgets the
state, a SABME in state 8. -/
namespace Vstuff.Lapd
open Transition Window
set_option linter.all false

/-- T200 in states 5, 6 and 8, exactly one of the two timers in state 7, none
in states 1 to 4. -/
structure TimersOk (s : Sock) : Prop where
  waiting : s.state = .awaitingEstablish ∨ s.state = .awaitingRelease ∨ s.state = .timerRecovery →
    s.t200 = true
  established : s.state = .linkConnectionEstablished → s.t200 = !s.t203
  quiet : s.state.quiet = true → s.t200 = false ∧ s.t203 = false

/-- The invariant says in addition that T203 does not run beside a waiting
state, and that in state 7 it runs only while nothing is outstanding. -/
structure Timed (l : Link) : Prop where
  waiting : l.state = .awaitingEstablish ∨ l.state = .awaitingRelease ∨ l.state = .timerRecovery →
    l.t200 = true ∧ l.t203 = false
  established : l.state = .linkConnectionEstablished → l.t200 = !l.t203
  outstanding : l.state = .linkConnectionEstablished → l.t203 = true → l.vS = l.vA
  quiet : l.state.quiet = true ∨ l.state = .null ∨ l.state = .listening →
    l.t200 = false ∧ l.t203 = false

section Changes
variable {l m : Link} {sap : Sap} {purge reset mute : Bool} {acks : Option Seq} {s : Sock}

/-- In state 7 the three facts about it are all there is to show. -/
private theorem timed_established (here : l.state = .linkConnectionEstablished)
    (one : l.t200 = !l.t203) (outstanding : l.t203 = true → l.vS = l.vA) : Timed l where
  waiting := by rw [here]; simp
  established := fun _ => one
  outstanding := fun _ => outstanding
  quiet := by rw [here]; simp [DatalinkState.quiet]

private theorem timed_waiting (here : l.state = .awaitingEstablish ∨ l.state = .awaitingRelease ∨
    l.state = .timerRecovery) (running : l.t200 = true) (stopped : l.t203 = false) : Timed l where
  waiting := fun _ => ⟨running, stopped⟩
  established := by obtain here | here | here := here <;> rw [here] <;> simp
  outstanding := by obtain here | here | here := here <;> rw [here] <;> simp
  quiet := by obtain here | here | here := here <;> rw [here] <;> simp [DatalinkState.quiet]

private theorem timed_quiet (here : l.state.quiet = true) (stopped : l.t200 = false ∧ l.t203 = false) :
    Timed l where
  waiting := by
    revert here
    cases l.state <;> simp [DatalinkState.quiet]
  established := by
    revert here
    cases l.state <;> simp [DatalinkState.quiet]
  outstanding := by
    revert here
    cases l.state <;> simp [DatalinkState.quiet]
  quiet := fun _ => stopped

/-- T203 runs in state 7 only. -/
private theorem t203_in_7 (held : Timed l) (elsewhere : l.state ≠ .linkConnectionEstablished) :
    l.t203 = false := by
  cases here : l.state with
  | linkConnectionEstablished => exact absurd here elsewhere
  | awaitingEstablish | awaitingRelease | timerRecovery => exact (held.waiting (by simp [here])).2
  | null | listening | teiUnassigned | awaitingTei | establishAwaitingTei | teiAssigned =>
    exact (held.quiet (by simp [here, DatalinkState.quiet])).2

/-- With nothing outstanding the only valid N(R) is V(A). -/
private theorem accepts_none {nR : Seq} (valid : l.accepts nR) (none : l.vS = l.vA) : nR = l.vA := by
  unfold Link.accepts at valid
  rw [none, dist_self] at valid
  exact (dist_eq_zero.mp (Nat.le_zero.mp valid)).symm

theorem transmitIframe_timers (skb : Skb) : (transmitIframe s skb).t200 = true ∧
    (transmitIframe s skb).t203 = (s.t203 && s.t200) ∧ (transmitIframe s skb).vA = s.vA ∧
    (transmitIframe s skb).state = s.state := by
  unfold transmitIframe
  dsimp only
  cases running : s.t200 <;> simp [running, phDataRequest, startT200, stopT203]

/-- Sending a frame makes sure that T200 runs, and then T203 does not. -/
theorem sendLoop_timed (sent rest : List Skb) (here : s.state = .linkConnectionEstablished)
    (held : Timed s.toLink) : Timed (sendLoop s sent rest).toLink := by
  induction rest generalizing s sent with
  | nil => exact timed_established here (held.established here) (held.outstanding here)
  | cons skb rest ih =>
    unfold sendLoop
    split
    · exact timed_established here (held.established here) (held.outstanding here)
    · obtain ⟨running, other, _, state⟩ :=
        transmitIframe_timers (s := s) { skb with nS := s.vS, nR := s.vR, transmitted := true }
      have stopped : (s.t203 && s.t200) = false := by
        rw [held.established here]
        cases s.t203 <;> rfl
      rw [stopped] at other
      refine ih _ (state.trans here) (timed_established (state.trans here) ?_ ?_)
      · rw [running, other]
        rfl
      · rw [other]
        exact fun impossible => by cases impossible

theorem runIQueue_timed (here : s.state = .linkConnectionEstablished) (held : Timed s.toLink) :
    Timed (runIQueue s).toLink := by
  unfold runIQueue
  split
  · exact held
  · split
    · exact held
    · split
      · exact held
      · split
        · exact timed_established here (held.established here) (held.outstanding here)
        · exact sendLoop_timed _ _ here held

/-- Every change keeps the timers right, but for a reset in state 8. -/
theorem LinkStep.timed (change : LinkStep l sap purge reset mute acks m) (held : Timed l)
    (clean : l.state = .timerRecovery → reset = false) : Timed m := by
  cases change with
  | idle => exact held
  | goto next here there => exact timed_quiet there (held.quiet (.inl here))
  | released next here there =>
    have stopped := (held.waiting (.inr (.inl here))).2
    refine timed_quiet ?_ ⟨rfl, stopped⟩
    obtain rfl | rfl := there <;> rfl
  | establish => exact timed_waiting (.inl rfl) rfl rfl
  | purgeRelease next t203 caused here there timer =>
    refine timed_quiet ?_ ⟨rfl, ?_⟩
    · obtain rfl | rfl := there <;> rfl
    · obtain rfl | ⟨rfl, elsewhere⟩ := timer
      · rfl
      · have stopped := t203_in_7 held elsewhere
        exact stopped
  | purgeEstablish caused here => exact timed_waiting (.inl rfl) rfl rfl
  | purgeDisconnect t203 caused here timer =>
    refine timed_waiting (.inr (.inl rfl)) rfl ?_
    obtain rfl | ⟨rfl, elsewhere⟩ := timer
    · rfl
    · have stopped := t203_in_7 held elsewhere
      exact stopped
  | accept here =>
    refine timed_established rfl ?_ fun _ => rfl
    exact (held.quiet (.inl (by rw [here]; rfl))).1
  | reset caused here silent =>
    have established : l.state = .linkConnectionEstablished := by
      cases state : l.state with
      | linkConnectionEstablished => rfl
      | timerRecovery => exact absurd (caused.symm.trans (clean state)) (by simp)
      | null | listening | teiUnassigned | awaitingTei | establishAwaitingTei | teiAssigned
      | awaitingEstablish | awaitingRelease => rw [state] at here; cases here
    exact timed_established established rfl fun _ => rfl
  | connect caused here silent => exact timed_established rfl rfl fun _ => rfl
  | connectRun s caused here same reached =>
    have state : s.state = .linkConnectionEstablished := by rw [reached]
    refine runIQueue_timed state (timed_established state ?_ ?_)
    · rw [reached]
      rfl
    · rw [reached]
      exact fun _ => rfl
  | enqueue skb fresh here =>
    have waiting : l.state = .awaitingEstablish ∨ l.state = .awaitingRelease ∨
        l.state = .timerRecovery := here.imp id .inr
    exact timed_waiting waiting (held.waiting waiting).1 (held.waiting waiting).2
  | enqueueRun s skb fresh here same reached =>
    have state : s.state = .linkConnectionEstablished := by rw [reached]; exact here
    refine runIQueue_timed state (timed_established state ?_ ?_)
    · rw [reached]
      exact held.established here
    · rw [reached]
      exact held.outstanding here
  | ack nR busy valid here =>
    obtain here | ⟨here, _⟩ := here
    · have running := held.waiting (.inr (.inr here))
      exact timed_waiting (.inr (.inr here)) running.1 running.2
    · refine timed_established here (held.established here) fun idle => ?_
      have none := held.outstanding here idle
      exact none.trans (accepts_none valid none).symm
  | ackAll caused here => exact timed_established here rfl fun _ => rfl
  | ackSome nR caused here valid outstanding moved =>
    have stopped : l.t203 = false := by
      by_contra idle
      have none := held.outstanding here (by simpa using idle)
      exact moved (accepts_none valid none)
    refine timed_established here ?_ fun idle => ?_
    · change true = !l.t203
      rw [stopped]
      rfl
    · change l.t203 = true at idle
      rw [stopped] at idle
      cases idle
  | ackNone caused here outstanding =>
    exact timed_established here (held.established here) (held.outstanding here)
  | goBack s nR busy t200 t203 here valid same timers reached =>
    rw [invokeRetransmission_eq]
    have state : s.state = .linkConnectionEstablished := by rw [reached]
    refine runIQueue_timed state (timed_established state ?_ fun _ => rfl)
    change s.t200 = !s.t203
    rw [reached]
    obtain ⟨_, rfl, rfl⟩ | ⟨_, rfl, rfl | ⟨recovering, rfl⟩⟩ := timers
    · rfl
    · rfl
    · change true = !l.t203
      rw [(held.waiting (.inr (.inr recovering))).2]
      rfl
  | enquire t203 here fired =>
    refine timed_waiting (.inr (.inr rfl)) rfl ?_
    obtain ⟨running, rfl⟩ | ⟨_, rfl⟩ := fired
    · have one := held.established here
      rw [running] at one
      exact (Bool.not_eq_true' _).mp one.symm
    · rfl
  | expireT200 fired here => exact absurd ((held.quiet here).1.symm.trans fired) (by simp)
  | expireT203 fired here => exact absurd ((t203_in_7 held here).symm.trans fired) (by simp)
  | swapTimers fired =>
    have here : l.state = .linkConnectionEstablished := by
      by_contra elsewhere
      exact absurd ((t203_in_7 held elsewhere).symm.trans fired) (by simp)
    exact timed_established here rfl fun idle => by cases idle

end Changes

/-! ## Runs -/

/-- No SABME is handled in state 8. -/
def TimerClean (s : Sock) (e : Event) : Prop := s.state = .timerRecovery → resets s e = false

instance (s : Sock) (e : Event) : Decidable (TimerClean s e) := inferInstanceAs (Decidable (_ → _))

section Runs
variable {s t : Sock} {es : List Event}

theorem Init.timed (fresh : Init s) : Timed s.toLink := by
  have link := fresh.link
  have state := fresh.state
  constructor
  · obtain here | here | here | here := state <;> rw [here] <;> simp
  · obtain here | here | here | here := state <;> rw [here] <;> simp
  · obtain here | here | here | here := state <;> rw [here] <;> simp
  · intro _
    rw [link]
    exact ⟨rfl, rfl⟩

/-- In every run in which no SABME is handled in state 8, the timers supervise
every state that waits. -/
theorem timers_supervise (fresh : Init s) (run : Run step TimerClean s es t) : TimersOk t := by
  have held : Timed t.toLink := run.invariant (fun s => Timed s.toLink)
    (fun held clean took => (step_link took).timed held clean) fresh.timed
  exact ⟨fun here => (held.waiting here).1, held.established, fun here => held.quiet (.inl here)⟩

/-- The terminal connects and does not answer. -/
theorem silent_terminal_is_supervised :
    ∃ t, Run step TimerClean (networkSock 1)
      [fromTerminal .command (.uframe .sabme true) [], .timerT203, .timerT200] t ∧ TimersOk t := by
  have run := follow_run step TimerClean (networkSock 1)
    [fromTerminal .command (.uframe .sabme true) [], .timerT203, .timerT200] rfl
  exact ⟨_, run, timers_supervise (networkSock_init (by decide) (by decide)) run⟩

/-- A SABME in state 8 stops T200 and stays there: T203 does not move that
state when it expires. -/
theorem reset_in_recovery_stops_the_timer :
    ¬ ∀ s es t, Init s → s.skState = .normalDlc → Run step Any s es t → TimersOk t := by
  intro claim
  have run := follow_run step Any (networkSock 1)
    [fromTerminal .command (.uframe .sabme true) [], .timerT203,
      fromTerminal .command (.uframe .sabme true) [], .timerT203] rfl
  have ok := claim _ _ _ (networkSock_init (by decide) (by decide)) rfl run
  exact absurd (ok.waiting (.inr (.inr rfl))) (by decide)

end Runs

end Vstuff.Lapd
