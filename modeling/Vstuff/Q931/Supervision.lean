import Vstuff.Q931.CallEnd

/-! The timers that move a waiting call: in each state that waits for an answer of
the peer a timer is running, and when it expires the call goes on. -/
namespace Vstuff.Q931.Call
open Transition
open Lapd (IntfRole)
set_option linter.all false

/-- The timers that supervise a state. -/
def State.supervisors : State → List Timer
  | .u1 | .n6 => [.t303]
  | .u8 => [.t313]
  | .u11 => [.t305]
  | .n12 => [.t305, .t306]
  | .u15 => [.t319]
  | .u17 => [.t318]
  | .u19 | .n19 => [.t308]
  | _ => []

/-- The call has asked for its release. -/
def State.isRelease (state : State) : Bool := state == .u19 || state == .n19

/-! ## Whether a timer runs after acts -/

/-- Whether a timer is pending after the acts. -/
def runs (timer : Timer) (pending : Bool) : List Act → Bool
  | [] => pending
  | .start other :: rest | .restart other :: rest => runs timer (pending || other == timer) rest
  | .stop other :: rest => runs timer (pending && other != timer) rest
  | .stopAny :: rest => runs timer false rest
  | _ :: rest => runs timer pending rest

theorem perform_runs (acts : List Act) {timer : Timer} : ∀ call : Process,
    (call.perform acts).pending timer = runs timer (call.pending timer) acts := by
  induction acts with
  | nil => intro call; rfl
  | cons act acts ih =>
    intro call
    have set : ∀ other value, (call.setPending other value).pending timer =
        if other = timer then value else call.pending timer := by
      intro other value
      by_cases same : other = timer
      · subst same
        simp [Process.setPending]
      · simp [Process.setPending, same, Function.update_of_ne (Ne.symm same)]
    rw [perform_cons, ih]
    cases act with
    | start other | restart other =>
      rw [runs, Process.act, set]
      by_cases same : other = timer
      · simp [same]
      · simp [same, beq_eq_false_iff_ne.mpr same]
    | stop other =>
      rw [runs, Process.act, set]
      by_cases same : other = timer
      · simp [same]
      · simp [same, bne_iff_ne.mpr same]
    | _ => rfl

/-- A timer that has been started keeps running, whatever was before. -/
theorem runs_mono (timer : Timer) (acts : List Act) (pending : Bool) (started : runs timer false acts) :
    runs timer pending acts := by
  induction acts generalizing pending with
  | nil => cases started
  | cons act acts ih =>
    cases pending with
    | false => exact started
    | true =>
      cases act with
      | start other | restart other =>
        rw [runs, Bool.true_or]
        rw [runs, Bool.false_or] at started
        cases same : other == timer with
        | true => rwa [same] at started
        | false => rw [same] at started; exact ih true started
      | stop other =>
        rw [runs, Bool.false_and] at started
        rw [runs]
        exact ih _ started
      | stopAny => exact started
      | _ => exact ih true started

/-! ## What the branches do -/

/-- The branches that leave a call waiting: a terminal that has sent its SETUP stops
T303 for a response whose channel it does not accept, starts T308 and stays where
it is; and the expiry of T319 is looked for on the network side. -/
def leavesWaiting (state : State) (handled : Bool) : Branch → Bool
  | .handleCallProceeding _ selected | .handleSetupAcknowledge _ selected => state == .u1 && handled && !selected
  | .timerT319 => state == .u15
  | _ => false

/-- T308 runs exactly in the release states after the acts, if it has before. -/
def t308After (branch : Branch) (state last : State) (acts : List Act) : Bool :=
  runs .t308 (state.isRelease && branch.expired != some .t308) acts == last.isRelease

/-- A state that is supervised has a timer started, or is the state before and its
timers keep running. -/
def waitingAfter (branch : Branch) (state last : State) (acts : List Act) : Bool :=
  last.supervisors == [] || last.supervisors.any (runs · false acts) ||
    last == state && last.supervisors.all fun timer => branch.expired != some timer && runs timer true acts

/-- A timer of the state that expires moves the call or is started again. -/
def movesAfter (branch : Branch) (state last : State) (acts : List Act) : Bool :=
  state.supervisors.all fun timer => branch.expired != some timer || last != state || runs timer false acts

/-- What a branch does to the timers of waiting states. -/
def supervises (branch : Branch) (state last : State) (acts : List Act) : Bool :=
  t308After branch state last acts && waitingAfter branch state last acts && movesAfter branch state last acts

theorem acts_supervise : ∀ (branch : Branch) (state : State), leavesWaiting state true branch = false →
    supervises branch state (lastState state (branch.acts state)) (branch.acts state) := by
  have checked : ∀ (branch : Branch) (state : State),
      (supervises branch state (lastState state (branch.acts state)) (branch.acts state) ||
        leavesWaiting state true branch) = true := by
    intro branch state
    revert branch
    cases state
    all_goals decide +kernel
  intro branch state kept
  simpa only [kept, Bool.or_false] using checked branch state

/-- T308 runs in the release states only, and a state that is supervised has a timer
running. -/
structure Supervised (call : Process) : Prop where
  t308 : call.pending .t308 = call.state.isRelease
  waiting : call.state.supervisors ≠ [] → ∃ timer ∈ call.state.supervisors, call.pending timer

/-- Nothing happens to the timers as long as nothing is done. -/
theorem idle_supervises : ∀ (state : State) (branch : Branch), branch.expired = none →
    supervises branch state state [] ∧ supervises branch state state [.setReleaseCompleteReceived] := by
  intro state branch plain
  unfold supervises t308After waitingAfter movesAfter
  rw [plain]
  revert state
  decide

/-- A response that is not in order is not looked at. -/
theorem refused_response_waits : ∀ (branch : Branch) (state : State),
    leavesWaiting state true branch → leavesWaiting state false branch = false →
      branch.ofMessage ∧ reached false (branch.acts state) = [] := by
  intro branch state
  revert branch
  cases state
  all_goals decide +kernel

theorem branch_supervises {branch : Branch} {state : State} {handled : Bool}
    (clean : leavesWaiting state handled branch = false) :
    supervises branch state (lastState state (reached handled (branch.acts state)))
      (reached handled (branch.acts state)) := by
  have idle : branch.ofMessage → supervises branch state state [] ∧
      supervises branch state state [.setReleaseCompleteReceived] :=
    fun message => idle_supervises state branch (ofMessage_not_ofUnknown branch message).2
  cases waits : leavesWaiting state true branch with
  | false =>
    exact of_reached (p := fun acts => supervises branch state (lastState state acts) acts) handled
      (acts_supervise branch state waits) idle
  | true =>
    cases handled with
    | true => exact absurd (waits.symm.trans clean) nofun
    | false =>
      obtain ⟨message, nothing⟩ := refused_response_waits branch state waits clean
      rw [nothing]
      exact (idle message).1

section
variable {call next : Process} {e : Env × Event}

theorem step_runs (took : call.step e = some next) (timer : Timer) :
    next.pending timer = runs timer ((call.ready e.2).pending timer) (call.does e) := by
  obtain ⟨sent, rfl⟩ := step_does took
  exact perform_runs _ _

/-- The timers that supervise a state have a branch for their expiry. -/
theorem expire_expired (timer : Timer) (env : Env) : ∀ state : State, timer ∈ state.supervisors →
    (expire call env timer).expired = some timer := by
  have supervisors : ∀ state : State, ∀ timer ∈ state.supervisors,
      timer ≠ .t314 ∧ timer ≠ .t316 ∧ timer ≠ .t320 ∧ timer ≠ .t321 := by decide
  intro state supervisor
  obtain ⟨t314, t316, t320, t321⟩ := supervisors state timer supervisor
  cases timer with
  | t314 => exact absurd rfl t314
  | t316 => exact absurd rfl t316
  | t320 => exact absurd rfl t320
  | t321 => exact absurd rfl t321
  | _ => rfl

/-- Its timers are as they were unless one of them expires. -/
theorem ready_runs {state : State} {timer : Timer} (supervisor : timer ∈ state.supervisors) :
    (call.ready e.2).pending timer = (call.pending timer && (call.takes e).expired != some timer) := by
  obtain ⟨env, e⟩ := e
  have plain : (∀ other, e ≠ .timer other) → (call.takes (env, e)).expired ≠ some timer := by
    intro none expired
    exact none timer (takes_expired_event expired)
  cases e with
  | timer other =>
    by_cases same : other = timer
    · subst same
      have expired : (call.takes (env, .timer other)).expired = some other :=
        expire_expired other env state supervisor
      simp [Process.ready, Process.setPending, expired]
    · have others : (call.takes (env, .timer other)).expired ≠ some timer := by
        intro expired
        exact same (Event.timer.inj (takes_expired_event expired))
      simp [Process.ready, Process.setPending, Function.update_of_ne (Ne.symm same), others]
  | _ =>
    have others := plain fun _ timer => by cases timer
    simp [Process.ready, others]

/-! ## Runs -/

/-- An event that does not leave the call waiting. -/
def KeepsSupervision (call : Process) (e : Env × Event) : Prop :=
  leavesWaiting call.state e.2.judgement.handled (call.takes e) = false

instance (call : Process) (e : Env × Event) : Decidable (KeepsSupervision call e) :=
  inferInstanceAs (Decidable (_ = _))

theorem alloc_supervised (role : IntfRole) (broadcastSetup tonesOption : Bool) :
    Supervised (alloc role broadcastSetup tonesOption) := by
  cases role with
  | te => exact ⟨rfl, fun waits => absurd rfl waits⟩
  | nt => exact ⟨rfl, fun waits => absurd rfl waits⟩

theorem step_supervised (sound : Supervised call) (clean : KeepsSupervision call e)
    (took : call.step e = some next) : Supervised next := by
  obtain ⟨sound', -⟩ := Bool.and_eq_true_iff.mp (branch_supervises clean)
  obtain ⟨t308, waiting⟩ := Bool.and_eq_true_iff.mp sound'
  have state := step_state took
  refine ⟨?_, fun waits => ?_⟩
  · have supervisor : Timer.t308 ∈ State.u19.supervisors := by decide
    have before : (call.ready e.2).pending .t308 = _ := ready_runs supervisor
    rw [step_runs took, before, sound.t308, state]
    exact beq_iff_eq.mp t308
  · rw [state] at waits ⊢
    rcases Bool.or_eq_true_iff.mp waiting with started | stays
    · rcases Bool.or_eq_true_iff.mp started with none | started
      · exact absurd (beq_iff_eq.mp none) waits
      · obtain ⟨timer, member, running⟩ := List.any_eq_true.mp started
        refine ⟨timer, member, ?_⟩
        rw [step_runs took]
        exact runs_mono _ _ _ running
    · obtain ⟨same, kept⟩ := Bool.and_eq_true_iff.mp stays
      have unchanged : lastState call.state (call.does e) = call.state := beq_iff_eq.mp same
      rw [unchanged] at waits ⊢
      obtain ⟨timer, member, before⟩ := sound.waiting waits
      have running := List.all_eq_true.mp kept timer (by rw [← unchanged] at member; exact member)
      obtain ⟨other, keeps⟩ := Bool.and_eq_true_iff.mp running
      refine ⟨timer, member, ?_⟩
      rw [step_runs took, ready_runs member, before, Bool.true_and, other]
      exact keeps

/-- The expiry of a timer of the state moves the call. -/
theorem expiry_moves {timer : Timer} (clean : KeepsSupervision call e) (expires : e.2 = .timer timer)
    (supervisor : timer ∈ call.state.supervisors) (took : call.step e = some next) :
    next.state ≠ call.state ∨ next.pending timer := by
  obtain ⟨-, moves⟩ := Bool.and_eq_true_iff.mp (branch_supervises clean)
  have expired : (call.takes e).expired = some timer := by
    rw [Process.takes, expires]
    exact expire_expired timer e.1 call.state supervisor
  have moved := List.all_eq_true.mp moves timer supervisor
  rw [expired, bne_self_eq_false, Bool.false_or] at moved
  rcases Bool.or_eq_true_iff.mp moved with elsewhere | started
  · refine .inl ?_
    rw [step_state took]
    exact bne_iff_ne.mp elsewhere
  · refine .inr ?_
    rw [step_runs took]
    exact runs_mono _ _ _ started

end

/-- In a run of such events T308 runs exactly in the release states, every state
that waits for the peer has a timer running, and its expiry moves the call or starts
the timer again. -/
theorem waiting_call_is_supervised_of_run {role : IntfRole} {broadcastSetup tonesOption : Bool}
    {es : List (Env × Event)} {call : Process}
    (run : Run Process.step KeepsSupervision (alloc role broadcastSetup tonesOption) es call) :
    (call.pending .t308 = true ↔ call.state = .u19 ∨ call.state = .n19) ∧
    (call.state.supervisors ≠ [] → ∃ timer ∈ call.state.supervisors, call.pending timer) ∧
    ∀ e next timer, KeepsSupervision call e → e.2 = .timer timer → timer ∈ call.state.supervisors →
      call.step e = some next → next.state ≠ call.state ∨ next.pending timer := by
  have sound : Supervised call := run.invariant Supervised step_supervised (alloc_supervised ..)
  refine ⟨?_, sound.waiting, fun e next timer clean expires supervisor took => expiry_moves clean expires supervisor took⟩
  rw [sound.t308, State.isRelease]
  simp

theorem repeated_setup_is_supervised :
    ∃ call next, Run Process.step KeepsSupervision (alloc .te false false) [(Env.idle, .setupRequest)] call ∧
      (∃ timer ∈ call.state.supervisors, call.pending timer) ∧
      call.step (Env.idle, .timer .t303) = some next ∧ (next.state ≠ call.state ∨ next.pending .t303) := by
  have run : Run Process.step KeepsSupervision (alloc .te false false) [(Env.idle, .setupRequest)] _ :=
    .cons rfl rfl (.nil _)
  obtain ⟨-, waiting, moves⟩ := waiting_call_is_supervised_of_run run
  exact ⟨_, _, run, waiting (by decide), rfl, moves (Env.idle, .timer .t303) _ .t303 rfl rfl (by decide) rfl⟩

/-- CALL PROCEEDING without an acceptable channel leaves a terminal with T308 in place
of T303, and T319 expires without any effect. -/
theorem refused_proceeding_and_t319_leave_the_call_waiting :
    (∃ call, follow Process.step Any (alloc .te false false)
        [(Env.idle, .setupRequest), (Env.idle, .message (bare .callProceeding .te))] = some call ∧
      call.state = .u1 ∧ call.pending .t303 = false ∧ call.pending .t308 = true) ∧
    ∃ call, follow Process.step Any (alloc .te false false)
        [(Env.idle, .setupRequest), ({ Env.idle with selected := true }, .message (bare .callProceeding .te)),
          ({ Env.idle with attached := true }, .message (bare .connect .te)), (Env.idle, .suspendRequest),
          (Env.idle, .timer .t319)] = some call ∧
      call.state = .u15 ∧ ∀ timer, call.pending timer = false :=
  ⟨⟨_, rfl, rfl, rfl, rfl⟩, ⟨_, rfl, rfl, by decide⟩⟩

end Vstuff.Q931.Call
