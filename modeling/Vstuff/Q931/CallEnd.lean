import Vstuff.Q931.CallSides

/-! The end of a call: its reference is released once, in the null state and with
no timer left running. Every branch stops the timers of the state it is taken in,
and the few that do not are listed, with the ways in which a timer of another state
is still running or a released call begins again. -/
namespace Vstuff.Q931.Call
open Transition
open Lapd (IntfRole)
set_option linter.all false

/-! ## The timers of a state -/

/-- The timers that are started when a state is entered. -/
def State.timers : State → List Timer
  | .u1 | .n6 => [.t303]
  | .u2 | .n25 => [.t304]
  | .u8 => [.t313]
  | .u10 | .n10 => [.t309]
  | .u11 => [.t305]
  | .u15 => [.t319]
  | .u17 => [.t318]
  | .u19 | .n19 => [.t308]
  | .u25 | .n2 => [.t302]
  | .n7 => [.t301]
  | .n9 => [.t310]
  | .n12 => [.t305, .t306]
  | .n22 => [.t312]
  | _ => []

/-- The timer whose expiry a branch handles. -/
def Branch.expired : Branch → Option Timer
  | timerT301 _ _ => some .t301
  | timerT302 => some .t302
  | timerT303 _ _ _ => some .t303
  | timerT304 _ _ => some .t304
  | timerT305 => some .t305
  | timerT306 => some .t306
  | timerT308 _ _ _ => some .t308
  | timerT309 => some .t309
  | timerT310 _ _ => some .t310
  | timerT312 _ _ _ => some .t312
  | timerT313 => some .t313
  | timerT318 => some .t318
  | timerT319 => some .t319
  | timerT322 _ _ => some .t322
  | _ => none

/-- The branches that release the reference after `q931_call_stop_any_timer`. -/
def stopsAll (state : State) : Branch → Bool
  | .restartRequest => true
  | .handleStatus .null _ _ => state != .n19 && state != .u19
  | .dlReleaseIndication _ _ => state != .n10 && state != .u10
  | _ => false

/-- The branches that release the reference and do not stop a timer of the state:
a terminal of a broadcast call leaves while T312 or T304 runs, T312 expires while
T304 runs, an active call whose data link is lost is released by the peer, and
RELEASE stops T302 in place of T301. -/
def forgets (state : State) (timer : Timer) : Branch → Bool
  | .intReleaseCompleteIndication _ _ => state == .n22 && timer == .t312
  | .intReleaseIndication _ _ _ => state == .n25 && timer == .t304
  | .timerT312 _ _ _ => state == .n25 && timer == .t304
  | .handleRelease _ =>
    (state == .u10 || state == .n10) && timer == .t309 || state == .n7 && timer == .t301
  | .handleReleaseComplete _ => (state == .u10 || state == .n10) && timer == .t309
  | _ => false

/-- A branch for a message with an unknown call reference. -/
def Branch.ofUnknown : Branch → Bool
  | unknownRelease | unknownReleaseComplete | unknownMessage => true
  | _ => false

/-- The timer an act starts. -/
def Act.starts : Act → Option Timer
  | start timer | restart timer => some timer
  | _ => none

theorem known_or {branch : Branch} {state : State} (known : branch.ofUnknown → state.isNull) :
    (!branch.ofUnknown || state.isNull) = true := by
  cases unknown : branch.ofUnknown with
  | false => rfl
  | true => exact known unknown

/-- The reference is released once, in the null state, and nothing is started. -/
theorem release_reference_once : ∀ (branch : Branch) (state : State) (handled : Bool),
    (branch.ofUnknown → state.isNull) → Act.releaseReference ∈ reached handled (branch.acts state) →
      (reached handled (branch.acts state)).count .releaseReference = 1 ∧
      (lastState state (reached handled (branch.acts state))).isNull ∧
      ∀ act ∈ reached handled (branch.acts state), act.starts = none := by
  have checked : ∀ (branch : Branch) (state : State) (handled : Bool),
      (!((reached handled (branch.acts state)).contains .releaseReference && (!branch.ofUnknown || state.isNull)) ||
        (reached handled (branch.acts state)).count .releaseReference == 1 &&
          ((lastState state (reached handled (branch.acts state))).isNull &&
            (reached handled (branch.acts state)).all (·.starts == none))) = true := by
    intro branch state
    revert branch
    cases state
    all_goals decide +kernel
  intro branch state handled known releases
  simpa only [List.contains_iff_mem.mpr releases, known_or known, Bool.and_self, Bool.not_true, Bool.false_or,
    Bool.and_eq_true, beq_iff_eq, List.all_eq_true] using checked branch state handled

/-- What holds of a call that has not ended otherwise. -/
structure EndedCleanly (call : Process) : Prop where
  fresh : call.fresh → call.state.isNull
  once : call.released ≤ 1
  gone : call.listed = false →
    call.fresh = false ∧ call.state.isNull ∧ ∀ timer, call.pending timer → timer = .t322

/-- The timers of the state are stopped, unless the branch forgets them. -/
theorem release_reference_stops : ∀ (branch : Branch) (state : State) (handled : Bool),
    (branch.ofUnknown → state.isNull) → Act.releaseReference ∈ reached handled (branch.acts state) →
      if stopsAll state branch then Act.stopAny ∈ reached handled (branch.acts state)
      else ∀ timer ∈ state.timers, forgets state timer branch ∨ branch.expired = some timer ∨
        Act.stop timer ∈ reached handled (branch.acts state) := by
  have checked : ∀ (branch : Branch) (state : State) (handled : Bool),
      (!((reached handled (branch.acts state)).contains .releaseReference && (!branch.ofUnknown || state.isNull)) ||
        if stopsAll state branch then (reached handled (branch.acts state)).contains .stopAny
        else state.timers.all fun timer => forgets state timer branch || (branch.expired == some timer ||
          (reached handled (branch.acts state)).contains (.stop timer))) = true := by
    intro branch state
    revert branch
    cases state
    all_goals decide +kernel
  intro branch state handled known releases
  have stopped := checked branch state handled
  rw [List.contains_iff_mem.mpr releases, known_or known, Bool.and_self, Bool.not_true, Bool.false_or] at stopped
  split
  · next all =>
    rw [if_pos all] at stopped
    exact List.contains_iff_mem.mp stopped
  · next some =>
    rw [if_neg some] at stopped
    simpa only [List.all_eq_true, Bool.or_eq_true, beq_iff_eq, List.contains_iff_mem] using stopped

/-- The null state is not entered otherwise. -/
theorem null_state_releases : ∀ (branch : Branch) (state : State) (handled : Bool),
    ¬ state.isNull → (lastState state (reached handled (branch.acts state))).isNull →
      Act.releaseReference ∈ reached handled (branch.acts state) := by
  have checked : ∀ (branch : Branch) (state : State) (handled : Bool),
      (state.isNull || !(lastState state (reached handled (branch.acts state))).isNull ||
        (reached handled (branch.acts state)).contains .releaseReference) = true := by
    intro branch state
    revert branch
    cases state
    all_goals decide +kernel
  intro branch state handled lives ends
  have releases := checked branch state handled
  rw [Bool.eq_false_iff.mpr lives, ends] at releases
  exact List.contains_iff_mem.mp releases

/-- A RELEASE COMPLETE ends a call of the user. -/
example : .releaseReference ∈ reached true ((Branch.handleReleaseComplete false).acts .u10) := by decide +kernel

/-! ## Refused calls -/

/-- A SETUP or SETUP-REQUEST that is refused and leaves the call where it is: the
elements of the SETUP are not in order, or the network side has no channel. -/
def refusesSilently (state : State) (handled : Bool) : Branch → Bool
  | .handleSetup _ _ => state.isNull && !handled
  | .setupRequest acquired enableBumping _ => state == .n0 && !acquired && !enableBumping
  | _ => false

def Branch.isSetup : Branch → Bool
  | handleSetup _ _ | setupRequest _ _ _ => true
  | _ => false

theorem refused_setup_releases : ∀ (branch : Branch) (state : State) (handled : Bool),
    state.isNull → branch.isSetup → refusesSilently state handled branch = false →
      (lastState state (reached handled (branch.acts state))).isNull →
      Act.releaseReference ∈ reached handled (branch.acts state) := by
  intro branch state
  revert branch
  cases state
  all_goals decide +kernel

/-! ## Released calls -/

/-- The requests that begin a call. -/
def begins (state : State) : Branch → Bool
  | .setupRequest acquired enableBumping _ => state == .u0 || state == .n0 && (acquired || enableBumping)
  | .resumeRequest => state == .u0
  | _ => false

/-- An event that ends the call cleanly, if it ends it. A released call is not begun
again; a call that is refused is released; and where not all timers are stopped,
those of the state are the only ones running and none of them is forgotten. -/
structure EndsCleanly (call : Process) (e : Env × Event) : Prop where
  gone : call.listed = false → begins call.state (call.takes e) = false
  refused : call.listed → refusesSilently call.state e.2.judgement.handled (call.takes e) = false
  timers : .releaseReference ∈ call.does e → stopsAll call.state (call.takes e) = false →
    ∀ timer, (call.ready e.2).pending timer →
      timer ∈ call.state.timers ∧ forgets call.state timer (call.takes e) = false

instance (call : Process) (e : Env × Event) : Decidable (EndsCleanly call e) :=
  decidable_of_iff
    ((call.listed = false → begins call.state (call.takes e) = false) ∧
      (call.listed → refusesSilently call.state e.2.judgement.handled (call.takes e) = false) ∧
      (.releaseReference ∈ call.does e → stopsAll call.state (call.takes e) = false →
        ∀ timer, (call.ready e.2).pending timer →
          timer ∈ call.state.timers ∧ forgets call.state timer (call.takes e) = false))
    ⟨fun ⟨gone, refused, timers⟩ => ⟨gone, refused, timers⟩, fun clean => ⟨clean.gone, clean.refused, clean.timers⟩⟩

/-- What can still happen to a call that is not on `intf->calls`: what the call
control and the terminals ask, and the expiry of a status enquiry. -/
def Branch.afterRelease : Branch → Bool
  | timerT322 _ _ => true
  | restartRequest | dlEstablishIndication _ _ | dlEstablishConfirm | dlReleaseIndication _ _ => false
  | branch => !branch.ofMessage && !branch.ofUnknown && branch.expired == none

theorem released_stays : ∀ (branch : Branch) (state : State) (handled : Bool),
    state.isNull → branch.afterRelease → begins state branch = false →
      Act.releaseReference ∉ reached handled (branch.acts state) ∧
      lastState state (reached handled (branch.acts state)) = state ∧
      ∀ act ∈ reached handled (branch.acts state), act.starts = none ∨ act.starts = some .t322 := by
  intro branch state
  revert branch
  cases state
  all_goals decide +kernel

/-! ## Which branches an event can take -/

theorem ofMessage_not_ofUnknown : ∀ branch : Branch, branch.ofMessage →
    branch.ofUnknown = false ∧ branch.expired = none := by
  decide +kernel

section Takes
variable {call : Process} {e : Env × Event}

theorem dispatched_not_ofUnknown (msg : Received) (env : Env) :
    (dispatchMessage call env msg).ofUnknown = false ∧ (dispatchMessage call env msg).expired = none :=
  ofMessage_not_ofUnknown _ (dispatchMessage_ofMessage ..)

theorem takes_ofUnknown (enabled : call.enabled e.2) (unknown : (call.takes e).ofUnknown) : call.fresh := by
  obtain ⟨env, e⟩ := e
  cases e with
  | message msg =>
    rw [Process.takes, choose, (dispatched_not_ofUnknown ..).1] at unknown
    cases unknown
  | unknown toOriginating msg => exact enabled
  | timer timer => cases timer <;> cases unknown
  | _ => cases unknown

theorem takes_expired_event {timer : Timer} (expired : (call.takes e).expired = some timer) : e.2 = .timer timer := by
  obtain ⟨env, e⟩ := e
  cases e with
  | message msg =>
    rw [Process.takes, choose, (dispatched_not_ofUnknown ..).2] at expired
    cases expired
  | unknown toOriginating msg =>
    simp only [Process.takes, choose, receiveUnknown] at expired
    split_ifs at expired
    all_goals first | cases expired | (rw [(dispatched_not_ofUnknown ..).2] at expired; cases expired)
  | timer other => cases other <;> cases expired <;> rfl
  | _ => cases expired

theorem takes_expired {timer : Timer} (expired : (call.takes e).expired = some timer) :
    (call.ready e.2).pending timer = false := by
  rw [takes_expired_event expired]
  simp [Process.ready, Process.setPending]

theorem takes_afterRelease (enabled : call.enabled e.2) (gone : call.listed = false) (stale : call.fresh = false)
    (idle : ∀ timer, call.pending timer → timer = .t322) : (call.takes e).afterRelease := by
  obtain ⟨env, e⟩ := e
  cases e with
  | message msg | restartRequest | dlEstablishIndication | dlEstablishConfirm | dlReleaseIndication
  | dlReleaseConfirm => exact absurd (enabled.symm.trans gone) nofun
  | unknown toOriginating msg => exact absurd (enabled.symm.trans stale) nofun
  | timer timer =>
    obtain rfl := idle timer enabled
    rfl
  | _ => rfl

/-- A SETUP is received, or to be sent. -/
def Event.isSetup : Event → Bool
  | message msg | unknown _ msg => msg.type == MessageType.setup.code
  | setupRequest => true
  | _ => false

theorem takes_isSetup (setup : e.2.isSetup) :
    (call.takes e).isSetup ∨ call.takes e = .unknownReleaseComplete := by
  obtain ⟨env, e⟩ := e
  cases e with
  | message msg =>
    have type : msg.type = MessageType.setup.code := beq_iff_eq.mp setup
    refine .inl ?_
    rw [Process.takes, choose, dispatchMessage, type]
    rfl
  | unknown toOriginating msg =>
    have type : msg.type = MessageType.setup.code := beq_iff_eq.mp setup
    rw [Process.takes, choose, receiveUnknown, dispatchMessage, type]
    cases toOriginating with
    | false => exact .inl rfl
    | true => exact .inr rfl
  | setupRequest => exact .inl rfl
  | _ => cases setup

end Takes

/-! ## Runs -/

theorem alloc_endedCleanly (role : IntfRole) (broadcastSetup tonesOption : Bool) :
    EndedCleanly (alloc role broadcastSetup tonesOption) where
  fresh := fun _ => by cases role <;> rfl
  once := Nat.zero_le 1
  gone := nofun

section
variable {call next : Process} {e : Env × Event}

theorem starts_mem {acts : List Act} {timer : Timer} (started : .start timer ∈ acts ∨ .restart timer ∈ acts) :
    ∃ act ∈ acts, act.starts = some timer := by
  rcases started with started | restarted
  · exact ⟨_, started, rfl⟩
  · exact ⟨_, restarted, rfl⟩

/-- The end of a call. -/
theorem step_ends (sound : EndedCleanly call) (clean : EndsCleanly call e) (took : call.step e = some next)
    (ends : .releaseReference ∈ call.does e) :
    next.released = call.released + 1 ∧ next.state.isNull ∧ ∀ timer, next.pending timer = false := by
  obtain ⟨enabled, -, -⟩ := step_eq_some took
  have known : (call.takes e).ofUnknown → call.state.isNull := fun unknown => sound.fresh (takes_ofUnknown enabled unknown)
  obtain ⟨count, null, quiet⟩ := release_reference_once _ _ _ known ends
  have stops := release_reference_stops _ _ _ known ends
  refine ⟨by rw [step_released took]; exact congrArg (call.released + ·) count,
    by rw [step_state took]; exact null, fun timer => Bool.eq_false_iff.mpr fun pending => ?_⟩
  rcases step_pending took pending with started | ⟨before, running, kept⟩
  · obtain ⟨act, member, starts⟩ := starts_mem started
    rw [quiet act member] at starts
    cases starts
  · split_ifs at stops with all
    · exact kept stops
    · obtain ⟨own, remembered⟩ := clean.timers ends (Bool.eq_false_iff.mpr all) timer before
      rcases stops timer own with forgotten | expired | stopped
      · rw [remembered] at forgotten
        cases forgotten
      · rw [takes_expired expired] at before
        cases before
      · exact running stopped

/-- Nothing more happens to a call that has ended. -/
theorem step_gone (sound : EndedCleanly call) (clean : EndsCleanly call e) (took : call.step e = some next)
    (gone : call.listed = false) :
    next.released = call.released ∧ next.state = call.state ∧ ∀ timer, next.pending timer → timer = .t322 := by
  obtain ⟨enabled, -, -⟩ := step_eq_some took
  obtain ⟨stale, null, idle⟩ := sound.gone gone
  obtain ⟨kept, same, quiet⟩ := released_stays _ _ e.2.judgement.handled null
    (takes_afterRelease enabled gone stale idle) (clean.gone gone)
  refine ⟨by rw [step_released took, Process.does, List.count_eq_zero.mpr kept]; rfl,
    by rw [step_state took]; exact same, fun timer pending => ?_⟩
  rcases step_pending took pending with started | ⟨before, -, -⟩
  · obtain ⟨act, member, starts⟩ := starts_mem started
    rcases quiet act member with none | t322
    · rw [none] at starts
      cases starts
    · exact Option.some.inj (starts.symm.trans t322)
  · exact idle timer (ready_pending before)

theorem step_endedCleanly (sound : EndedCleanly call) (clean : EndsCleanly call e)
    (took : call.step e = some next) : EndedCleanly next := by
  have stale := step_fresh took
  have old : next.fresh → next.state.isNull := fun fresh => absurd (fresh.symm.trans stale) nofun
  cases listed : call.listed with
  | false =>
    obtain ⟨same, kept, idle⟩ := step_gone sound clean took listed
    refine ⟨old, by rw [same]; exact sound.once, fun _ => ⟨stale, ?_, idle⟩⟩
    rw [kept]
    exact (sound.gone listed).2.1
  | true =>
    have zero : call.released = 0 := beq_iff_eq.mp listed
    by_cases ends : .releaseReference ∈ call.does e
    · obtain ⟨count, null, quiet⟩ := step_ends sound clean took ends
      refine ⟨old, by rw [count, zero], fun _ => ⟨stale, null, fun timer pending => ?_⟩⟩
      rw [quiet timer] at pending
      cases pending
    · have same : next.released = 0 := by
        rw [step_released took, List.count_eq_zero.mpr ends, zero]
      refine ⟨old, by omega, fun gone => ?_⟩
      rw [Process.listed, same] at gone
      cases gone

end

/-- In a run of clean events the reference of a call is released at most once, in
an event that leaves the call in the null state and no timer running; and an event
that takes the call to the null state or refuses it releases the reference. -/
theorem reference_is_released_once_of_run {role : IntfRole} {broadcastSetup tonesOption : Bool}
    {es : List (Env × Event)} {call : Process}
    (run : Run Process.step EndsCleanly (alloc role broadcastSetup tonesOption) es call) :
    call.released ≤ 1 ∧ ∀ e next, EndsCleanly call e → call.step e = some next →
      (call.released < next.released → next.state.isNull ∧ ∀ timer, next.pending timer = false) ∧
      (call.listed → ¬ call.state.isNull → next.state.isNull → call.released < next.released) ∧
      (call.listed → e.2.isSetup → call.state.isNull → next.state.isNull → call.released < next.released) := by
  have sound : EndedCleanly call := run.invariant EndedCleanly step_endedCleanly (alloc_endedCleanly ..)
  refine ⟨sound.once, fun e next clean took => ?_⟩
  have grows : .releaseReference ∈ call.does e → call.released < next.released := by
    intro ends
    rw [(step_ends sound clean took ends).1]
    exact Nat.lt_succ_self _
  refine ⟨fun more => ?_, fun _ active null => ?_, fun listed setup null stays => ?_⟩
  · by_cases ends : .releaseReference ∈ call.does e
    · exact (step_ends sound clean took ends).2
    · rw [step_released took, List.count_eq_zero.mpr ends] at more
      exact absurd more (Nat.lt_irrefl _)
  · rw [step_state took] at null
    exact grows (null_state_releases _ _ _ active null)
  · rw [step_state took] at stays
    rcases takes_isSetup setup with isSetup | isComplete
    · exact grows (refused_setup_releases _ _ _ null isSetup (clean.refused listed) stays)
    · refine grows ?_
      have released : ∀ state handled,
          Act.releaseReference ∈ reached handled (Branch.acts state .unknownReleaseComplete) := by decide +kernel
      rw [Process.does, isComplete]
      exact released _ _

theorem rejected_call_ends_cleanly :
    ∃ call next, Run Process.step EndsCleanly (alloc .te false false) [(Env.idle, .setupRequest)] call ∧
      call.pending .t303 = true ∧ call.step (Env.idle, .message (bare .releaseComplete .te)) = some next ∧
      call.released < next.released ∧ next.state.isNull ∧ ∀ timer, next.pending timer = false := by
  have run : Run Process.step EndsCleanly (alloc .te false false) [(Env.idle, .setupRequest)] _ :=
    .cons (by decide) rfl (.nil _)
  obtain ⟨ends, -, -⟩ := (reference_is_released_once_of_run run).2
    (Env.idle, .message (bare .releaseComplete .te)) _ (by decide) rfl
  exact ⟨_, _, run, rfl, rfl, by decide, ends (by decide)⟩

/-- A status enquiry runs on when the call has ended, and a SETUP without elements
is refused and its call kept. -/
theorem ended_call_leaves_a_timer :
    (∃ call, follow Process.step Any (alloc .te false false)
        [(Env.idle, .setupRequest), (Env.idle, .statusEnquiryRequest true),
          (Env.idle, .message (bare .releaseComplete .te))] = some call ∧
      call.released = 1 ∧ call.pending .t322 = true) ∧
    ∃ call, follow Process.step Any (alloc .te false false)
        [(Env.idle, .unknown false (bare .setup .te))] = some call ∧
      call.state = .u0 ∧ call.sent = [.releaseComplete] ∧ call.released = 0 :=
  ⟨⟨_, rfl, rfl, rfl⟩, ⟨_, rfl, rfl, rfl, rfl⟩⟩

end Vstuff.Q931.Call
