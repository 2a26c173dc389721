import Vstuff.Q931.Repetition

/-! How long a terminal lives: it is freed from inside its own handlers, by way of its call, and
its timers hold no reference to it. `call->preselected_ces` and `call->selected_ces` are bare
pointers. -/
namespace Vstuff.Q931.Call
set_option linter.all false

/-! ## The timers of a terminal -/

/-- No timer of a terminal is running. -/
def Ces.Idle (ces : Ces) : Prop := ∀ timer, ces.pending timer = false

/-- A terminal with its timers. -/
structure Watch where
  state : CesState
  t304 : Bool
  t308 : Bool
  t322 : Bool
  deriving DecidableEq

def Ces.watch (ces : Ces) : Watch where
  state := ces.state
  t304 := ces.pending .t304
  t308 := ces.pending .t308
  t322 := ces.pending .t322

namespace Watch

def setPending (watch : Watch) (timer : CesTimer) (value : Bool) : Watch :=
  match timer with
  | .t304 => { watch with t304 := value }
  | .t308 => { watch with t308 := value }
  | .t322 => { watch with t322 := value }

def act (watch : Watch) : CesAct → Watch
  | .setState state => { watch with state := state }
  | .start timer => watch.setPending timer true
  | .stop timer => watch.setPending timer false
  | .stopAny => { watch with t304 := false, t308 := false, t322 := false }
  | _ => watch

/-- T304 runs in I25 only. -/
def timely (watch : Watch) : Bool := !watch.t304 || watch.state == .i25

/-- Nothing is running. -/
def idle (watch : Watch) : Bool := !watch.t304 && !watch.t308 && !watch.t322

end Watch

theorem watch_setPending (ces : Ces) (timer : CesTimer) (value : Bool) :
    (ces.setPending timer value).watch = ces.watch.setPending timer value := by
  cases timer <;> simp [Ces.setPending, Ces.watch, Watch.setPending, Function.update]

theorem watch_act (ces : Ces) (act : CesAct) : (ces.act act).watch = ces.watch.act act := by
  cases act with
  | send type =>
    simp only [Ces.act, Ces.sends]
    split_ifs <;> rfl
  | start timer => exact watch_setPending ces timer true
  | stop timer => exact watch_setPending ces timer false
  | _ => rfl

theorem watch_perform (acts : List CesAct) : ∀ ces : Ces, (ces.perform acts).watch = acts.foldl Watch.act ces.watch := by
  induction acts with
  | nil => intro ces; rfl
  | cons act acts ih =>
    intro ces
    rw [List.foldl_cons, ← watch_act]
    exact ih (ces.act act)

theorem idle_iff (ces : Ces) : ces.Idle ↔ ces.watch.idle := by
  unfold Ces.Idle Watch.idle Ces.watch
  simp only [Bool.and_eq_true, Bool.not_eq_true']
  constructor
  · exact fun idle => ⟨⟨idle .t304, idle .t308⟩, idle .t322⟩
  · rintro ⟨⟨t304, t308⟩, t322⟩ timer
    cases timer with
    | t304 => exact t304
    | t308 => exact t308
    | t322 => exact t322

/-- What the call asks of a terminal leaves T304 to I25, and I8 only with a RELEASE. -/
theorem request_watch : ∀ (callT322 : Bool) (request : CesRequest) (state : CesState) (t304 t308 t322 : Bool),
    let before : Watch := ⟨state, t304, t308, t322⟩
    let after := (cesRequest state callT322 request).foldl Watch.act before
    (before.timely → after.timely) ∧ (state = .i8 → request ≠ .release → after.state = .i8) := by
  decide +kernel

/-- A handler that is not a request of the call. -/
def CesBranch.isHandler : CesBranch → Bool
  | request _ _ => false
  | _ => true

/-- A timer that expires is not running any more. -/
def CesBranch.after (watch : Watch) : CesBranch → Bool
  | timerT304 => !watch.t304
  | timerT308 _ => !watch.t308
  | timerT322 _ _ => !watch.t322
  | _ => true

/-- What a handler leaves of the timers. A terminal in I8 stays in it, or is released; one that
connects is in I8 afterwards, and one in I19 stays there. One that tells of the end of its release
has no timer running, if the ones that are not stopped were not. -/
def CesBranch.Leaves (branch : CesBranch) (before after : Watch) : Prop :=
  (before.timely → after.timely) ∧ (before.state = .i8 → .release ∉ branch.told before.state → after.state = .i8) ∧
  (.connect ∈ branch.told before.state → after.state = .i8) ∧ (before.state = .i19 → after.state = .i19) ∧
  (before.timely → .releaseComplete ∈ branch.told before.state →
    (CesAct.stopAny ∈ branch.own before.state ∨ before.t322 = false ∧ (before.state = .i19 ∨ before.t308 = false)) → after.idle)

instance (branch : CesBranch) (before after : Watch) : Decidable (branch.Leaves before after) := inferInstanceAs (Decidable (_ ∧ _))

/-- The same as it is computed. -/
def CesBranch.leaves (branch : CesBranch) (before after : Watch) : Bool :=
  (!before.timely || after.timely) &&
  (before.state != .i8 || (branch.told before.state).contains .release || after.state == .i8) &&
  (!(branch.told before.state).contains .connect || after.state == .i8) &&
  (before.state != .i19 || after.state == .i19) &&
  (!before.timely || !(branch.told before.state).contains .releaseComplete ||
    !((branch.own before.state).contains .stopAny || !before.t322 && (before.state == .i19 || !before.t308)) || after.idle)

theorem CesBranch.leaves_iff {branch : CesBranch} {before after : Watch} :
    branch.leaves before after ↔ branch.Leaves before after := by
  simp only [leaves, Leaves, Bool.and_eq_true, Bool.or_eq_true, Bool.not_eq_true', bne_iff_ne, beq_iff_eq,
    List.contains_iff_mem]
  grind

theorem handler_leaves : ∀ (branch : CesBranch) (state : CesState) (t304 t308 t322 : Bool),
    let before : Watch := ⟨state, t304, t308, t322⟩
    branch.isHandler → branch.after before → branch.Leaves before ((branch.own state).foldl Watch.act before) := by
  have checked : ∀ (branch : CesBranch) (state : CesState) (t304 t308 t322 : Bool),
      !(branch.isHandler && branch.after ⟨state, t304, t308, t322⟩) ||
        branch.leaves ⟨state, t304, t308, t322⟩ ((branch.own state).foldl Watch.act ⟨state, t304, t308, t322⟩) := by
    intro branch state
    revert branch
    cases state
    all_goals decide +kernel
  intro branch state t304 t308 t322 before handler after
  have leaves := checked branch state t304 t308 t322
  rw [handler, after, Bool.and_self, Bool.not_true, Bool.false_or] at leaves
  exact CesBranch.leaves_iff.mp leaves

/-- What a terminal tells the call. -/
theorem told_shape : ∀ (branch : CesBranch) (state : CesState),
    branch.told state = [] ∨ branch.told state = [.release] ∨
    (branch.told state = [.releaseComplete] ∧ state = .i19) ∨ branch.told state = [.release, .releaseComplete] ∨
    ∃ indication ∈ [Indication.alerting, .connect, .callProceeding, .info, .progress], branch.told state = [indication] := by
  decide +kernel

/-! ## Calls with terminals -/

/-- Whether the call is for the broadcast link, where the handler looks at it. -/
def Branch.broadcast : Branch → Option Bool
  | disconnectRequest broadcastSetup _ _ | infoRequest broadcastSetup _ | moreInfoRequest broadcastSetup _ _
  | setupCompleteRequest broadcastSetup | statusEnquiryRequest broadcastSetup _ _ | timerT301 broadcastSetup _
  | timerT303 broadcastSetup _ _ | timerT304 broadcastSetup _ | timerT310 broadcastSetup _
  | handleAlerting broadcastSetup _ | handleCallProceeding broadcastSetup _ | handleConnect broadcastSetup _
  | handleProgress broadcastSetup _ | handleSetupAcknowledge broadcastSetup _ | handleDisconnect broadcastSetup
  | handleRelease broadcastSetup | handleReleaseComplete broadcastSetup | handleInfo broadcastSetup
  | dlEstablishIndication broadcastSetup _ | dlReleaseIndication broadcastSetup _ => some broadcastSetup
  | _ => none

/-- It is the call's own flag that is looked at. -/
def Branch.Looks (call : Process) (branch : Branch) : Prop :=
  ∀ broadcastSetup, branch.broadcast = some broadcastSetup → broadcastSetup = call.broadcastSetup

theorem dispatchMessage_looks (call : Process) (env : Env) (msg : Received) : (dispatchMessage call env msg).Looks call := by
  unfold dispatchMessage
  repeat' refine iteInduction (motive := Branch.Looks call) (fun _ => ?_) (fun _ => ?_)
  all_goals first | exact fun _ same => (Option.some.inj same).symm | exact fun _ => nofun

theorem choose_looks (call : Process) (env : Env) (e : Event) : (choose call env e).Looks call := by
  cases e with
  | message msg => exact dispatchMessage_looks call env msg
  | unknown toOriginating msg =>
    rw [choose, receiveUnknown]
    repeat' refine iteInduction (motive := Branch.Looks call) (fun _ => ?_) (fun _ => ?_)
    all_goals first | exact fun _ same => (Option.some.inj same).symm | exact fun _ none => by cases none
  | timer timer =>
    intro broadcastSetup looked
    cases timer <;> simp_all [choose, expire, Branch.broadcast]
  | _ =>
    intro broadcastSetup looked
    simp_all [choose, Branch.broadcast]

/-- What a handler of the call does about the broadcast link, in every state. -/
theorem acts_broadcast : ∀ (branch : Branch) (state : State),
    (.cesAlloc ∈ branch.acts state → branch.broadcast = some true ∨ state = .n22) ∧
    (lastState state (branch.acts state) = .n22 → state = .n22 ∨ branch.broadcast = some true ∨
      (match branch with | .intReleaseIndication _ _ _ => true | _ => false) = true) ∧
    (.setBroadcast ∈ branch.acts state → lastState state (branch.acts state) = .n6) := by
  have checked : ∀ (branch : Branch) (state : State),
      ((!(branch.acts state).contains .cesAlloc || (branch.broadcast == some true || state == .n22)) &&
        ((lastState state (branch.acts state) != .n22) || (state == .n22 || (branch.broadcast == some true ||
          (match branch with | .intReleaseIndication _ _ _ => true | _ => false)))) &&
        (!(branch.acts state).contains .setBroadcast || lastState state (branch.acts state) == .n6)) = true := by
    intro branch state
    revert branch
    cases state
    all_goals decide +kernel
  intro branch state
  have all := checked branch state
  simp only [Bool.and_eq_true, Bool.or_eq_true, Bool.not_eq_true', Bool.eq_false_iff, bne_iff_ne, beq_iff_eq, ne_eq,
    List.contains_iff_mem, ← imp_iff_not_or] at all
  obtain ⟨⟨made, last⟩, set⟩ := all
  exact ⟨made, last, set⟩

/-- Only a call for the broadcast link makes terminals, or one that has been aborted. -/
theorem alloc_broadcast (branch : Branch) (state : State) (made : .cesAlloc ∈ branch.acts state) :
    branch.broadcast = some true ∨ state = .n22 := (acts_broadcast branch state).1 made

/-- A call is aborted if it is for the broadcast link, or when a terminal tells of its release. -/
theorem abort_broadcast : ∀ (branch : Branch) (state : State) (handled : Bool),
    lastState state (reached handled (branch.acts state)) = .n22 →
    state = .n22 ∨ branch.broadcast = some true ∨ ∃ able preselected t312, branch = .intReleaseIndication able preselected t312 := by
  intro branch state handled
  refine of_reached (p := fun acts => lastState state acts = .n22 → state = .n22 ∨ branch.broadcast = some true ∨
    ∃ able preselected t312, branch = .intReleaseIndication able preselected t312) handled ?_ fun _ => ⟨.inl, .inl⟩
  intro aborted
  refine ((acts_broadcast branch state).2.1 aborted).imp_right (.imp_right fun told => ?_)
  split at told
  · exact ⟨_, _, _, rfl⟩
  · cases told

/-- A call comes to be for the broadcast link when it sends its SETUP. -/
theorem setBroadcast_state : ∀ (branch : Branch) (state : State) (handled : Bool),
    .setBroadcast ∈ reached handled (branch.acts state) → lastState state (reached handled (branch.acts state)) = .n6 := by
  intro branch state handled
  refine of_reached (p := fun acts => .setBroadcast ∈ acts → lastState state acts = .n6) handled
    (acts_broadcast branch state).2.2 fun _ => ⟨nofun, ?_⟩
  intro member
  cases List.mem_singleton.mp member

theorem perform_broadcastSetup (acts : List Act) : ∀ call : Process,
    (call.perform acts).broadcastSetup = (call.broadcastSetup || acts.contains .setBroadcast) := by
  induction acts with
  | nil => intro call; simp [Process.perform]
  | cons act acts ih =>
    intro call
    rw [perform_cons, ih]
    cases act <;> simp [Process.act, Process.setPending]

theorem perform_preselected (acts : List Act) : ∀ call : Process,
    (call.perform acts).preselected = (call.preselected || acts.contains .preselect) := by
  induction acts with
  | nil => intro call; simp [Process.perform]
  | cons act acts ih =>
    intro call
    rw [perform_cons, ih]
    cases act <;> simp [Process.act, Process.setPending]

namespace Terminals
variable (terminals : Terminals) (s : Setting) (callT322 : Bool) (current : Option Nat) (request : CesRequest)

theorem perform_told : terminals.perform s callT322 current [.ces request] =
    current.elim terminals fun id => terminals.update id (ask callT322 request) := rfl

theorem perform_all : terminals.perform s callT322 current [.cesAll request] =
    { terminals with ces := terminals.ces.map (ask callT322 request) } := rfl

theorem perform_alloc : terminals.perform s callT322 current [.cesAlloc, .ces request] =
    (terminals.alloc s).update s.fresh.id (ask callT322 request) := rfl

theorem perform_connect : terminals.perform s callT322 current [.cesAlloc, .preselect, .ces request] =
    ({ terminals.alloc s with preselected := some s.fresh.id } : Terminals).update s.fresh.id (ask callT322 request) := rfl

end Terminals

/-! ## What is kept -/

/-- T304 runs in I25 only; in N8 the preselected terminal is there, and in I8 while the call is
`settled`. Terminals are those of a call for the broadcast link, and it alone is aborted. If the
steps are `ordered`, the freed terminals had no timer running and no pointer has been astray. -/
structure Party.Kept (ordered settled : Prop) (p : Party) : Prop where
  timely : p.Each (·.watch.timely)
  chosen : p.call.state = .n8 → p.call.broadcastSetup →
    p.call.preselected ∧ ∃ id ∈ p.terminals.ids, p.terminals.preselected = some id
  waits : settled → p.call.state = .n8 → p.call.broadcastSetup →
    p.Each fun ces => p.terminals.preselected = some ces.id → ces.state = .i8
  alone : p.call.broadcastSetup = false → p.terminals.ces = []
  aborted : p.call.state = .n22 → p.call.broadcastSetup
  freed : ordered → ∀ gone ∈ p.terminals.freed, gone.Idle
  straight : ordered → p.terminals.astray = false

theorem lasts_timely (s : Setting) : Lasts s (·.watch.timely) where
  asked := by
    intro callT322 request ces timely
    rw [Terminals.ask, watch_perform]
    exact (request_watch callT322 request ces.state _ _ _).1 timely
  born := rfl

theorem ask_state {callT322 : Bool} {request : CesRequest} {ces : Ces} (other : request ≠ .release)
    (waits : ces.state = .i8) : (Terminals.ask callT322 request ces).state = .i8 := by
  have same := congrArg Watch.state (watch_perform ((CesBranch.request callT322 request).acts ces.state) ces)
  exact same.trans ((request_watch callT322 request ces.state _ _ _).2 waits other)

namespace Party
variable {p q : Party} {s : Setting} {current : Option Nat} {ces : List Ces} {e : Event} {touched : List Act} {ordered settled : Prop}

/-- What a terminal tells is in order when the call handles it. -/
structure Admits (ordered : Prop) (s : Setting) (current : Option Nat) (ces : List Ces) (e : Event) (p : Party) : Prop where
  connects : ∀ selected, choose p.call (env s ces) e = .intConnectIndication selected →
    p.call.broadcastSetup ∧ ∃ id ∈ p.terminals.ids, current = some id ∧ p.Each fun ces => ces.id = id → ces.state = .i8
  releases : ∀ able preselected t312, choose p.call (env s ces) e = .intReleaseIndication able preselected t312 →
    p.call.broadcastSetup
  frees : ∀ empty sent, choose p.call (env s ces) e = .intReleaseCompleteIndication empty sent → p.call.state.frees →
    ∀ id, current = some id →
      (ordered → p.Each fun ces => ces.id = id → ces.Idle) ∧ (p.call.state = .n8 → p.terminals.preselected ≠ some id)
  completes : choose p.call (env s ces) e = .setupCompleteRequest true → p.call.state = .n8 →
    ∃ id ∈ p.terminals.ids, p.terminals.selected = some id ∧ (ordered → p.Each fun ces => ces.id = id → ces.Idle)

theorem Handled.acts (handled : Handled s current ces e touched p q) {act : Act} (member : act ∈ touched) :
    act ∈ (choose p.call (env s ces) e).acts p.call.state := by
  rw [handled.reaches] at member
  exact reached_subset _ _ (List.mem_of_mem_filter member)

theorem Handled.broadcastSetup (handled : Handled s current ces e touched p q) (same : p.call.broadcastSetup) :
    q.call.broadcastSetup := by
  obtain ⟨sent, call⟩ := handled.call
  rw [call]
  dsimp only
  rw [perform_broadcastSetup, same, Bool.true_or]

theorem Handled.preselected (handled : Handled s current ces e touched p q)
    (before : p.call.preselected ∨ .preselect ∈ touched) : q.call.preselected := by
  obtain ⟨sent, call⟩ := handled.call
  rw [call]
  dsimp only
  rw [perform_preselected, Bool.or_eq_true]
  refine before.imp_right fun member => ?_
  rw [handled.reaches] at member
  exact List.contains_iff_mem.mpr (List.mem_of_mem_filter member)

theorem Handled.state (handled : Handled s current ces e touched p q) :
    q.call.state = lastState p.call.state (p.call.reaches (env s ces) e) := by
  obtain ⟨sent, call⟩ := handled.call
  rw [call]
  exact perform_state _ _

/-- A call comes to be for the broadcast link on its way to N6. -/
theorem Handled.was_broadcast (handled : Handled s current ces e touched p q) (other : q.call.state ≠ .n6)
    (now : q.call.broadcastSetup) : p.call.broadcastSetup := by
  obtain ⟨sent, call⟩ := handled.call
  rw [call] at now
  dsimp only at now
  rw [perform_broadcastSetup, Bool.or_eq_true] at now
  refine now.resolve_right fun set => other ?_
  rw [handled.state]
  exact setBroadcast_state _ _ _ (List.contains_iff_mem.mp set)

/-- A terminal is made for the broadcast link. -/
theorem Handled.alloc_broadcast (handled : Handled s current ces e touched p q) (kept : p.Kept ordered settled)
    (made : .cesAlloc ∈ touched) : p.call.broadcastSetup := by
  rcases Call.alloc_broadcast _ _ (handled.acts made) with looks | aborted
  · exact (choose_looks _ _ _ _ looks).symm
  · exact kept.aborted aborted

/-- A call that is aborted is for the broadcast link. -/
theorem Handled.aborted (handled : Handled s current ces e touched p q) (kept : p.Kept ordered settled)
    (admits : p.Admits ordered s current ces e) (aborted : q.call.state = .n22) : q.call.broadcastSetup := by
  refine handled.broadcastSetup ?_
  rw [handled.state] at aborted
  rcases abort_broadcast _ _ _ aborted with before | looks | ⟨able, preselected, t312, told⟩
  · exact kept.aborted before
  · exact (choose_looks _ _ _ _ looks).symm
  · exact admits.releases _ _ _ told

theorem choose_single {call : Process} {env : Env} {selected : Bool} (broadcast : call.broadcastSetup)
    (single : choose call env e = .handleConnect false selected) : False := by
  have looks := choose_looks call env e false (by rw [single]; rfl)
  rw [broadcast] at looks
  cases looks

/-- In N8 the preselected terminal is there. -/
theorem Handled.chosen (handled : Handled s current ces e touched p q) (kept : p.Kept ordered settled)
    (admits : p.Admits ordered s current ces e) (waits : q.call.state = .n8) (broadcast : q.call.broadcastSetup) :
    q.call.preselected ∧ ∃ id ∈ q.terminals.ids, q.terminals.preselected = some id := by
  have before := handled.was_broadcast (by rw [waits]; nofun) broadcast
  have stays (now : p.call.state = .n8) (same : q.terminals.preselected = p.terminals.preselected)
      (keeps : ∀ id ∈ p.terminals.ids, p.terminals.preselected = some id → id ∈ q.terminals.ids) :
      q.call.preselected ∧ ∃ id ∈ q.terminals.ids, q.terminals.preselected = some id := by
    obtain ⟨flag, id, member, pointer⟩ := kept.chosen now before
    exact ⟨handled.preselected (.inl flag), id, keeps id member pointer, same.trans pointer⟩
  have terminals := handled.terminals
  have touches := handled.touches
  rw [waits] at touches
  cases touches with
  | nothing chosen =>
    have now := (chosen rfl).resolve_right fun ⟨selected, single⟩ => choose_single before single
    refine stays now ?_ fun id member _ => ?_
    · rw [terminals]
      rfl
    · rw [terminals]
      exact member
  | preselect told =>
    obtain ⟨-, id, member, same, -⟩ := admits.connects _ told
    refine ⟨handled.preselected (.inr List.mem_cons_self), id, ?_, ?_⟩
    · rw [terminals]
      exact member
    · rw [terminals]
      exact same
  | free told after =>
    have now := after.elim Eq.symm fun held => nomatch held.2
    refine stays now ?_ fun id member pointer => ?_
    · rw [terminals]
      cases current <;> rfl
    · rw [terminals]
      cases current with
      | none => exact member
      | some gone =>
        have other := (admits.frees _ _ told (now ▸ rfl) gone rfl).2 now
        refine Terminals.ids_free ▸ List.mem_filter.mpr ⟨member, bne_iff_ne.mpr ?_⟩
        rintro rfl
        exact other pointer
  | refuse answers _ after =>
    rw [Terminals.perform_alloc] at terminals
    refine stays after.symm ?_ fun id member _ => ?_
    · rw [terminals]
      rfl
    · rw [terminals, Terminals.ids_ask]
      exact List.mem_cons_of_mem _ member
  | connect =>
    rw [Terminals.perform_connect] at terminals
    refine ⟨handled.preselected (.inr (.tail _ (.head _))), s.fresh.id, ?_, ?_⟩
    · rw [terminals, Terminals.ids_ask]
      exact List.mem_cons_self
    · rw [terminals]
      rfl
  | inform after | enquire after =>
    rw [Terminals.perform_all] at terminals
    refine stays after.symm ?_ fun id member _ => ?_
    · rw [terminals]
    · rw [terminals, Terminals.ids_askAll]
      exact member
  | enquireOne after =>
    rw [Terminals.perform_told] at terminals
    refine stays after.symm ?_ fun id member _ => ?_
    · rw [terminals]
      cases current <;> rfl
    · rw [terminals]
      cases current with
      | none => exact member
      | some told =>
        rw [Option.elim_some, Terminals.ids_ask]
        exact member
  | reject _ _ after => cases after
  | allow _ _ after => cases after
  | clear _ after => exact after.elim nofun nofun
  | complete _ _ after => cases after

/-- The preselected terminal is in I8 while the call is in N8. -/
theorem Handled.waits (handled : Handled s current ces e touched p q) (kept : p.Kept ordered settled)
    (fresh : s.fresh.id ∉ p.terminals.ids) (admits : p.Admits ordered s current ces e) (steady : settled)
    (waits : q.call.state = .n8) (broadcast : q.call.broadcastSetup) :
    q.Each fun ces => q.terminals.preselected = some ces.id → ces.state = .i8 := by
  have before := handled.was_broadcast (by rw [waits]; decide) broadcast
  have still (now : p.call.state = .n8) : p.Each fun ces => p.terminals.preselected = some ces.id → ces.state = .i8 :=
    kept.waits steady now before
  have terminals := handled.terminals
  have touches := handled.touches
  rw [waits] at touches
  rw [Each]
  cases touches with
  | nothing chosen =>
    have now : p.call.state = .n8 := by
      refine (chosen rfl).resolve_right ?_
      rintro ⟨selected, single⟩
      exact choose_single before single
    rw [terminals]
    exact still now
  | preselect told =>
    obtain ⟨-, id, -, same, connected⟩ := admits.connects _ told
    rw [terminals]
    intro ces member pointer
    exact connected ces member (Option.some.inj (pointer.symm.trans same))
  | free _ after =>
    have now := after.elim Eq.symm fun held => by cases held.2
    rw [terminals]
    cases current with
    | none => exact still now
    | some gone => exact fun ces member => still now ces (List.mem_of_mem_filter member)
  | refuse _ _ after =>
    rw [terminals, Terminals.perform_alloc]
    intro ces member pointer
    obtain ⟨-, id, here, same⟩ := kept.chosen after.symm before
    have this : ces.id = id := Option.some.inj (pointer.symm.trans same)
    obtain ⟨old, other⟩ | ⟨new, -, made, rfl⟩ := Terminals.mem_update.mp member
    · exact still after.symm ces ((List.mem_cons.mp old).resolve_left fun new => other (congrArg Ces.id new)) pointer
    · rw [Terminals.ask, Ces.perform_id, made] at this
      exact absurd (this ▸ here) fresh
  | connect =>
    rw [terminals, Terminals.perform_connect]
    intro ces member pointer
    have this : s.fresh.id = ces.id := Option.some.inj pointer
    obtain ⟨-, other⟩ | ⟨new, old, made, rfl⟩ := Terminals.mem_update.mp member
    · exact absurd this.symm other
    · obtain rfl | old := List.mem_cons.mp old
      · rfl
      · exact absurd (Terminals.mem_ids.mpr ⟨new, old, made⟩) fresh
  | inform after | enquire after =>
    rw [terminals, Terminals.perform_all]
    intro ces member pointer
    obtain ⟨old, here, rfl⟩ := List.mem_map.mp member
    rw [Terminals.ask, Ces.perform_id] at pointer
    exact ask_state (by decide) (still after.symm old here pointer)
  | enquireOne after =>
    rw [terminals, Terminals.perform_told]
    cases current with
    | none => exact still after.symm
    | some id =>
      intro ces member pointer
      obtain ⟨old, -⟩ | ⟨old, here, -, rfl⟩ := Terminals.mem_update.mp member
      · exact still after.symm ces old pointer
      · rw [Terminals.ask, Ces.perform_id] at pointer
        exact ask_state (by decide) (still after.symm old here pointer)
  | reject _ _ after => cases after
  | allow _ _ after => cases after
  | clear _ after => exact after.elim (fun same => by cases same) fun same => by cases same
  | complete _ _ after => cases after

/-- A call that is not for the broadcast link has no terminals. -/
theorem Handled.alone (handled : Handled s current ces e touched p q) (kept : p.Kept ordered settled)
    (off : q.call.broadcastSetup = false) : q.terminals.ces = [] := by
  have none : p.terminals.ces = [] := by
    refine kept.alone (Bool.eq_false_iff.mpr fun on => ?_)
    rw [handled.broadcastSetup on] at off
    cases off
  have made (alloc : .cesAlloc ∈ touched) : False := by
    have on := handled.broadcastSetup (handled.alloc_broadcast kept alloc)
    rw [off] at on
    cases on
  have terminals := handled.terminals
  cases handled.touches with
  | allow | refuse | connect => exact (made List.mem_cons_self).elim
  | nothing | preselect => rw [terminals]; exact none
  | reject | enquireOne =>
    rw [terminals, Terminals.perform_told]
    cases current with
    | none => exact none
    | some id => simp [Terminals.update, none]
  | free =>
    rw [terminals]
    cases current with
    | none => exact none
    | some id => simp [Terminals.perform, Terminals.act, Terminals.free, Terminals.others, none]
  | clear | inform | enquire => simp [terminals, Terminals.perform_all, none]
  | complete =>
    rw [terminals]
    cases selected : p.terminals.selected <;>
      simp [Terminals.perform, Terminals.act, Terminals.free, Terminals.others, Terminals.look, selected, none]

theorem free_frees : ∀ (state : State) (empty sent : Bool), .cesFree ∈ intReleaseCompleteIndication state empty sent → state.frees := by
  decide

/-- The terminals that are freed have no timer running, and the pointer to the selected one is
not astray. -/
theorem Handled.ends (handled : Handled s current ces e touched p q) (kept : p.Kept ordered settled)
    (admits : p.Admits ordered s current ces e) (steps : ordered) :
    (∀ gone ∈ q.terminals.freed, gone.Idle) ∧ q.terminals.astray = false := by
  have terminals := handled.terminals
  have same (freed : q.terminals.freed = p.terminals.freed) (astray : q.terminals.astray = p.terminals.astray) :
      (∀ gone ∈ q.terminals.freed, gone.Idle) ∧ q.terminals.astray = false := by
    rw [freed, astray]
    exact ⟨kept.freed steps, kept.straight steps⟩
  have ended {id : Nat} (idle : p.Each fun ces => ces.id = id → ces.Idle)
      (freed : q.terminals.freed = p.terminals.freed ++ p.terminals.ces.filter (·.id == id)) :
      ∀ gone ∈ q.terminals.freed, gone.Idle := by
    rw [freed]
    intro gone member
    obtain before | now := List.mem_append.mp member
    · exact kept.freed steps gone before
    · obtain ⟨here, this⟩ := List.mem_filter.mp now
      exact idle gone here (beq_iff_eq.mp this)
  cases handled.touches with
  | nothing | preselect => exact same (by rw [terminals]; rfl) (by rw [terminals]; rfl)
  | allow | refuse => exact same (by rw [terminals]; rfl) (by rw [terminals]; rfl)
  | connect => exact same (by rw [terminals]; rfl) (by rw [terminals]; rfl)
  | clear | inform | enquire => exact same (by rw [terminals]; rfl) (by rw [terminals]; rfl)
  | reject | enquireOne =>
    cases current <;> exact same (by rw [terminals]; rfl) (by rw [terminals]; rfl)
  | free told =>
    cases current with
    | none => exact same (by rw [terminals]; rfl) (by rw [terminals]; rfl)
    | some id =>
      have frees : p.call.state.frees := by
        have reaches := handled.acts List.mem_cons_self
        rw [told] at reaches
        exact free_frees _ _ _ reaches
      refine ⟨ended ((admits.frees _ _ told frees id rfl).1 steps) (by rw [terminals]; rfl), ?_⟩
      rw [terminals]
      exact kept.straight steps
  | complete told before =>
    obtain ⟨id, member, selected, idle⟩ := admits.completes told before
    have all : q.terminals = { (p.terminals.look (some id)).free id with
        ces := ((p.terminals.look (some id)).free id).ces.map (Terminals.ask (p.call.pending .t322) .release) } := by
      rw [terminals]
      simp only [Terminals.perform, Terminals.act, selected, Option.elim_some]
    obtain ⟨terminal, found⟩ := find_of_mem member
    refine ⟨ended (idle steps) (by rw [all]; rfl), ?_⟩
    rw [all]
    simp [Terminals.look, Terminals.free, found, kept.straight steps]

/-- What the call does to its terminals keeps them. -/
theorem Kept.handle (kept : p.Kept ordered settled) (fresh : s.fresh.id ∉ p.terminals.ids) (admits : p.Admits ordered s current ces e)
    (done : p.handle s current ces e = some q) : q.Kept ordered settled := by
  obtain ⟨touched, handled⟩ := handle_some done
  exact {
    timely := kept.timely.handle (lasts_timely s) done
    chosen := handled.chosen kept admits
    waits := handled.waits kept fresh admits
    alone := handled.alone kept
    aborted := handled.aborted kept admits
    freed := fun steps => (handled.ends kept admits steps).1
    straight := fun steps => (handled.ends kept admits steps).2 }

end Party

end Vstuff.Q931.Call
