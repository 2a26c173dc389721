import Vstuff.Q931.Exclusive

/-! Which events end the program at an assertion on a channel. A handler decides from
the state of the call alone; the invariant says in which states a living call has a
channel for certain, and the events that find it missing elsewhere are listed. -/
namespace Vstuff.Q931.Call
open Transition
set_option linter.all false

/-! ## States with a channel -/

/-- The states in which a call always has a channel. -/
def State.channelled : State → Bool
  | .u2 | .u3 | .u4 | .u6 | .u7 | .u8 | .u9 | .u10 | .u12 | .u15 | .u25 => true
  | .n1 | .n2 | .n3 | .n4 | .n7 | .n8 | .n9 | .n25 => true
  | _ => false

/-- The state allows that the call has a channel, or has none. -/
def State.allows (state : State) (attached : Bool) : Bool :=
  (!state.channelless || !attached) && (!state.channelled || attached)

/-- The branches that end the program: a tone for a call without a channel or one to be
stopped, a call resumed without a channel, and a PROGRESS without a progress
indicator. -/
def crashes (state : State) (handled attached : Bool) : Branch → Bool
  | .disconnectRequest broadcastSetup tonesOption _ =>
    tonesOption && !attached && (state == .n6 && !broadcastSetup || state == .n10 || state == .n15)
  | .timerT306 | .handleDisconnect _ => state == .n12 && !attached
  | .handleRelease _ | .handleReleaseComplete _ => state == .n12 && handled && !attached
  | .handleResumeAcknowledge => state == .u17 && handled
  | .handleProgress _ .absent => state == .u2 && handled
  | _ => false

/-- A STATUS without call state. -/
def Branch.isAbsentStatus : Branch → Bool
  | handleStatus .absent _ _ => true
  | _ => false

open Channels in
/-- `branch_safe`, as it is computed. -/
def keepsSafe (state : State) (handled attached : Bool) (branch : Branch) : Bool :=
  let acts := reached handled (branch.acts state)
  safe branch.got attached acts &&
      ((lastState state acts).allows (attachedAfter branch.got attached acts) ||
        acts.contains .releaseReference && (lastState state acts).isNull) ||
    !(state.allows attached && branch.agrees attached && (!branch.ofUnknown || state.isNull) &&
      !wouldSwapSide state branch && !crashes state handled attached branch && (!branch.isAbsentStatus || !handled))

theorem keepsSafe_all : ∀ (branch : Branch) (state : State),
    ∀ handled attached, keepsSafe state handled attached branch := by
  intro branch state
  revert branch
  cases state
  all_goals decide +kernel

open Channels in
/-- The other branches find the channels they ask for, and leave the call as its state
allows or end it. -/
theorem branch_safe : ∀ (branch : Branch) (state : State) (handled attached : Bool),
    state.allows attached → branch.agrees attached → (branch.ofUnknown → state.isNull) →
      wouldSwapSide state branch = false → crashes state handled attached branch = false →
      (branch.isAbsentStatus → handled = false) →
      safe branch.got attached (reached handled (branch.acts state)) ∧
      ((lastState state (reached handled (branch.acts state))).allows
          (attachedAfter branch.got attached (reached handled (branch.acts state))) ∨
        Act.releaseReference ∈ reached handled (branch.acts state) ∧
          (lastState state (reached handled (branch.acts state))).isNull) := by
  intro branch state handled attached allows agrees known swaps crash absent
  have checked := keepsSafe_all branch state handled attached
  have absent' : (!branch.isAbsentStatus || !handled) = true := by
    cases status : branch.isAbsentStatus with
    | false => rfl
    | true => rw [absent status]; rfl
  simpa only [keepsSafe, allows, agrees, known_or known, swaps, crash, absent', Bool.not_false, Bool.and_self, Bool.not_true,
    Bool.or_false, Bool.and_eq_true, Bool.or_eq_true, List.contains_iff_mem] using checked

/-! ## Calls that have ended -/

/-- The reference of the call is released, and it has not been begun again. -/
def Process.dead (call : Process) : Prop := call.listed = false ∧ call.state.isNull

/-- The requests that can begin a call again. -/
def Branch.begins : Branch → Bool
  | setupRequest _ _ _ | resumeRequest => true
  | _ => false

open Channels in
/-- Nothing else is done about a call that has ended. -/
theorem dead_stays : ∀ (branch : Branch) (state : State) (handled : Bool),
    state.isNull → branch.ofListed = false → branch.ofUnknown = false → branch.begins = false →
      lastState state (reached handled (branch.acts state)) = state ∧
      ∀ act ∈ reached handled (branch.acts state), touches act = false ∧ needs act = false ∧ act ≠ .absentIe := by
  intro branch state
  revert branch
  cases state
  all_goals decide +kernel

/-- The states in which T319 may run while the call is on `intf->calls`. -/
def State.suspendable (state : State) : Bool := state.isUser || state == .n19

/-- The channels of living calls are theirs, and are there when the state says so. -/
structure Placed (intf : Interface) : Prop where
  linked : intf.lines.Linked fun id => ¬ (intf.calls id).dead
  allowed : ∀ id, ¬ (intf.calls id).dead → (intf.calls id).state.allows (intf.lines.channelOf id).isSome
  unmade : ∀ id, intf.made ≤ id → intf.lines.channelOf id = none
  unheard : ∀ id, (intf.calls id).listed = false → (intf.calls id).fresh = false ∧ (intf.calls id).state.unheard
  fresh : ∀ id, (intf.calls id).fresh → (intf.calls id).state.isNull
  t319 : ∀ id, (intf.calls id).listed → (intf.calls id).pending .t319 → (intf.calls id).state.suspendable

/-- A call that is not on `intf->calls` is in a state no message leads to. -/
theorem unheard_kept : ∀ (branch : Branch) (state : State) (handled : Bool),
    state.unheard → branch.ofListed = false → branch.ofUnknown = false →
      (lastState state (reached handled (branch.acts state))).unheard := by
  intro branch state
  revert branch
  cases state
  all_goals decide +kernel

theorem suspendable_kept : ∀ (branch : Branch) (state : State) (handled : Bool),
    (state.suspendable → Act.releaseReference ∉ reached handled (branch.acts state) →
      (lastState state (reached handled (branch.acts state))).suspendable) ∧
    ((∃ act ∈ reached handled (branch.acts state), act.starts = some .t319) →
      (lastState state (reached handled (branch.acts state))).suspendable) := by
  have checked : ∀ (branch : Branch) (state : State) (handled : Bool),
      ((lastState state (reached handled (branch.acts state))).suspendable ||
        (!state.suspendable || (reached handled (branch.acts state)).contains .releaseReference) &&
          !(reached handled (branch.acts state)).any (·.starts == some .t319)) = true := by
    intro branch state
    revert branch
    cases state
    all_goals decide +kernel
  intro branch state handled
  have kept := checked branch state handled
  refine ⟨fun before stays => ?_, fun starts => ?_⟩
  · rw [before, Bool.eq_false_iff.mpr fun releases => stays (List.contains_iff_mem.mp releases)] at kept
    simpa only [Bool.not_true, Bool.or_false, Bool.false_and] using kept
  · obtain ⟨act, member, started⟩ := starts
    have any : (reached handled (branch.acts state)).any (·.starts == some .t319) = true :=
      List.any_eq_true.mpr ⟨act, member, beq_iff_eq.mpr started⟩
    simpa only [any, Bool.not_true, Bool.and_false, Bool.or_false] using kept

/-! ## Messages that arrive -/

/-- The elements of the message are what `q931_decode_ies` makes of some octets. -/
def Received.Arrives (libc : Libc) (line : Intf) (role : Lapd.IntfRole) (msg : Received) : Prop :=
  ∃ rawiesLen m, (decodeIes (codecs libc line) msg.type role rawiesLen).value m = some msg.ds ∧
    msg.ds.aborted = false

/-- The message of an event arrives. -/
def Event.Arrives (libc : Libc) (line : Intf) (role : Lapd.IntfRole) : Event → Prop
  | message msg | unknown _ msg => msg.Arrives libc line role
  | _ => True

theorem dispatched_absentStatus {call : Process} {env : Env} {msg : Received}
    (absent : (dispatchMessage call env msg).isAbsentStatus) :
    msg.type = MessageType.status.code ∧ reportedBy call.state msg.ies = .absent := by
  by_cases type : msg.type = MessageType.status.code
  · refine ⟨type, ?_⟩
    rw [dispatchMessage, type] at absent
    cases reported : reportedBy call.state msg.ies with
    | absent => rfl
    | _ =>
      have other : (Branch.handleStatus (reportedBy call.state msg.ies) (answerIn msg.ies)
        (call.pending .t322)).isAbsentStatus = true := absent
      rw [reported] at other
      cases other
  · exfalso
    revert absent
    unfold dispatchMessage
    repeat'
      refine iteInduction (motive := fun branch => Branch.isAbsentStatus branch = true → False)
        (fun is => ?_) (fun _ => ?_)
    all_goals first | exact absurd is type | exact fun is => by cases is

/-- A STATUS that is handled has a call state. -/
theorem arrived_status {libc : Libc} {line : Intf} {role : Lapd.IntfRole} {msg : Received} {state : State}
    (arrives : msg.Arrives libc line role) (type : msg.type = MessageType.status.code)
    (handled : msg.judgement.handled) : reportedBy state msg.ies ≠ .absent := by
  obtain ⟨rawiesLen, m, decoded, running⟩ := arrives
  have result : callDecodeIes (codecs libc line) role msg.location MessageType.status.code rawiesLen m =
      some (msg.ds, msg.judgement) := by
    rw [← type, callDecodeIes, decoded, Option.bind_some, running]
    rfl
  obtain ⟨d, member, ie, content⟩ := status_has_callState result handled
  intro absent
  unfold reportedBy at absent
  split at absent
  · next nothing =>
    have ignored := List.filterMap_eq_nil_iff.mp (List.getLast?_eq_none_iff.mp nothing) d.ie.content
      (List.mem_map.mpr ⟨d, member, rfl⟩)
    rw [content] at ignored
    cases ignored
  · split_ifs at absent

theorem takes_absentStatus {libc : Libc} {line : Intf} {role : Lapd.IntfRole} {call : Process} {e : Env × Event}
    (arrives : e.2.Arrives libc line role) (absent : (call.takes e).isAbsentStatus) :
    e.2.judgement.handled = false := by
  obtain ⟨env, e⟩ := e
  have refused : ∀ msg : Received, msg.Arrives libc line role →
      (dispatchMessage (call.ready e) env msg).isAbsentStatus → msg.judgement.handled = false := by
    intro msg arrives absent
    obtain ⟨type, none⟩ := dispatched_absentStatus absent
    exact Bool.eq_false_iff.mpr fun handled => arrived_status arrives type handled none
  cases e with
  | message msg => exact refused msg arrives absent
  | unknown toOriginating msg =>
    simp only [Process.takes, choose, receiveUnknown] at absent
    split_ifs at absent
    · cases absent
    · cases absent
    · cases absent
    · exact refused msg arrives absent
    · exact refused msg arrives absent
    · cases absent
  | timer timer => cases timer <;> cases absent
  | _ => cases absent

/-! ## What holds of the channels of living calls -/

/-- An event that does no harm: it does not crash by itself, it gives the call no
channel of a living call, and it does not begin a released call that still has
one. -/
def Harmless (intf : Interface) : InterfaceEvent → Prop
  | .make _ _ => True
  | .call h =>
    crashes (intf.calls h.id).state h.event.judgement.handled (intf.lines.channelOf h.id).isSome
      ((intf.calls h.id).takes (intf.seen h)) = false ∧
    (∀ act ∈ intf.does h, ∀ c, intf.lines.chosen h.id h.ci act = some c →
      ∀ other, (intf.lines.channel c).call = some other → (intf.calls other).dead) ∧
    ((intf.calls h.id).dead → ((intf.calls h.id).takes (intf.seen h)).begins → intf.lines.channelOf h.id = none)

theorem isNull_allows : ∀ state : State, state.isNull →
    state.allows false ∧ state.unheard ∧ ∀ attached, state.allows attached → attached = false := by
  decide

theorem alloc_null (role : Lapd.IntfRole) (broadcastSetup tonesOption : Bool) :
    (alloc role broadcastSetup tonesOption).state.isNull := by
  simp only [alloc]
  split_ifs <;> rfl

theorem init_placed (config : Config) : Placed (.init config) where
  linked := Channels.init_linked _ _
  allowed := fun _ _ => (isNull_allows _ (alloc_null ..)).1
  unmade := fun _ _ => rfl
  unheard := nofun
  fresh := fun _ _ => alloc_null ..
  t319 := nofun

theorem make_placed {intf : Interface} (placed : Placed intf) (broadcastSetup tonesOption : Bool) :
    Placed { intf with
      made := intf.made + 1
      calls := Function.update intf.calls intf.made (alloc intf.config.role broadcastSetup tonesOption) } := by
  have unused := placed.unmade intf.made (Nat.le_refl _)
  have of : ∀ {p : Nat → Process → Prop}, p intf.made (alloc intf.config.role broadcastSetup tonesOption) →
      (∀ id, p id (intf.calls id)) → ∀ id, p id
        (Function.update intf.calls intf.made (alloc intf.config.role broadcastSetup tonesOption) id) := by
    intro p new old id
    by_cases same : id = intf.made
    · subst same
      rw [Function.update_self]
      exact new
    · rw [Function.update_of_ne same]
      exact old id
  refine ⟨⟨placed.linked.owner, ?_⟩, ?_, fun id unmade => placed.unmade id (Nat.le_of_succ_le unmade), ?_, ?_, ?_⟩
  · intro c id
    refine of (p := fun id call => ¬ call.dead → intf.lines.channelOf id = some c →
      (intf.lines.channel c).call = some id) ?_ ?_ id
    · intro _ has
      rw [unused] at has
      cases has
    · exact fun id alive has => placed.linked.held alive has
  · refine of (p := fun id call => ¬ call.dead → call.state.allows (intf.lines.channelOf id).isSome) ?_ placed.allowed
    intro _
    rw [unused]
    exact (isNull_allows _ (alloc_null ..)).1
  · exact of (p := fun _ call => call.listed = false → call.fresh = false ∧ call.state.unheard) nofun placed.unheard
  · exact of (p := fun _ call => call.fresh → call.state.isNull) (fun _ => alloc_null ..) placed.fresh
  · exact of (p := fun _ call => call.listed → call.pending .t319 → call.state.suspendable) nofun placed.t319

section Step
variable {intf next : Interface} {h : Happening}

theorem placed_not_wouldSwapSide (placed : Placed intf) (meets : intf.Meets h) :
    wouldSwapSide (intf.calls h.id).state ((intf.calls h.id).takes (intf.seen h)) = false := by
  unfold wouldSwapSide
  split
  · next expired =>
    have event : h.event = .timer .t319 :=
      takes_expired_event (e := intf.seen h) (by rw [expired]; rfl)
    have pending : (intf.calls h.id).pending .t319 := by
      have enabled := meets.2
      rw [event] at enabled
      exact enabled
    have elsewhere : ∀ state : State, state.suspendable ∨ state.unheard → (state == .n15) = false := by decide
    refine elsewhere _ ?_
    cases listed : (intf.calls h.id).listed with
    | true => exact .inl (placed.t319 h.id listed pending)
    | false => exact .inr (placed.unheard h.id listed).2
  · next unknown =>
    have null : ∀ state : State, state.isNull → (!state.isUser && state != .n0) = false := by decide
    exact null _ (placed.fresh h.id (takes_ofUnknown meets.2 (by rw [unknown]; rfl)))
  · rfl

/-- A call that is released stays so. -/
theorem step_listed (took : (intf.calls h.id).step (intf.seen h) = some (next.calls h.id)) :
    (next.calls h.id).listed ↔ (intf.calls h.id).listed ∧ .releaseReference ∉ intf.does h := by
  rw [Process.listed, Process.listed, step_released took, beq_iff_eq, beq_iff_eq, Nat.add_eq_zero_iff,
    List.count_eq_zero]
  rfl

/-- What does not depend on the channels. -/
theorem step_states (placed : Placed intf) (meets : intf.Meets h)
    (took : (intf.calls h.id).step (intf.seen h) = some (next.calls h.id)) :
    ((next.calls h.id).listed = false → (next.calls h.id).state.unheard) ∧
    ((next.calls h.id).listed → (next.calls h.id).pending .t319 → (next.calls h.id).state.suspendable) := by
  refine ⟨fun gone => ?_, fun stays pending => ?_⟩
  · rw [step_state took]
    cases listed : (intf.calls h.id).listed with
    | false =>
      obtain ⟨stale, unheard⟩ := placed.unheard h.id listed
      obtain ⟨notListed, notUnknown⟩ := takes_ofListed (e := intf.seen h) meets.2 listed stale
      exact unheard_kept _ _ _ unheard notListed notUnknown
    | true =>
      have releases : .releaseReference ∈ intf.does h := by
        by_contra kept
        exact absurd ((step_listed took).mpr ⟨listed, kept⟩) (by rw [gone]; nofun)
      have known : ((intf.calls h.id).takes (intf.seen h)).ofUnknown → (intf.calls h.id).state.isNull :=
        fun unknown => placed.fresh h.id (takes_ofUnknown meets.2 unknown)
      exact (isNull_allows _ (release_reference_once _ _ _ known releases).2.1).2.1
  · obtain ⟨listed, kept⟩ := (step_listed took).mp stays
    obtain ⟨stay, start⟩ := suspendable_kept ((intf.calls h.id).takes (intf.seen h)) (intf.calls h.id).state
      h.event.judgement.handled
    rw [step_state took]
    rcases step_pending took pending with started | ⟨before, -, -⟩
    · exact start (starts_mem started)
    · exact stay (placed.t319 h.id listed (ready_pending before)) kept

/-- The rest of the interface stays as it was. -/
theorem placed_of_own (placed : Placed intf) (meets : intf.Meets h)
    (took : (intf.calls h.id).step (intf.seen h) = some (next.calls h.id)) (made : next.made = intf.made)
    (same : ∀ id, id ≠ h.id → next.calls id = intf.calls id)
    (linked : next.lines.Linked fun id => ¬ (next.calls id).dead)
    (others : ∀ id, id ≠ h.id → next.lines.channelOf id = intf.lines.channelOf id)
    (allowed : ¬ (next.calls h.id).dead → (next.calls h.id).state.allows (next.lines.channelOf h.id).isSome) :
    Placed next := by
  obtain ⟨unheard, t319⟩ := step_states placed meets took
  refine ⟨linked, fun id alive => ?_, fun id unmade => ?_, fun id gone => ?_, fun id fresh => ?_,
    fun id listed pending => ?_⟩
  · by_cases own : id = h.id
    · subst own
      exact allowed alive
    · rw [same id own] at alive ⊢
      rw [others id own]
      exact placed.allowed id alive
  · rw [made] at unmade
    have other : id ≠ h.id := by
      rintro rfl
      exact absurd meets.1 (Nat.not_lt.mpr unmade)
    rw [others id other]
    exact placed.unmade id unmade
  · by_cases own : id = h.id
    · subst own
      exact ⟨step_fresh took, unheard gone⟩
    · rw [same id own] at gone ⊢
      exact placed.unheard id gone
  · by_cases own : id = h.id
    · subst own
      rw [step_fresh took] at fresh
      cases fresh
    · rw [same id own] at fresh ⊢
      exact placed.fresh id fresh
  · by_cases own : id = h.id
    · subst own
      exact t319 listed pending
    · rw [same id own] at listed pending ⊢
      exact placed.t319 id listed pending

variable {libc : Libc} {line : Intf}

/-- A call that is living, or has no channel, finds the channels it asks for. -/
theorem living_call_safe (placed : Placed intf) (harmless : Harmless intf (.call h))
    (arrives : h.event.Arrives libc line intf.config.role) (meets : intf.Meets h)
    (living : ¬ (intf.calls h.id).dead ∨ intf.lines.channelOf h.id = none) :
    intf.lines.perform h.id h.ci (intf.does h) ≠ .error .aborts ∧
      ∀ next, intf.outcome (.call h) = .goes next → Placed next := by
  obtain ⟨sound, free, -⟩ := harmless
  have known : ((intf.calls h.id).takes (intf.seen h)).ofUnknown → (intf.calls h.id).state.isNull :=
    fun unknown => placed.fresh h.id (takes_ofUnknown meets.2 unknown)
  have allowed : (intf.calls h.id).state.allows (intf.lines.channelOf h.id).isSome := by
    by_cases dead : (intf.calls h.id).dead
    · rw [living.resolve_left (not_not_intro dead)]
      exact (isNull_allows _ dead.2).1
    · exact placed.allowed h.id dead
  have without : (intf.calls h.id).state.isNull → intf.lines.channelOf h.id = none := by
    intro null
    simpa using (isNull_allows _ null).2.2 _ allowed
  obtain ⟨safe, left⟩ := branch_safe _ _ _ _ allowed takes_agrees known (placed_not_wouldSwapSide placed meets) sound
    (takes_absentStatus (e := intf.seen h) arrives)
  have order := does_ordered intf h
  -- the call itself counts as living while it acts
  have linked : intf.lines.Linked fun id => ¬ (intf.calls id).dead ∨ id = h.id := by
    refine ⟨placed.linked.owner, fun {c id} alive has => ?_⟩
    by_cases dead : (intf.calls id).dead
    · obtain rfl := alive.resolve_left (not_not_intro dead)
      rw [living.resolve_left (not_not_intro dead)] at has
      cases has
    · exact placed.linked.held dead has
  obtain ⟨-, acquires, -, taken⟩ := branch_selects ((intf.calls h.id).takes (intf.seen h)) (intf.calls h.id).state
  have ready : Channels.Ready (fun id => ¬ (intf.calls id).dead ∨ id = h.id) intf.lines h.id h.ci
      ((intf.calls h.id).takes (intf.seen h)).got (intf.does h) := by
    refine does_ready (fun act member c chosen other call => ?_) fun null => .inl (without null)
    have there := reached_subset _ _ member
    have others : intf.lines.channelOf h.id ≠ some c := by
      refine Channels.chosen_ne (fun seeks => without ?_) chosen
      rcases seeks with rfl | takes
      · exact (acquires there).2
      · exact taken (List.any_eq_true.mpr ⟨act, there, takes⟩)
    rintro (alive | rfl)
    · exact alive (free act member c chosen other call)
    · exact others (placed.linked.owner call)
  refine ⟨Channels.perform_safe order linked (.inr rfl) ready safe, fun next goes => ?_⟩
  obtain ⟨-, took, done, -, made, same⟩ := Interface.outcome_goes goes
  have moved := Channels.perform_moves order linked (.inr rfl) ready done
  refine placed_of_own placed meets took made same ⟨moved.linked.owner, fun {c id} alive has => ?_⟩ moved.others
    fun alive => ?_
  · refine moved.linked.held ?_ has
    by_cases own : id = h.id
    · exact .inr own
    · rw [same id own] at alive
      exact .inl alive
  · rw [moved.attached, step_state took]
    rcases left with allows | ⟨releases, null⟩
    · exact allows
    · refine absurd ⟨Bool.eq_false_iff.mpr fun listed => ((step_listed took).mp listed).2 releases, ?_⟩ alive
      rw [step_state took]
      exact null

/-- Nothing is done about a released call that still has a channel. -/
theorem dead_call_safe (placed : Placed intf) (harmless : Harmless intf (.call h)) (meets : intf.Meets h)
    (dead : (intf.calls h.id).dead) (holds : intf.lines.channelOf h.id ≠ none) :
    intf.lines.perform h.id h.ci (intf.does h) ≠ .error .aborts ∧
      ∀ next, intf.outcome (.call h) = .goes next → Placed next := by
  obtain ⟨notListed, notUnknown⟩ :=
    takes_ofListed (e := intf.seen h) meets.2 dead.1 (placed.unheard h.id dead.1).1
  have still : ((intf.calls h.id).takes (intf.seen h)).begins = false :=
    Bool.eq_false_iff.mpr fun begins => holds (harmless.2.2 dead begins)
  obtain ⟨same, plain⟩ := dead_stays _ _ h.event.judgement.handled dead.2 notListed notUnknown still
  have idle : intf.lines.perform h.id h.ci (intf.does h) = .ok intf.lines := Channels.perform_untouched plain
  refine ⟨by rw [idle]; nofun, fun next goes => ?_⟩
  obtain ⟨-, took, done, -, made, others⟩ := Interface.outcome_goes goes
  have stays : (next.calls h.id).dead := by
    refine ⟨Bool.eq_false_iff.mpr fun listed => ?_, ?_⟩
    · exact absurd (((step_listed took).mp listed).1.symm.trans dead.1) nofun
    · rw [step_state took]
      exact same.symm ▸ dead.2
  have lines : next.lines = intf.lines := by
    rw [idle] at done
    exact (Except.ok.inj done).symm
  refine placed_of_own placed meets took made others ⟨?_, fun {c id} alive has => ?_⟩ (fun _ _ => by rw [lines])
    fun alive => absurd stays alive
  · rw [lines]
    exact placed.linked.owner
  · rw [lines] at has ⊢
    refine placed.linked.held ?_ has
    by_cases own : id = h.id
    · subst own
      exact absurd stays alive
    · rw [others id own] at alive
      exact alive

theorem call_safe (placed : Placed intf) (harmless : Harmless intf (.call h))
    (arrives : h.event.Arrives libc line intf.config.role) (meets : intf.Meets h) :
    intf.lines.perform h.id h.ci (intf.does h) ≠ .error .aborts ∧
      ∀ next, intf.outcome (.call h) = .goes next → Placed next := by
  by_cases living : ¬ (intf.calls h.id).dead ∨ intf.lines.channelOf h.id = none
  · exact living_call_safe placed harmless arrives meets living
  · obtain ⟨dead, holds⟩ := not_or.mp living
    exact dead_call_safe placed harmless meets (not_not.mp dead) holds

end Step

/-! ## Runs -/

/-- An event that does no harm, with a message that arrives. -/
def HarmlessArrival (libc : Libc) (line : Intf) (intf : Interface) (e : InterfaceEvent) : Prop :=
  Harmless intf e ∧
  match e with
  | .make _ _ => True
  | .call h => h.event.Arrives libc line intf.config.role

section Runs
variable {libc : Libc} {line : Intf} {intf : Interface}

theorem step_placed {next : Interface} {e : InterfaceEvent} (placed : Placed intf)
    (clean : HarmlessArrival libc line intf e) (took : intf.step e = some next) : Placed next := by
  unfold Interface.step at took
  split at took
  · next goes =>
    cases took
    cases e with
    | make broadcastSetup tonesOption =>
      cases goes
      exact make_placed placed broadcastSetup tonesOption
    | call h => exact (call_safe placed clean.1 clean.2 (Interface.outcome_goes goes).1).2 _ goes
  · cases took

/-- In a run of harmless events no further harmless event ends the program at an
assertion on a channel or at an element that is not there. -/
theorem harmless_event_does_not_abort {config : Config} {es : List InterfaceEvent}
    (run : Run Interface.step (HarmlessArrival libc line) (.init config) es intf) (e : InterfaceEvent)
    (clean : HarmlessArrival libc line intf e) : intf.outcome e ≠ .faults .aborts := by
  have placed : Placed intf := run.invariant Placed step_placed (init_placed config)
  intro aborts
  cases e with
  | make => cases aborts
  | call h =>
    obtain ⟨meets, failed⟩ := Interface.outcome_faults aborts
    exact (call_safe placed clean.1 clean.2 meets).1 failed

end Runs

theorem refused_call_does_not_abort :
    ∃ intf, Run Interface.step (HarmlessArrival ⟨fun _ => 0, fun _ => {}⟩ ⟨.bra, .nt, 2⟩)
        (.init (.basicAccess .nt)) [.make false false, .call { id := 0, event := .setupRequest }] intf ∧
      intf.lines.channelOf 0 = some 0 ∧
      intf.outcome (.call { id := 0, event := .message (arriving .nt .releaseComplete [0x08, 0x02, 0x80, 0x95]) }) ≠
        .faults .aborts := by
  have run : Run Interface.step (HarmlessArrival ⟨fun _ => 0, fun _ => {}⟩ ⟨.bra, .nt, 2⟩)
      (.init (.basicAccess .nt)) [.make false false, .call { id := 0, event := .setupRequest }] _ :=
    -- no channel has a call yet
    .cons ⟨trivial, trivial⟩ rfl (.cons ⟨⟨rfl, fun _ _ _ _ other call => absurd call.symm (Option.some_ne_none other),
      fun dead => absurd dead.1 (by decide)⟩, trivial⟩ rfl (.nil _))
  refine ⟨_, run, rfl, harmless_event_does_not_abort run _ ⟨⟨rfl, ?_, ?_⟩, ?_⟩⟩
  · -- and none is looked for any more
    intro act member c chosen
    have quiet : ∀ act ∈ [Act.setReleaseCompleteReceived, .decode, .stop .t303, .release, .releaseReference,
        .setState .n0, .primitive .rejectIndication], Channels.selects act = false := by decide
    have plain := quiet act member
    cases act with
    | acquire | selectResponse | take => cases plain
    | _ => cases chosen
  · intro dead
    exact absurd dead.1 (by decide)
  · exact ⟨4, memory [0x08, 0x02, 0x80, 0x95] fun _ => 0, rfl, rfl⟩

/-- T310 expires and the channel is released; the DISCONNECT that crosses the one
sent then ends the program. So does the acknowledgement of a RESUME. -/
theorem disconnect_after_t310_aborts :
    (∃ intf, follow Interface.step Any (.init (.basicAccess .nt))
        [.make false false, .call { id := 0, event := .setupRequest },
          .call { id := 0, event := .message (arriving .nt .callProceeding []) },
          .call { id := 0, event := .timer .t310 }] = some intf ∧
      (intf.calls 0).state = .n12 ∧
      intf.outcome (.call { id := 0, event := .message (arriving .nt .disconnect [0x08, 0x02, 0x80, 0x90]) }) =
        .faults .aborts) ∧
    ∃ intf, follow Interface.step Any (.init (.basicAccess .te))
        [.make false false, .call { id := 0, event := .resumeRequest }] = some intf ∧
      intf.outcome (.call { id := 0, event := .message (arriving .te .resumeAcknowledge [0x18, 0x01, 0x89]) }) =
        .faults .aborts :=
  ⟨⟨_, rfl, rfl, rfl⟩, ⟨_, rfl, rfl⟩⟩

end Vstuff.Q931.Call
