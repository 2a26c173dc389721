import Vstuff.Q931.Supervision
import Vstuff.Q931.Terminals

/-! How often a message is repeated for want of an answer: T303 repeats the SETUP of a
call, T308 its RELEASE and that of a terminal. Each has a flag for it, which is set at
the first expiry. -/
namespace Vstuff.Q931.Call
open Transition
open Lapd (IntfRole)
set_option linter.all false

/-! ## What a call repeats -/

/-- The first expiry of T303. -/
def Branch.repeatsSetup : Branch → Bool
  | timerT303 _ t303Fired _ => !t303Fired
  | _ => false

/-- The first expiry of T308. -/
def Branch.repeatsRelease : Branch → Bool
  | timerT308 t308Fired _ _ => !t308Fired
  | _ => false

/-- A status enquiry has not been answered for the last time. -/
def Branch.givesUp : Branch → Bool
  | timerT322 received given => !received && given
  | _ => false

/-- SETUP is sent when a call begins, and again by T303. -/
def setupsOnce (branch : Branch) (state last : State) (acts : List Act) : Bool :=
  (sends acts).count .setup == 0 ||
    (sends acts).count .setup == 1 && !last.isNull && (begins state branch && state.isNull || branch.repeatsSetup)

theorem acts_setup : ∀ (branch : Branch) (state : State),
    setupsOnce branch state (lastState state (branch.acts state)) (branch.acts state) := by
  intro branch state
  revert branch
  cases state
  all_goals decide +kernel

/-- A call with the SETUPs it has sent, and the RELEASEs since it is in a release
state. -/
structure Counted where
  call : Process
  setups : Nat := 0
  repeats : Nat := 0

def Counted.step (c : Counted) (e : Env × Event) : Option Counted :=
  (c.call.step e).map fun next =>
    { call := next
      setups := c.setups + next.sent.count .setup
      repeats := if c.call.state.isRelease && next.state.isRelease then c.repeats + next.sent.count .release else 0 }

/-- T308 runs in the release states after the acts. -/
def t308Waits (branch : Branch) (state last : State) (acts : List Act) : Bool :=
  !last.isRelease || runs .t308 (state.isRelease && branch.expired != some .t308) acts

/-- A call in a release state stays and repeats its RELEASE if T308 has expired for the
first time, or it goes without another one. -/
def releasesOnce (branch : Branch) (state last : State) (acts : List Act) : Bool :=
  !acts.contains .releaseReference && last == state && (sends acts).count .release == branch.repeatsRelease.toNat &&
      (branch.expired != some .t308 || branch.repeatsRelease) ||
    acts.contains .releaseReference && last.isNull && !(sends acts).contains .release && !branch.repeatsRelease

/-- What may keep it from that: T322 has expired for the last time, or T308 in N19. -/
def releasesOtherwise (branch : Branch) (state : State) : Bool :=
  branch.givesUp || branch.expired == some .t308 && state == .n19

theorem acts_release : ∀ (branch : Branch) (state : State),
    branch.ofUnknown && !state.isNull || t308Waits branch state (lastState state (branch.acts state)) (branch.acts state) &&
      (!state.isRelease || releasesOtherwise branch state ||
        releasesOnce branch state (lastState state (branch.acts state)) (branch.acts state)) := by
  intro branch state
  revert branch
  cases state
  all_goals decide +kernel

/-- A released call is not begun again, T308 expires in U19 only, and a status enquiry
is not given up in a release state. -/
structure Regular (call : Process) (e : Env × Event) : Prop where
  gone : call.listed = false → begins call.state (call.takes e) = false
  t308 : e.2 = .timer .t308 → call.state = .u19
  t322 : call.state.isRelease → (call.takes e).givesUp = false

/-- A call that has been released stays so and sends neither. -/
def asksOnly (branch : Branch) (state last : State) (acts : List Act) : Bool :=
  !state.isNull || branch.ofMessage || branch.ofUnknown || begins state branch ||
    last == state && !(sends acts).contains .release && !(sends acts).contains .setup

theorem acts_after_release : ∀ (branch : Branch) (state : State),
    asksOnly branch state (lastState state (branch.acts state)) (branch.acts state) := by
  intro branch state
  revert branch
  cases state
  all_goals decide +kernel

theorem acts_flags : ∀ (branch : Branch) (state : State),
    (branch.acts state).contains .setT308Fired = (branch.expired == some .t308) ∧
    (branch.acts state).contains .setT303Fired = (branch.expired == some .t303) := by
  intro branch state
  revert branch
  cases state
  all_goals decide +kernel

/-- How often a call has repeated itself. -/
structure TwoStrikes (c : Counted) : Prop where
  setups : c.setups ≤ 1 + c.call.t303Fired.toNat
  idle : c.call.listed → c.call.state.isNull → c.setups = 0
  fresh : c.call.fresh → c.call.listed ∧ c.call.state.isNull
  gone : c.call.listed = false → c.call.state.isNull
  fired : c.call.t308Fired → c.call.state = .u19 ∨ c.call.listed = false
  repeats : c.call.state.isRelease → c.repeats = c.call.t308Fired.toNat
  waits : c.call.state.isRelease → c.call.pending .t308

/-! ## What is sent and set -/

theorem perform_t303Fired (acts : List Act) : ∀ call : Process,
    (call.perform acts).t303Fired = (call.t303Fired || acts.contains .setT303Fired) := by
  induction acts with
  | nil => intro call; exact (Bool.or_false _).symm
  | cons act acts ih =>
    intro call
    rw [perform_cons, ih, List.contains_cons]
    cases act with
    | setT303Fired => simp [Process.act]
    | _ => rfl

theorem perform_t308Fired (acts : List Act) : ∀ call : Process,
    (call.perform acts).t308Fired = (call.t308Fired || acts.contains .setT308Fired) := by
  induction acts with
  | nil => intro call; exact (Bool.or_false _).symm
  | cons act acts ih =>
    intro call
    rw [perform_cons, ih, List.contains_cons]
    cases act with
    | setT308Fired => simp [Process.act]
    | _ => rfl

/-- Nothing but STATUS and RELEASE COMPLETE is sent about the elements of a message. -/
theorem report_types {e : Event} {type : MessageType} (member : type ∈ e.judgement.sent.map (·.type)) :
    type = .status ∨ type = .releaseComplete := by
  have judged : ∀ msg : Received, type ∈ msg.judgement.sent.map (·.type) → type = .status ∨ type = .releaseComplete := by
    intro msg member
    obtain ⟨k, types⟩ := judged_types msg.location msg.type msg.ds
    rw [Received.judgement, types] at member
    rcases List.mem_append.mp member with status | refused
    · exact .inl (List.eq_of_mem_replicate status)
    · split at refused
      · cases refused
      · rw [Option.mem_toList, refusal] at refused
        split_ifs at refused
        · exact .inr (Option.some.inj refused).symm
        · exact .inl (Option.some.inj refused).symm
  cases e with
  | message msg => exact judged msg member
  | unknown toOriginating msg => exact judged msg member
  | _ => cases member

theorem count_sends_decoded {judgement : Judgement} {type : MessageType} (acts : List Act)
    (other : type ∉ judgement.sent.map (·.type)) :
    (sends (decoded judgement acts)).count type = (sends (reached judgement.handled acts)).count type := by
  induction acts with
  | nil => cases judgement.handled <;> rfl
  | cons act acts ih =>
    by_cases decodes : act = .decode
    · subst decodes
      rw [decoded, sends_append, sends_reports, List.count_append, List.count_eq_zero.mpr other, Nat.zero_add]
      cases handled : judgement.handled with
      | true =>
        rw [handled] at ih
        exact ih
      | false => rfl
    · rw [decoded_cons decodes, reached_cons decodes]
      cases act with
      | send type => simpa only [sends, List.count_cons, Nat.add_right_cancel_iff] using ih
      | sendSetupBc => simpa only [sends, List.count_cons, Nat.add_right_cancel_iff] using ih
      | _ => exact ih

section Step
variable {call next : Process} {e : Env × Event}

theorem step_sent {type : MessageType} (took : call.step e = some next) (status : type ≠ .status)
    (complete : type ≠ .releaseComplete) : next.sent.count type = (sends (call.does e)).count type := by
  obtain ⟨-, -, rfl⟩ := step_eq_some took
  rw [perform_sent, ready_sent, List.nil_append, respond, ready_state]
  refine count_sends_decoded _ fun member => ?_
  rcases report_types member with same | same
  · exact status same
  · exact complete same

theorem step_unsent {type : MessageType} (took : call.step e = some next) (status : type ≠ .status)
    (complete : type ≠ .releaseComplete) (silent : type ∉ sends (call.does e)) : type ∉ next.sent := by
  rw [← List.count_eq_zero, step_sent took status complete]
  exact List.count_eq_zero.mpr silent

/-- SETUP is sent as a call begins, and by T303. -/
theorem does_setup : setupsOnce (call.takes e) call.state (lastState call.state (call.does e)) (call.does e) := by
  refine of_reached (p := fun acts => setupsOnce (call.takes e) call.state (lastState call.state acts) acts)
    e.2.judgement.handled (acts_setup _ _) fun _ => ⟨?_, ?_⟩
  · rfl
  · rfl

theorem known_unknown {branch : Branch} {state : State} (known : branch.ofUnknown → state.isNull) :
    (branch.ofUnknown && !state.isNull) = false := by
  cases unknown : branch.ofUnknown with
  | false => rfl
  | true => rw [known unknown]; rfl

theorem does_t308Waits (known : (call.takes e).ofUnknown → call.state.isNull) :
    t308Waits (call.takes e) call.state (lastState call.state (call.does e)) (call.does e) := by
  refine of_reached (p := fun acts => t308Waits (call.takes e) call.state (lastState call.state acts) acts)
    e.2.judgement.handled ?_ fun message => ?_
  · have table := acts_release (call.takes e) call.state
    rw [known_unknown known, Bool.false_or] at table
    exact (Bool.and_eq_true_iff.mp table).1
  · have idle : ∀ state : State, (!state.isRelease || state.isRelease && none != some Timer.t308) = true := by decide
    rw [t308Waits, t308Waits, (ofMessage_not_ofUnknown _ message).2]
    exact ⟨idle call.state, idle call.state⟩

theorem does_releasesOnce (known : (call.takes e).ofUnknown → call.state.isNull) (releases : call.state.isRelease)
    (plain : releasesOtherwise (call.takes e) call.state = false) :
    releasesOnce (call.takes e) call.state (lastState call.state (call.does e)) (call.does e) := by
  refine of_reached (p := fun acts => releasesOnce (call.takes e) call.state (lastState call.state acts) acts)
    e.2.judgement.handled ?_ fun message => ?_
  · have table := acts_release (call.takes e) call.state
    rw [known_unknown known, Bool.false_or, releases, plain, Bool.not_true, Bool.false_or, Bool.false_or] at table
    exact (Bool.and_eq_true_iff.mp table).2
  · have silent : ∀ branch : Branch, branch.ofMessage → branch.repeatsRelease = false := by decide +kernel
    simp [releasesOnce, silent _ message, (ofMessage_not_ofUnknown _ message).2, sends, lastState]

theorem does_asksOnly : asksOnly (call.takes e) call.state (lastState call.state (call.does e)) (call.does e) := by
  refine of_reached (p := fun acts => asksOnly (call.takes e) call.state (lastState call.state acts) acts)
    e.2.judgement.handled (acts_after_release _ _) fun message => ?_
  simp [asksOnly, message]

theorem does_flags : (call.does e).contains .setT308Fired = ((call.takes e).expired == some .t308) ∧
    (call.does e).contains .setT303Fired = ((call.takes e).expired == some .t303) := by
  refine of_reached (p := fun acts => acts.contains .setT308Fired = ((call.takes e).expired == some .t308) ∧
      acts.contains .setT303Fired = ((call.takes e).expired == some .t303))
    e.2.judgement.handled (acts_flags _ _) fun message => ?_
  rw [(ofMessage_not_ofUnknown _ message).2]
  decide

theorem takes_repeatsSetup (repeats : (call.takes e).repeatsSetup) :
    (call.takes e).expired = some .t303 ∧ call.t303Fired = false := by
  have expired : ∀ branch : Branch, branch.repeatsSetup → branch.expired = some .t303 := by decide +kernel
  have t303 := expired _ repeats
  obtain ⟨env, e⟩ := e
  obtain rfl : e = .timer .t303 := takes_expired_event t303
  refine ⟨t303, ?_⟩
  cases fired : call.t303Fired with
  | false => rfl
  | true =>
    have same : call.takes (env, .timer .t303) = .timerT303 call.broadcastSetup call.t303Fired call.releaseCompleteReceived := rfl
    rw [same, fired] at repeats
    cases repeats

theorem takes_repeatsRelease :
    (call.takes e).repeatsRelease = ((call.takes e).expired == some .t308 && !call.t308Fired) := by
  cases expired : (call.takes e).expired == some .t308 with
  | false =>
    have plain : ∀ branch : Branch, (branch.expired == some .t308) = false → branch.repeatsRelease = false := by
      decide +kernel
    exact plain _ expired
  | true =>
    obtain ⟨env, e⟩ := e
    obtain rfl : e = .timer .t308 := takes_expired_event (beq_iff_eq.mp expired)
    rfl

theorem step_fired (took : call.step e = some next) :
    next.t303Fired = (call.t303Fired || (call.takes e).expired == some .t303) ∧
    next.t308Fired = (call.t308Fired || (call.takes e).expired == some .t308) := by
  obtain ⟨sent, rfl⟩ := step_does took
  have ready : (call.ready e.2).t303Fired = call.t303Fired ∧ (call.ready e.2).t308Fired = call.t308Fired := by
    cases e.2 <;> exact ⟨rfl, rfl⟩
  obtain ⟨t308, t303⟩ : (call.does e).contains .setT308Fired = ((call.takes e).expired == some .t308) ∧
    (call.does e).contains .setT303Fired = ((call.takes e).expired == some .t303) := does_flags
  rw [← t308, ← t303, ← ready.1, ← ready.2]
  exact ⟨perform_t303Fired _ _, perform_t308Fired _ _⟩

theorem listed_after (took : call.step e = some next) :
    next.listed = (call.listed && !(call.does e).contains .releaseReference) := by
  rw [Process.listed, Process.listed, step_released took]
  by_cases released : .releaseReference ∈ call.does e
  · have some := List.count_pos_iff.mpr released
    rw [List.contains_iff_mem.mpr released, Bool.not_true, Bool.and_false, beq_eq_false_iff_ne]
    omega
  · have none : (call.does e).contains .releaseReference = false :=
      Bool.eq_false_iff.mpr fun contains => released (List.contains_iff_mem.mp contains)
    rw [List.count_eq_zero.mpr released, none, Nat.add_zero, Bool.not_false, Bool.and_true]

end Step

/-! ## Runs of a call -/

section Strikes
variable {c d : Counted} {e : Env × Event}

theorem Counted.step_some (took : c.step e = some d) :
    c.call.step e = some d.call ∧ d.setups = c.setups + (sends (c.call.does e)).count .setup ∧
      d.repeats = if c.call.state.isRelease && d.call.state.isRelease then
        c.repeats + (sends (c.call.does e)).count .release else 0 := by
  obtain ⟨next, done, rfl⟩ := Option.map_eq_some_iff.mp took
  have setups : next.sent.count .setup = _ := step_sent done nofun nofun
  have releases : next.sent.count .release = _ := step_sent done nofun nofun
  rw [setups, releases]
  exact ⟨done, rfl, rfl⟩

theorem TwoStrikes.known (strikes : TwoStrikes c) (enabled : c.call.enabled e.2) :
    (c.call.takes e).ofUnknown → c.call.state.isNull :=
  fun unknown => (strikes.fresh (takes_ofUnknown enabled unknown)).2

theorem not_null_of_isRelease : ∀ {state : State}, state.isRelease → state.isNull = false := by decide

/-- In a release state the call stays there, with one more RELEASE if T308 has expired
for the first time, or it is released without one. -/
theorem TwoStrikes.release (strikes : TwoStrikes c) (regular : Regular c.call e) (took : c.step e = some d)
    (releases : c.call.state.isRelease) :
    d.call.listed = c.call.listed ∧ d.call.state = c.call.state ∧
      d.repeats = c.repeats + ((c.call.takes e).expired == some .t308 && !c.call.t308Fired).toNat ∧
      ((c.call.takes e).expired = some .t308 → c.call.t308Fired = false) ∨
    d.call.listed = false ∧ d.call.state.isNull ∧ .release ∉ sends (c.call.does e) ∧
      ((c.call.takes e).expired == some .t308 && !c.call.t308Fired) = false := by
  obtain ⟨done, -, repeats⟩ := Counted.step_some took
  have plain : releasesOtherwise (c.call.takes e) c.call.state = false := by
    rw [releasesOtherwise, regular.t322 releases, Bool.false_or]
    cases expired : (c.call.takes e).expired == some .t308 with
    | false => rfl
    | true => rw [regular.t308 (takes_expired_event (beq_iff_eq.mp expired))]; rfl
  have once := does_releasesOnce (strikes.known (step_eq_some done).1) releases plain
  rw [releasesOnce, takes_repeatsRelease, ← step_state done] at once
  rcases Bool.or_eq_true_iff.mp once with stays | goes
  · obtain ⟨stays, first⟩ := Bool.and_eq_true_iff.mp stays
    simp only [Bool.and_eq_true, beq_iff_eq, Bool.not_eq_true'] at stays
    obtain ⟨⟨kept, same⟩, count⟩ := stays
    refine .inl ⟨?_, same, ?_, fun expired => ?_⟩
    · rw [listed_after done, kept, Bool.not_false, Bool.and_true]
    · rw [repeats, same, releases, count]
      rfl
    · rw [expired, bne_self_eq_false, Bool.false_or, Bool.and_eq_true, Bool.not_eq_true'] at first
      exact first.2
  · simp only [Bool.and_eq_true, Bool.not_eq_true'] at goes
    obtain ⟨⟨⟨released, null⟩, silent⟩, first⟩ := goes
    refine .inr ⟨?_, null, fun member => ?_, first⟩
    · rw [listed_after done, released, Bool.not_true, Bool.and_false]
    · rw [List.contains_iff_mem.mpr member] at silent
      cases silent

/-- A released call stays as it is. -/
theorem TwoStrikes.silent (strikes : TwoStrikes c) (regular : Regular c.call e) (took : c.step e = some d)
    (gone : c.call.listed = false) :
    d.call.state = c.call.state ∧ .release ∉ sends (c.call.does e) ∧ .setup ∉ sends (c.call.does e) := by
  obtain ⟨done, -, -⟩ := Counted.step_some took
  have enabled := (step_eq_some done).1
  have stale : c.call.fresh = false := by
    refine Bool.eq_false_iff.mpr fun fresh => ?_
    rw [(strikes.fresh fresh).1] at gone
    cases gone
  have known : (c.call.takes e).ofUnknown = false :=
    Bool.eq_false_iff.mpr fun unknown => absurd ((takes_ofUnknown enabled unknown).symm.trans stale) nofun
  have unheard : (c.call.takes e).ofMessage = false := by
    obtain ⟨env, e⟩ := e
    cases e with
    | message msg => exact absurd (enabled.symm.trans gone) nofun
    | unknown toOriginating msg => exact absurd (enabled.symm.trans stale) nofun
    | timer timer => cases timer <;> rfl
    | _ => rfl
  have asks : asksOnly (c.call.takes e) c.call.state (lastState c.call.state (c.call.does e)) (c.call.does e) :=
    does_asksOnly
  rw [asksOnly, strikes.gone gone, known, unheard, regular.gone gone, ← step_state done] at asks
  simp only [Bool.not_true, Bool.false_or, Bool.and_eq_true, beq_iff_eq, Bool.not_eq_true'] at asks
  obtain ⟨⟨same, release⟩, setup⟩ := asks
  refine ⟨same, fun member => ?_, fun member => ?_⟩
  · rw [List.contains_iff_mem.mpr member] at release
    cases release
  · rw [List.contains_iff_mem.mpr member] at setup
    cases setup

/-- What SETUPs are sent. -/
theorem TwoStrikes.setup (strikes : TwoStrikes c) (regular : Regular c.call e) (took : c.step e = some d) :
    d.setups = c.setups ∨
    d.call.state.isNull = false ∧ d.setups = c.setups + 1 ∧
      (c.setups = 0 ∨ c.call.t303Fired = false ∧ d.call.t303Fired = true) := by
  obtain ⟨done, setups, -⟩ := Counted.step_some took
  have table : setupsOnce (c.call.takes e) c.call.state (lastState c.call.state (c.call.does e)) (c.call.does e) :=
    does_setup
  rw [setupsOnce, ← step_state done] at table
  simp only [Bool.or_eq_true, Bool.and_eq_true, beq_iff_eq, Bool.not_eq_true'] at table
  obtain none | ⟨⟨one, active⟩, ⟨begins, null⟩ | repeats⟩ := table
  · exact .inl (by omega)
  · refine .inr ⟨active, by omega, .inl (strikes.idle ?_ null)⟩
    cases listed : c.call.listed with
    | true => rfl
    | false => exact absurd (begins.symm.trans (regular.gone listed)) nofun
  · obtain ⟨expired, first⟩ := takes_repeatsSetup repeats
    refine .inr ⟨active, by omega, .inr ⟨first, ?_⟩⟩
    rw [(step_fired done).1, expired]
    exact Bool.or_true _

theorem TwoStrikes.step (strikes : TwoStrikes c) (regular : Regular c.call e) (took : c.step e = some d) :
    TwoStrikes d := by
  obtain ⟨done, -, repeats⟩ := Counted.step_some took
  have enabled := (step_eq_some done).1
  have known := strikes.known enabled
  obtain ⟨t303Fired, t308Fired⟩ := step_fired done
  have listed := listed_after done
  have state := step_state done
  have setups := strikes.setup regular took
  have gone : d.call.listed = false → d.call.state.isNull := by
    intro gone
    cases before : c.call.listed with
    | false =>
      rw [(strikes.silent regular took before).1]
      exact strikes.gone before
    | true =>
      rw [listed, before, Bool.true_and, Bool.not_eq_false'] at gone
      rw [state]
      exact (release_reference_once _ _ _ known (List.contains_iff_mem.mp gone)).2.1
  have early : c.call.t308Fired → c.call.listed → c.call.state = .u19 := fun fired here =>
    (strikes.fired fired).resolve_right fun gone => absurd (here.symm.trans gone) nofun
  refine ⟨?_, fun here null => ?_, fun fresh => ?_, gone, fun fired => ?_, fun releases => ?_, fun releases => ?_⟩
  · have before := strikes.setups
    have grows : c.call.t303Fired.toNat ≤ d.call.t303Fired.toNat := by
      rw [t303Fired]
      cases c.call.t303Fired with
      | false => exact Nat.zero_le _
      | true => exact Nat.le_refl _
    obtain same | ⟨-, one, none | ⟨first, second⟩⟩ := setups
    · omega
    · omega
    · rw [first] at before
      rw [one, second]
      exact Nat.succ_le_succ before
  · obtain same | ⟨active, -, -⟩ := setups
    · rw [listed, Bool.and_eq_true, Bool.not_eq_true'] at here
      rw [same]
      refine strikes.idle here.1 ?_
      cases before : c.call.state.isNull with
      | true => rfl
      | false =>
        rw [state] at null
        have released := null_state_releases (c.call.takes e) c.call.state e.2.judgement.handled (by simp [before]) null
        exact absurd ((List.contains_iff_mem.mpr released).symm.trans here.2) nofun
    · exact absurd (null.symm.trans active) nofun
  · exact absurd (fresh.symm.trans (step_fresh done)) nofun
  · cases before : c.call.listed with
    | false => exact .inr (by rw [listed, before, Bool.false_and])
    | true =>
      have waits : c.call.state = .u19 := by
        rw [t308Fired, Bool.or_eq_true] at fired
        rcases fired with fired | expired
        · exact early fired before
        · exact regular.t308 (takes_expired_event (beq_iff_eq.mp expired))
      rcases strikes.release regular took (by rw [waits]; rfl) with ⟨-, same, -, -⟩ | ⟨released, -⟩
      · exact .inl (same.trans waits)
      · exact .inr released
  · cases before : c.call.state.isRelease with
    | true =>
      rcases strikes.release regular took before with ⟨-, -, more, -⟩ | ⟨-, null, -⟩
      · rw [more, strikes.repeats before, t308Fired]
        cases c.call.t308Fired <;> cases (c.call.takes e).expired == some .t308 <;> rfl
      · rw [not_null_of_isRelease releases] at null
        cases null
    | false =>
      have fresh : d.call.t308Fired = false := by
        refine Bool.eq_false_iff.mpr fun fired => ?_
        rw [t308Fired, Bool.or_eq_true] at fired
        rcases fired with fired | expired
        · rcases strikes.fired fired with waits | unlisted
          · rw [waits] at before
            cases before
          · have null := gone (by rw [listed, unlisted, Bool.false_and])
            rw [not_null_of_isRelease releases] at null
            cases null
        · rw [regular.t308 (takes_expired_event (beq_iff_eq.mp expired))] at before
          cases before
      rw [repeats, before, Bool.false_and, fresh]
      rfl
  · have waits := does_t308Waits known
    rw [t308Waits, ← state, releases, Bool.not_true, Bool.false_or] at waits
    have supervisor : Timer.t308 ∈ State.u19.supervisors := by decide
    rw [step_runs done, ready_runs supervisor]
    cases before : c.call.state.isRelease with
    | true =>
      rw [before] at waits
      rw [strikes.waits before]
      exact waits
    | false =>
      rw [before, Bool.false_and] at waits
      exact runs_mono _ _ _ waits

end Strikes

/-! ## What a terminal repeats -/

/-- What the repetition of a terminal's RELEASE depends on. -/
structure Tally where
  state : CesState
  t308 : Bool
  fired : Bool
  answered : Bool
  repeats : Nat
  deriving DecidableEq

def Ces.tally (ces : Ces) : Tally where
  state := ces.state
  t308 := ces.pending .t308
  fired := ces.t308Fired
  answered := ces.answered
  repeats := ces.repeats

def Tally.act (tally : Tally) : CesAct → Tally
  | .setState state => { tally with state := state }
  | .send type => if type = .release ∧ tally.state = .i19 then { tally with repeats := tally.repeats + 1 } else tally
  | .start timer => { tally with t308 := tally.t308 || timer == .t308 }
  | .stop timer => { tally with t308 := tally.t308 && timer != .t308, answered := tally.answered || timer == .t308 }
  | .stopAny => { tally with t308 := false }
  | .setT308Fired => { tally with fired := true }
  | _ => tally

theorem tally_act (ces : Ces) (act : CesAct) : (ces.act act).tally = ces.tally.act act := by
  cases act with
  | send type =>
    simp only [Ces.act, Ces.sends, Tally.act, Ces.tally]
    by_cases release : type = .release <;> by_cases waits : ces.state = .i19 <;> simp [release, waits]
  | start timer => cases timer <;> simp [Ces.act, Ces.setPending, Tally.act, Ces.tally, Function.update]
  | stop timer => cases timer <;> simp [Ces.act, Ces.setPending, Tally.act, Ces.tally, Function.update]
  | _ => rfl

theorem tally_perform (acts : List CesAct) : ∀ ces : Ces, (ces.perform acts).tally = acts.foldl Tally.act ces.tally := by
  induction acts with
  | nil => intro ces; rfl
  | cons act acts ih =>
    intro ces
    rw [List.foldl_cons, ← tally_act]
    exact ih (ces.act act)

/-- The flag says whether the RELEASE has been repeated, it is not set early, and T308
runs until there is an answer. -/
def Tally.sound (tally : Tally) : Bool :=
  tally.repeats == tally.fired.toNat && (tally.state == .i19 || !tally.fired) &&
    (tally.state != .i19 || tally.answered || tally.t308)

theorem Ces.tally_sound (ces : Ces) (sound : ces.tally.sound) :
    ces.repeats = ces.t308Fired.toNat ∧ (ces.state = .i19 → ces.answered = false → ces.pending .t308) := by
  simp only [Tally.sound, Ces.tally, Bool.and_eq_true, beq_iff_eq] at sound
  obtain ⟨⟨repeats, -⟩, waits⟩ := sound
  refine ⟨repeats, fun releases unanswered => ?_⟩
  rwa [releases, unanswered, bne_self_eq_false, Bool.false_or, Bool.false_or] at waits

/-- A terminal with its timer and its flags, as it is if it is sound. -/
def Tally.of (state : CesState) (t308 fired answered : Bool) : Tally where
  state := state
  t308 := t308
  fired := fired
  answered := answered
  repeats := fired.toNat

theorem Tally.eq_of {tally : Tally} (sound : tally.sound) :
    tally = .of tally.state tally.t308 tally.fired tally.answered := by
  simp only [Tally.sound, Bool.and_eq_true, beq_iff_eq] at sound
  obtain ⟨⟨repeats, -⟩, -⟩ := sound
  cases tally
  exact congrArg _ repeats

theorem request_sound : ∀ (callT322 : Bool) (request : CesRequest) (state : CesState) (t308 fired answered : Bool),
    (Tally.of state t308 fired answered).sound →
      ((cesRequest state callT322 request).foldl Tally.act (.of state t308 fired answered)).sound := by
  decide +kernel

/-- The branches that repeat the RELEASE of a terminal or stop T308 without an answer. -/
def CesBranch.strikes (state : CesState) : CesBranch → Bool
  | timerT308 _ => true
  | timerT322 received given => state == .i19 && !received && given
  | dlReleaseIndication => state == .i19
  | _ => false

/-- A new terminal has its flag clear; the data link of a terminal is released, and its
T308 expires for the second time, while the call frees terminals; and the status enquiry
of a terminal that is being released is not given up. -/
structure Party.Regular (p : Party) (e : PartyEvent) : Prop where
  clear : e.setting.fresh.t308Fired = false
  link : ∀ s, e = .dlReleaseIndication s → (∃ ces ∈ p.terminals.ces, ces.link = s.link) → p.call.state.frees
  t308 : ∀ s id ces, e = .cesTimer s id .t308 → p.terminals.find id = some ces → ces.state = .i19 → ces.t308Fired →
    p.call.state.frees
  t322 : ∀ s id ces, e = .cesTimer s id .t322 → p.terminals.find id = some ces → (ces.expire .t322).strikes ces.state = false

theorem own_sound : ∀ (branch : CesBranch) (state : CesState) (t308 fired answered : Bool),
    branch.strikes state = false → (Tally.of state t308 fired answered).sound →
      ((branch.own state).foldl Tally.act (.of state t308 fired answered)).sound := by
  intro branch state
  revert branch
  cases state
  all_goals decide +kernel

/-- Every terminal is sound, and they can be told apart. -/
structure Party.Strikes (p : Party) : Prop where
  sound : p.Each (·.tally.sound)
  ids : p.terminals.ids.Nodup

/-- T308 expires: for the first time in I19 the RELEASE is repeated, for the second time
the end of the release is told. -/
theorem expiry_sound : ∀ (state : CesState) (fired answered : Bool), (Tally.of state true fired answered).sound →
    let branch := CesBranch.timerT308 fired
    let after := (branch.own state).foldl Tally.act (.of state false fired answered)
    if state = .i19 then
      if fired then branch.own state = [] ∧ branch.told state = [.releaseComplete]
      else branch.told state = [] ∧ after = .of .i19 true true answered
    else branch.told state = [] ∧ after.sound := by
  decide +kernel

/-! ## Runs of a party -/

theorem dispatchMessage_strikes (ces : Ces) (callT322 : Bool) (msg : Received) :
    (ces.dispatchMessage callT322 msg).strikes ces.state = false := by
  unfold Ces.dispatchMessage
  repeat' refine iteInduction (motive := fun branch => CesBranch.strikes ces.state branch = false) (fun _ => ?_) (fun _ => ?_)
  all_goals rfl

theorem perform_sound {ces : Ces} {branch : CesBranch} (plain : branch.strikes ces.state = false)
    (sound : ces.tally.sound) : (ces.perform (branch.own ces.state)).tally.sound := by
  have same := Tally.eq_of sound
  rw [tally_perform, same]
  exact own_sound branch ces.state _ _ _ plain (same ▸ sound)

theorem lasts_sound {s : Setting} (clear : s.fresh.t308Fired = false) : Lasts s (·.tally.sound) where
  asked := by
    intro callT322 request ces sound
    have same := Tally.eq_of sound
    rw [Terminals.ask, tally_perform, same]
    exact request_sound callT322 request ces.state _ _ _ (same ▸ sound)
  born := by simp [Setting.newCes, Ces.tally, Tally.sound, clear]

section
variable {p q : Party} {s : Setting}

/-- A terminal whose branch does not touch the repetition. -/
theorem Party.Strikes.cesHandle (clear : s.fresh.t308Fired = false) (strikes : p.Strikes) {terminal : Ces}
    {judgement : Judgement} {branch : CesBranch} (here : terminal ∈ p.terminals.ces)
    (plain : branch.strikes terminal.state = false)
    (done : p.cesHandle s terminal judgement branch = some q) : q.Strikes := by
  have sound := strikes.sound terminal here
  refine ⟨?_, strikes.ids.sublist (cesHandle_keeps done).come⟩
  exact Each.cesHandle (lasts_sound clear) (strikes.sound.others _) strikes.ids here (perform_sound plain sound)
    (fun _ => sound) done

/-- A terminal is told that its data link is gone, while the call frees terminals. -/
theorem Party.Strikes.linkReleased (clear : s.fresh.t308Fired = false) (strikes : p.Strikes) {terminal : Ces}
    (here : terminal ∈ p.terminals.ces) (frees : p.call.state.frees)
    (done : p.cesHandle s terminal unjudged .dlReleaseIndication = some q) : q.Strikes := by
  by_cases releases : terminal.state = .i19
  · refine ⟨?_, strikes.ids.sublist (cesHandle_keeps done).come⟩
    obtain ⟨sent, ⟨-, refused, -⟩ | told⟩ := cesHandle_some done
    · cases refused
    · rw [releases] at told
      refine (Each.tell_freed (lasts_sound clear) ?_ ?_ (.inr rfl) told).1
      · intro ces member different
        obtain ⟨kept, -⟩ | ⟨before, kept, same, rfl⟩ := Terminals.mem_update.mp member
        · exact strikes.sound ces kept
        · rw [Ces.perform_id, same] at different
          exact absurd rfl different
      · exact frees
  · exact strikes.cesHandle clear here (by rw [CesBranch.strikes, beq_eq_false_iff_ne]; exact releases) done

/-- The timer of a terminal that has expired is not pending any more. -/
def Party.expired (id : Nat) (timer : CesTimer) (p : Party) : Party :=
  { p with terminals := p.terminals.update id (·.setPending timer false) }

theorem Party.expired_ids (id : Nat) (timer : CesTimer) : (p.expired id timer).terminals.ids = p.terminals.ids :=
  Terminals.ids_update fun _ => rfl

/-- Another timer than T308. -/
theorem Party.Strikes.expiry {id : Nat} {timer : CesTimer} (clear : s.fresh.t308Fired = false) (strikes : p.Strikes)
    {terminal : Ces} (found : p.terminals.find id = some terminal) (other : timer ≠ .t308)
    (plain : (terminal.expire timer).strikes terminal.state = false)
    (done : (p.expired id timer).cesHandle s terminal unjudged (terminal.expire timer) = some q) : q.Strikes := by
  obtain ⟨here, rfl⟩ := find_some found
  have same : ∀ ces : Ces, (ces.setPending timer false).tally = ces.tally := by
    intro ces
    simp [Ces.tally, Ces.setPending, Function.update_of_ne (Ne.symm other)]
  have before : (p.expired terminal.id timer).Strikes := by
    refine ⟨fun ces member => ?_, ?_⟩
    · obtain ⟨kept, -⟩ | ⟨before, kept, -, rfl⟩ := Terminals.mem_update.mp member
      · exact strikes.sound ces kept
      · rw [same]
        exact strikes.sound before kept
    · rw [Party.expired_ids]
      exact strikes.ids
  have there : terminal.setPending timer false ∈ (p.expired terminal.id timer).terminals.ces :=
    Terminals.mem_update.mpr (.inr ⟨terminal, here, rfl, rfl⟩)
  exact before.cesHandle clear there plain done

/-- The other terminals are sound when T308 of one expires. -/
theorem Party.Strikes.others (strikes : p.Strikes) (id : Nat) (timer : CesTimer) :
    (p.expired id timer).Each fun ces => ces.id ≠ id → ces.tally.sound := by
  intro ces member different
  obtain ⟨kept, -⟩ | ⟨before, kept, this, rfl⟩ := Terminals.mem_update.mp member
  · exact strikes.sound ces kept
  · exact absurd this different

theorem Party.mem_expired {terminal : Ces} (here : terminal ∈ p.terminals.ces) (timer : CesTimer) :
    terminal.setPending timer false ∈ (p.expired terminal.id timer).terminals.ces :=
  Terminals.mem_update.mpr (.inr ⟨terminal, here, rfl, rfl⟩)

/-- T308 of a terminal expires, and it does not tell anything. -/
theorem Party.Strikes.silent_t308 {tally : Tally} {branch : CesBranch} (clear : s.fresh.t308Fired = false) (strikes : p.Strikes) {terminal : Ces}
    (here : terminal ∈ p.terminals.ces) (silent : branch.told terminal.state = [])
    (after : ((terminal.setPending .t308 false).perform (branch.own terminal.state)).tally = tally)
    (sound : tally.sound) (done : (p.expired terminal.id .t308).cesHandle s terminal unjudged branch = some q) :
    q.Each (·.tally.sound) ∧ ∃ ces ∈ q.terminals.ces, ces.id = terminal.id ∧ ces.tally = tally := by
  have distinct : (p.expired terminal.id .t308).terminals.ids.Nodup := by
    rw [Party.expired_ids]
    exact strikes.ids
  have there := Party.mem_expired here .t308
  have others : (p.expired terminal.id .t308).Each
      fun ces => ces.id ≠ (terminal.setPending .t308 false).id → ces.tally.sound := strikes.others _ _
  refine ⟨?_, ?_⟩
  · refine Each.cesHandle (lasts_sound clear) others distinct there ?_ ?_ done
    · exact (congrArg Tally.sound after).trans sound
    · intro refused
      cases refused
  · obtain ⟨sent, ⟨-, refused, -⟩ | told⟩ := cesHandle_some done
    · cases refused
    · rw [silent] at told
      obtain rfl := Option.some.inj told
      exact ⟨_, Terminals.mem_update.mpr (.inr ⟨_, there, rfl, rfl⟩), Ces.perform_id _, after⟩

/-- T308 of a terminal expires, and it is freed. -/
theorem Party.Strikes.last_t308 {branch : CesBranch} (clear : s.fresh.t308Fired = false) (strikes : p.Strikes)
    {terminal : Ces} (told : branch.told terminal.state = [.releaseComplete]) (frees : p.call.state.frees)
    (done : (p.expired terminal.id .t308).cesHandle s terminal unjudged branch = some q) :
    q.Each (·.tally.sound) ∧ terminal.id ∉ q.terminals.ids := by
  obtain ⟨sent, ⟨-, refused, -⟩ | tells⟩ := cesHandle_some done
  · cases refused
  · rw [told] at tells
    refine Each.tell_freed (lasts_sound clear) ?_ ?_ (.inl rfl) tells
    · intro ces member different
      obtain ⟨kept, -⟩ | ⟨before, kept, this, rfl⟩ := Terminals.mem_update.mp member
      · exact strikes.others _ _ ces kept different
      · rw [Ces.perform_id] at different
        exact absurd this different
    · exact frees

theorem Tally.repeated_sound (answered : Bool) : (Tally.of .i19 true true answered).sound := by cases answered <;> rfl

/-- What the expiry of T308 does to a terminal. -/
theorem Party.Strikes.t308 {id : Nat} (clear : s.fresh.t308Fired = false) (strikes : p.Strikes) {terminal : Ces}
    (found : p.terminals.find id = some terminal) (pending : terminal.pending .t308)
    (frees : terminal.state = .i19 → terminal.t308Fired → p.call.state.frees)
    (done : (p.expired id .t308).cesHandle s terminal unjudged (terminal.expire .t308) = some q) :
    q.Each (·.tally.sound) ∧ (terminal.state = .i19 →
      if terminal.t308Fired then id ∉ q.terminals.ids
      else ∃ ces ∈ q.terminals.ces, ces.id = id ∧ ces.tally = .of .i19 true true terminal.answered) := by
  obtain ⟨here, rfl⟩ := find_some found
  have sound := strikes.sound terminal here
  have same : terminal.tally = .of terminal.state true terminal.t308Fired terminal.answered := by
    rw [Tally.eq_of sound]
    simp [Ces.tally, pending]
  have ready : (terminal.setPending .t308 false).tally =
      .of terminal.state false terminal.t308Fired terminal.answered := by
    have repeats := congrArg Tally.repeats same
    simp only [Ces.tally, Tally.of] at repeats
    simp [Ces.tally, Ces.setPending, Tally.of, repeats]
  have branch : terminal.expire .t308 = .timerT308 terminal.t308Fired := rfl
  have table := expiry_sound terminal.state terminal.t308Fired terminal.answered (same ▸ sound)
  have after := tally_perform ((terminal.expire .t308).own terminal.state) (terminal.setPending .t308 false)
  rw [ready] at after
  rw [branch] at done after
  by_cases releases : terminal.state = .i19
  · rw [if_pos releases] at table
    cases fired : terminal.t308Fired with
    | true =>
      rw [fired, if_pos rfl] at table
      rw [fired] at done
      obtain ⟨each, gone⟩ := strikes.last_t308 clear table.2 (frees releases fired) done
      exact ⟨each, fun _ => gone⟩
    | false =>
      rw [fired, if_neg nofun] at table
      rw [fired] at done after
      obtain ⟨each, repeated⟩ := strikes.silent_t308 clear here table.1 (after.trans table.2)
        (Tally.repeated_sound terminal.answered) done
      exact ⟨each, fun _ => repeated⟩
  · rw [if_neg releases] at table
    exact ⟨(strikes.silent_t308 clear here table.1 after table.2 done).1, fun waits => absurd waits releases⟩

theorem Party.Strikes.take {e : PartyEvent} (strikes : p.Strikes) (regular : p.Regular e)
    (pending : ∀ s id ces, e = .cesTimer s id .t308 → p.terminals.find id = some ces → ces.pending .t308)
    (took : p.take e = some q) : q.Each (·.tally.sound) := by
  have link : ∀ {s : Setting} {branch : CesBranch} {e : Event}, s.fresh.t308Fired = false →
      (∀ state, branch.strikes state = false) → p.dataLink s branch e = some q → q.Each (·.tally.sound) := by
    intro s branch e clear plain done
    obtain ⟨m, held, rfl | ⟨-, last⟩⟩ := dataLink_some (J := Party.Strikes) strikes.ids
      (fun held here _ _ done => held.cesHandle clear here (plain _) done) strikes done
    · exact held.sound
    · exact held.sound.handle (lasts_sound clear) last
  have clear := regular.clear
  cases e with
  | call s about e =>
    dsimp only [Party.take] at took
    split at took
    · obtain ⟨m, chosen, done⟩ := Option.bind_eq_some_iff.mp took
      obtain ⟨id, -, rfl⟩ := Option.map_eq_some_iff.mp chosen
      refine Each.handle (lasts_sound clear) ?_ done
      exact strikes.sound
    · exact strikes.sound.handle (lasts_sound clear) took
  | message s msg =>
    rcases receive_some took with ⟨-, done⟩ | ⟨terminal, here, -, m, first, rest⟩
    · exact strikes.sound.handle (lasts_sound clear) done
    · have looked : ({ p with terminals := p.terminals.look p.terminals.selected } : Party).Strikes :=
        ⟨strikes.sound, strikes.ids⟩
      have between := looked.cesHandle clear here (dispatchMessage_strikes _ _ _) first
      rcases rest with rfl | ⟨-, last⟩
      · exact between.sound
      · exact between.sound.handle (lasts_sound clear) last
  | unknown s toOriginating msg => exact strikes.sound.handle (lasts_sound clear) took
  | dlEstablishIndication s => exact link clear (fun _ => rfl) took
  | dlEstablishConfirm s => exact link clear (fun _ => rfl) took
  | dlReleaseConfirm s => exact link clear (fun _ => rfl) took
  | dlReleaseIndication s =>
    have frees : p.call.state.frees ∨ ∀ ces ∈ p.terminals.ces, ces.link ≠ s.link := by
      by_cases linked : ∃ ces ∈ p.terminals.ces, ces.link = s.link
      · exact .inl (regular.link s rfl linked)
      · exact .inr fun ces member same => linked ⟨ces, member, same⟩
    obtain ⟨m, ⟨held, -⟩, rfl | ⟨-, last⟩⟩ := dataLink_some
      (J := fun m => m.Strikes ∧ (m.call.state.frees ∨ ∀ ces ∈ m.terminals.ces, ces.link ≠ s.link)) strikes.ids
      (fun {m n terminal} held here _ linked done => by
        obtain frees | none := held.2
        · exact ⟨held.1.linkReleased clear here frees done, .inl (cesHandle_frees frees done)⟩
        · exact absurd linked (none terminal here)) ⟨strikes, frees⟩ took
    · exact held.sound
    · exact held.sound.handle (lasts_sound clear) last
  | cesTimer s id timer =>
    obtain ⟨terminal, found, done⟩ := Option.bind_eq_some_iff.mp took
    cases timer with
    | t304 =>
      have other : CesTimer.t304 ≠ .t308 := nofun
      exact (strikes.expiry clear found other rfl done).sound
    | t308 => exact (strikes.t308 clear found (pending s id terminal rfl found) (regular.t308 s id terminal rfl found) done).1
    | t322 =>
      have other : CesTimer.t322 ≠ .t308 := nofun
      exact (strikes.expiry clear found other (regular.t322 s id terminal rfl found) done).sound

end

/-! ## Every run -/

section
variable {p q : Party} {e : PartyEvent}

theorem Party.Regular.ready (regular : p.Regular e) : (p.ready e).Regular e := by
  refine ⟨regular.clear, ?_, ?_, ?_⟩
  · rw [ready_terminals, ready_party_state]
    exact regular.link
  · rw [ready_terminals, ready_party_state]
    exact regular.t308
  · rw [ready_terminals]
    exact regular.t322

theorem Party.Strikes.ready (strikes : p.Strikes) (e : PartyEvent) : (p.ready e).Strikes := by
  refine ⟨?_, ?_⟩
  · rw [Party.Each, ready_terminals]
    exact strikes.sound
  · rw [ready_terminals]
    exact strikes.ids

theorem Party.Strikes.step (strikes : p.Strikes) (regular : p.Regular e) (took : p.step e = some q) : q.Strikes := by
  have ids := step_distinct strikes.ids took
  obtain ⟨enabled, m, done, rfl⟩ := step_some took
  have sound : m.Each (·.tally.sound) := by
    refine (strikes.ready e).take regular.ready (fun s id ces expires found => ?_) done
    subst expires
    rw [ready_terminals] at found
    have pending := (Bool.and_eq_true_iff.mp enabled).2
    dsimp only at pending
    rw [found] at pending
    exact pending
  exact ⟨sound, ids⟩

end

/-- In a run of regular events a call sends SETUP at most twice. In a release state it
sends RELEASE once more when T308 expires for the first time, and when it expires again
the call is cleared; a cleared call sends no more. So it is with a terminal that is being
released: T308 runs until it answers, the first expiry repeats the RELEASE and the second
frees it. -/
theorem release_is_repeated_once_of_run (role : IntfRole) (broadcastSetup tonesOption : Bool) (dlc : Option Nat) :
    (∀ es c, Run Counted.step (fun c e => Regular c.call e) { call := alloc role broadcastSetup tonesOption } es c →
      c.setups ≤ 2 ∧ (c.call.state.isRelease → c.repeats ≤ 1 ∧ c.call.pending .t308) ∧
      ∀ e d, Regular c.call e → c.step e = some d →
        (c.call.state.isRelease → e.2 = .timer .t308 →
          if c.repeats = 0 then d.call.state = c.call.state ∧ d.repeats = 1 ∧ d.call.pending .t308
          else d.call.state.isNull ∧ d.call.listed = false ∧ .release ∉ d.call.sent) ∧
        (c.call.listed = false → .release ∉ d.call.sent ∧ .setup ∉ d.call.sent)) ∧
    ∀ es p, Run Party.step Party.Regular (.alloc role broadcastSetup tonesOption dlc) es p →
      (∀ ces ∈ p.terminals.ces, ces.repeats ≤ 1 ∧ (ces.state = .i19 → ces.answered = false → ces.pending .t308)) ∧
      ∀ s id ces q, p.Regular (.cesTimer s id .t308) → p.terminals.find id = some ces → ces.state = .i19 →
        p.step (.cesTimer s id .t308) = some q →
          if ces.repeats = 0 then
            ∃ again ∈ q.terminals.ces, again.id = id ∧ again.state = .i19 ∧ again.repeats = 1 ∧ again.pending .t308
          else id ∉ q.terminals.ids := by
  refine ⟨fun es c run => ?_, fun es p run => ?_⟩
  · have strikes : TwoStrikes c := by
      refine run.invariant TwoStrikes (fun strikes regular took => strikes.step regular took) ?_
      have null : (alloc role broadcastSetup tonesOption).state.isNull := by cases role <;> rfl
      have idle : (alloc role broadcastSetup tonesOption).state.isRelease = false := by cases role <;> rfl
      have still : ¬ (alloc role broadcastSetup tonesOption).state.isRelease := by simp [idle]
      exact ⟨Nat.zero_le _, fun _ _ => rfl, fun _ => ⟨rfl, null⟩, (fun gone => by cases gone), (fun fired => by cases fired),
        fun releases => absurd releases still, fun releases => absurd releases still⟩
    refine ⟨?_, fun releases => ⟨?_, strikes.waits releases⟩, fun e d regular took => ⟨fun releases expires => ?_, fun gone => ?_⟩⟩
    · have setups := strikes.setups
      have flag := Bool.toNat_le c.call.t303Fired
      omega
    · rw [strikes.repeats releases]
      exact Bool.toNat_le _
    · have t308 : (c.call.takes e).expired = some .t308 := by
        rw [Process.takes, expires]
        rfl
      have next := strikes.step regular took
      rcases strikes.release regular took releases with ⟨-, same, more, first⟩ | ⟨gone, null, silent, again⟩
      · have none : c.repeats = 0 := by
          rw [strikes.repeats releases, first t308]
          rfl
        rw [if_pos none]
        refine ⟨same, ?_, next.waits (by rw [same]; exact releases)⟩
        rw [more, none, t308, first t308]
        rfl
      · have fired : c.call.t308Fired = true := by
          rw [t308] at again
          simpa using again
        have once := strikes.repeats releases
        rw [fired] at once
        rw [if_neg (by rw [once]; decide)]
        exact ⟨null, gone, step_unsent (Counted.step_some took).1 (by decide) (by decide) silent⟩
    · obtain ⟨-, release, setup⟩ := strikes.silent regular took gone
      exact ⟨step_unsent (Counted.step_some took).1 (by decide) (by decide) release,
        step_unsent (Counted.step_some took).1 (by decide) (by decide) setup⟩
  · have strikes : p.Strikes :=
      run.invariant Party.Strikes (fun strikes regular took => strikes.step regular took) ⟨fun _ none => (List.not_mem_nil none).elim, List.nodup_nil⟩
    refine ⟨fun ces member => ?_, fun s id ces q regular found releases took => ?_⟩
    · obtain ⟨repeats, waits⟩ := ces.tally_sound (strikes.sound ces member)
      rw [repeats]
      exact ⟨Bool.toNat_le _, waits⟩
    · obtain ⟨enabled, m, done, rfl⟩ := Party.step_some took
      obtain ⟨terminal, found', done⟩ := Option.bind_eq_some_iff.mp done
      obtain rfl : ces = terminal := Option.some.inj (found.symm.trans found')
      have pending := (Bool.and_eq_true_iff.mp enabled).2
      dsimp only at pending
      rw [found] at pending
      have there : (p.ready (.cesTimer s id .t308)).terminals.find id = some ces := found
      obtain ⟨-, struck⟩ := (strikes.ready _).t308 regular.clear there pending (regular.t308 s id ces rfl found) done
      have repeats := (ces.tally_sound (strikes.sound ces (Party.find_some found).1)).1
      have after := struck releases
      cases fired : ces.t308Fired with
      | true =>
        rw [fired] at repeats after
        rw [if_neg (by rw [repeats]; decide)]
        exact after
      | false =>
        rw [fired] at repeats after
        rw [if_pos (by rw [repeats]; rfl)]
        obtain ⟨again, there, same, tally⟩ := after
        exact ⟨again, there, same, congrArg Tally.state tally, congrArg Tally.repeats tally,
          congrArg Tally.t308 tally⟩

/-- The network side calls, and a terminal rings and is disconnected. -/
theorem disconnected_terminal :
    ∃ p, Run Party.step Party.Regular (.alloc .nt false false none)
        [.call (.on 0 0) none .setupRequest, .message (.on 1 1) (bare .alerting .nt),
          .message (.on 1 0) (bare .disconnect .nt)] p ∧ p.terminals.ids = [1] := by
  have ran : (follow Party.step Any (.alloc .nt false false none)
      [.call (.on 0 0) none .setupRequest, .message (.on 1 1) (bare .alerting .nt),
        .message (.on 1 0) (bare .disconnect .nt)]).map (·.terminals.ids) = some [1] := by decide +kernel
  obtain ⟨p, done, ids⟩ := Option.map_eq_some_iff.mp ran
  refine ⟨p, (follow_run Party.step Any _ _ done).imp fun p e member _ => ?_, ids⟩
  simp only [List.mem_cons, List.not_mem_nil, or_false] at member
  have plain : ∀ e : PartyEvent, e.setting.fresh.t308Fired = false → (∀ s, e ≠ .dlReleaseIndication s) →
      (∀ s id timer, e ≠ .cesTimer s id timer) → p.Regular e := fun e clear link timer =>
    ⟨clear, fun s same => absurd same (link s), fun s id _ same => absurd same (timer s id _),
      fun s id _ same => absurd same (timer s id _)⟩
  rcases member with rfl | rfl | rfl
  · exact plain _ rfl (fun _ => nofun) (fun _ _ _ => nofun)
  · exact plain _ rfl (fun _ => nofun) (fun _ _ _ => nofun)
  · exact plain _ rfl (fun _ => nofun) (fun _ _ _ => nofun)

/-- A message for an unknown call is answered by RELEASE, T308 repeats it and clears the
call; and so for a terminal that has been disconnected. -/
theorem unanswered_release_is_repeated_and_given_up :
    (∃ c d, Run Counted.step (fun c e => Regular c.call e) { call := alloc .te false false }
        [(Env.idle, .unknown false (bare .alerting .te)), (Env.idle, .timer .t308)] c ∧
      c.step (Env.idle, .timer .t308) = some d ∧
      (c.call.state.isRelease → (Env.idle, Event.timer .t308).2 = .timer .t308 →
        if c.repeats = 0 then d.call.state = c.call.state ∧ d.repeats = 1 ∧ d.call.pending .t308
        else d.call.state.isNull ∧ d.call.listed = false ∧ .release ∉ d.call.sent)) ∧
    ∃ p, Run Party.step Party.Regular (.alloc .nt false false none)
        [.call (.on 0 0) none .setupRequest, .message (.on 1 1) (bare .alerting .nt),
          .message (.on 1 0) (bare .disconnect .nt)] p ∧
      p.terminals.ids = [1] ∧
      ∀ ces ∈ p.terminals.ces, ces.repeats ≤ 1 ∧ (ces.state = .i19 → ces.answered = false → ces.pending .t308) := by
  have first : Run Counted.step (fun c e => Regular c.call e) { call := alloc .te false false }
      [(Env.idle, .unknown false (bare .alerting .te)), (Env.idle, .timer .t308)] _ :=
    .cons ⟨nofun, nofun, nofun⟩ rfl (.cons ⟨nofun, fun _ => rfl, fun _ => rfl⟩ rfl (.nil _))
  obtain ⟨p, second, ids⟩ := disconnected_terminal
  obtain ⟨call, -⟩ := release_is_repeated_once_of_run .te false false none
  obtain ⟨-, party⟩ := release_is_repeated_once_of_run .nt false false none
  have struck := (call _ _ first).2.2 (Env.idle, .timer .t308) _ ⟨nofun, fun _ => rfl, fun _ => rfl⟩ rfl
  exact ⟨⟨_, _, first, rfl, struck.1⟩, p, second, ids, (party _ p second).1⟩

/-- The first expiry of T308 clears a call of the network side without another RELEASE;
and it frees a terminal whose flag `malloc` has not cleared. -/
theorem release_is_not_repeated :
    (∃ c d, follow Counted.step Any { call := alloc .nt false false }
        [(Env.idle, .unknown false (bare .alerting .nt))] = some c ∧
      c.call.state = .n19 ∧ c.repeats = 0 ∧ c.step (Env.idle, .timer .t308) = some d ∧
      d.call.state = .n0 ∧ d.call.listed = false ∧ .release ∉ d.call.sent) ∧
    ∃ p q ces, follow Party.step Any (.alloc .nt false false none)
        [.call (.on 0 0) none .setupRequest,
          .message { Setting.on 1 1 with fresh := { id := 1, t308Fired := true } } (bare .alerting .nt),
          .message (.on 1 0) (bare .disconnect .nt)] = some p ∧
      p.terminals.find 1 = some ces ∧ ces.state = .i19 ∧ ces.repeats = 0 ∧
      p.step (.cesTimer (.on 0 0) 1 .t308) = some q ∧ q.terminals.ids = [] :=
  ⟨⟨_, _, rfl, rfl, rfl, rfl, rfl, rfl, by decide⟩, ⟨_, _, _, rfl, rfl, rfl, rfl, rfl, rfl⟩⟩

end Vstuff.Q931.Call
