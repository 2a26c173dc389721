import Vstuff.Q931.Channels

/-! One interface with its calls and its channels: any number of calls, each a process
of its own, that meet at the channels. What a call finds there when an event comes
is what `CallProcess` left open. -/
namespace Vstuff.Q931.Call
open Transition
open Lapd (IntfRole)
set_option linter.all false

/-- The configuration of an interface. -/
structure Config where
  role : IntfRole
  basic : Bool
  multipoint : Bool
  enableBumping : Bool
  nChannels : Nat
  deriving DecidableEq, Repr

/-- `struct q931_interface`; calls are numbered in the order they are made. -/
structure Interface where
  config : Config
  made : Nat
  calls : Nat → Process
  lines : Channels

def Interface.init (config : Config) : Interface where
  config := config
  made := 0
  calls _ := alloc config.role false false
  lines := .init config.nChannels

/-- An event of a call: what its terminals are like, and the channel identification
one of them has sent. -/
structure Happening where
  id : Nat
  ableToProceed : Bool := false
  cesEmpty : Bool := true
  ces : Option ChannelIdentification := none
  event : Event

/-- The channel identification the handler looks at. -/
def Happening.ci (h : Happening) : Option ChannelIdentification :=
  match h.event with
  | .message msg | .unknown _ msg => indicated msg.ies
  | _ => h.ces

/-- What can happen on an interface. -/
inductive InterfaceEvent where
  | make (broadcastSetup tonesOption : Bool)
  | call (h : Happening)

/-- An event is refused when it cannot happen; what is done about it is carried out,
or it is not. -/
inductive Outcome where
  | refused
  | faults (fault : Fault)
  | goes (next : Interface)

namespace Interface

section
variable (intf : Interface) (h : Happening)

/-- What the call sees of the interface. -/
def env : Env where
  basic := intf.config.basic
  multipoint := intf.config.multipoint
  enableBumping := intf.config.enableBumping
  attached := (intf.lines.channelOf h.id).isSome
  selected := intf.lines.responds h.id h.ci
  acquired := intf.lines.firstAvailable.isSome
  found := (intf.lines.selectSetup h.ci).isSome
  ableToProceed := h.ableToProceed
  cesEmpty := h.cesEmpty

/-- The event as the call meets it. -/
def seen : Env × Event := (intf.env h, h.event)

/-- What becomes of the interface. -/
def outcome : InterfaceEvent → Outcome
  | .make broadcastSetup tonesOption => .goes { intf with
      made := intf.made + 1
      calls := Function.update intf.calls intf.made (alloc intf.config.role broadcastSetup tonesOption) }
  | .call h =>
    if h.id < intf.made ∧ (intf.calls h.id).enabled h.event then
      let call := (intf.calls h.id).ready h.event
      let acts := respond call (intf.env h) h.event
      match intf.lines.perform h.id h.ci acts with
      | .error fault => .faults fault
      | .ok lines => .goes { intf with
          calls := Function.update intf.calls h.id (call.perform acts)
          lines := lines }
    else .refused

def step (e : InterfaceEvent) : Option Interface :=
  match intf.outcome e with
  | .goes next => some next
  | _ => none

end

/-! ## A step of the interface is a step of the call and of the channels -/

section
variable {intf next : Interface} {h : Happening}

/-- Messages and decoding leave the channels alone. -/
theorem perform_decoded (id : Nat) (ci : Option ChannelIdentification) (judgement : Judgement) (acts : List Act) :
    ∀ lines : Channels, lines.perform id ci (decoded judgement acts) =
      lines.perform id ci (reached judgement.handled acts) := by
  have reports : ∀ (reports : List Report) (rest : List Act) (lines : Channels),
      lines.perform id ci (reports.map (.send ·.type) ++ rest) = lines.perform id ci rest := by
    intro reports rest lines
    induction reports with
    | nil => rfl
    | cons report reports ih => exact ih
  induction acts with
  | nil => intro lines; cases judgement.handled <;> rfl
  | cons act acts ih =>
    intro lines
    by_cases decodes : act = .decode
    · subst decodes
      rw [decoded, reports]
      cases handled : judgement.handled with
      | true =>
        rw [handled] at ih
        exact ih lines
      | false => rfl
    · rw [decoded_cons decodes, reached_cons decodes]
      simp only [Channels.perform, List.foldlM_cons] at ih ⊢
      exact congrArg _ (funext ih)

/-- An event that is not refused. -/
def Meets (intf : Interface) (h : Happening) : Prop := h.id < intf.made ∧ (intf.calls h.id).enabled h.event

/-- What the call does about the event. -/
def does (intf : Interface) (h : Happening) : List Act := (intf.calls h.id).does (intf.seen h)

theorem respond_perform : intf.lines.perform h.id h.ci
      (respond ((intf.calls h.id).ready h.event) (intf.env h) h.event) =
    intf.lines.perform h.id h.ci (intf.does h) := by
  rw [respond, perform_decoded, ready_state]
  rfl

theorem not_absent_of_perform {id : Nat} {ci : Option ChannelIdentification} {acts : List Act} :
    ∀ {lines last : Channels}, lines.perform id ci acts = .ok last → .absentIe ∉ acts := by
  induction acts with
  | nil => intro _ _ _; nofun
  | cons act acts ih =>
    intro lines last done absent
    obtain ⟨middle, first, rest⟩ := Channels.perform_cons_ok done
    rcases List.mem_cons.mp absent with rfl | later
    · cases first
    · exact ih rest later

theorem outcome_goes (goes : intf.outcome (.call h) = .goes next) :
    intf.Meets h ∧ (intf.calls h.id).step (intf.seen h) = some (next.calls h.id) ∧
      intf.lines.perform h.id h.ci (intf.does h) = .ok next.lines ∧ next.config = intf.config ∧
      next.made = intf.made ∧ ∀ id, id ≠ h.id → next.calls id = intf.calls id := by
  simp only [outcome] at goes
  split_ifs at goes with meets
  split at goes
  · cases goes
  · next lines done =>
    cases goes
    refine ⟨meets, ?_, respond_perform.symm.trans done, rfl, rfl, fun id other => Function.update_of_ne other ..⟩
    have taken := step_of_present (e := intf.seen h) meets.2 (not_absent_of_perform done)
    simp only [Function.update_self]
    exact taken

theorem outcome_faults {fault : Fault} (faults : intf.outcome (.call h) = .faults fault) :
    intf.Meets h ∧ intf.lines.perform h.id h.ci (intf.does h) = .error fault := by
  simp only [outcome] at faults
  split_ifs at faults with meets
  split at faults
  · next failed =>
    cases faults
    exact ⟨meets, respond_perform.symm.trans failed⟩
  · cases faults

end

end Interface

/-! ## What the branches say of the channels -/

/-- A response selects a channel. -/
def Branch.isResponse : Branch → Bool
  | handleAlerting _ _ | handleCallProceeding _ _ | handleConnect _ _ | handleSetupAcknowledge _ _
  | intConnectIndication _ => true
  | _ => false

def Branch.isSetupRequest : Branch → Bool
  | setupRequest _ _ _ => true
  | _ => false

/-- What the branch says the function that looks for a channel finds. -/
def Branch.got : Branch → Bool
  | handleAlerting _ selected | handleCallProceeding _ selected | handleConnect _ selected
  | handleSetupAcknowledge _ selected | intConnectIndication selected => selected
  | setupRequest acquired _ _ => acquired
  | _ => false

/-- The branch says whether the call has a channel. -/
def Branch.agrees (attached : Bool) : Branch → Bool
  | timerT308 _ _ has => has == attached
  | _ => true

theorem ofMessage_agrees : ∀ (branch : Branch) (attached : Bool), branch.ofMessage →
    branch.isSetupRequest = false ∧ branch.agrees attached := by
  decide +kernel

section Takes
variable {call : Process} {env : Env} {e : Event}

theorem takes_isResponse (response : (call.takes (env, e)).isResponse) :
    (call.takes (env, e)).got = env.selected := by
  have dispatched : ∀ msg, (dispatchMessage (call.ready e) env msg).isResponse →
      (dispatchMessage (call.ready e) env msg).got = env.selected := by
    intro msg
    unfold dispatchMessage
    repeat'
      refine iteInduction
        (motive := fun branch => Branch.isResponse branch = true → Branch.got branch = env.selected)
        (fun _ => ?_) (fun _ => ?_)
    all_goals first | exact fun _ => rfl | exact nofun
  cases e with
  | message msg => exact dispatched msg response
  | unknown toOriginating msg =>
    simp only [Process.takes, choose, receiveUnknown] at response ⊢
    split_ifs at response ⊢
    · cases response
    · cases response
    · cases response
    · exact dispatched msg response
    · exact dispatched msg response
    · cases response
  | timer timer => cases timer <;> cases response
  | intConnectIndication => rfl
  | _ => cases response

theorem takes_isSetupRequest (request : (call.takes (env, e)).isSetupRequest) :
    (call.takes (env, e)).got = env.acquired := by
  have dispatched : ∀ msg, (dispatchMessage (call.ready e) env msg).isSetupRequest = false :=
    fun msg => (ofMessage_agrees _ true (dispatchMessage_ofMessage ..)).1
  cases e with
  | message msg => exact absurd (request.symm.trans (dispatched msg)) nofun
  | unknown toOriginating msg =>
    simp only [Process.takes, choose, receiveUnknown] at request
    split_ifs at request
    · cases request
    · cases request
    · cases request
    · exact absurd (request.symm.trans (dispatched msg)) nofun
    · exact absurd (request.symm.trans (dispatched msg)) nofun
    · cases request
  | timer timer => cases timer <;> cases request
  | setupRequest => rfl
  | _ => cases request

theorem takes_agrees : (call.takes (env, e)).agrees env.attached := by
  have dispatched : ∀ msg, (dispatchMessage (call.ready e) env msg).agrees env.attached :=
    fun msg => (ofMessage_agrees _ _ (dispatchMessage_ofMessage ..)).2
  cases e with
  | message msg => exact dispatched msg
  | unknown toOriginating msg =>
    simp only [Process.takes, choose, receiveUnknown]
    split_ifs
    · rfl
    · rfl
    · rfl
    · exact dispatched msg
    · exact dispatched msg
    · rfl
  | timer timer => cases timer <;> first | rfl | exact beq_self_eq_true _
  | _ => rfl

end Takes

open Channels in
/-- A channel is looked for once, by a response, a SETUP-REQUEST or a SETUP, and a
SETUP looks for it in the null state. -/
theorem branch_selects : ∀ (branch : Branch) (state : State),
    ordered (branch.acts state) ∧
    (Act.acquire ∈ branch.acts state → branch.isSetupRequest ∧ state.isNull) ∧
    (Act.selectResponse ∈ branch.acts state → branch.isResponse) ∧
    ((branch.acts state).any takes → state.isNull) := by
  have checked : ∀ (branch : Branch) (state : State),
      (ordered (branch.acts state) && (!(branch.acts state).contains .acquire || branch.isSetupRequest && state.isNull) &&
        (!(branch.acts state).contains .selectResponse || branch.isResponse) &&
        (!(branch.acts state).any takes || state.isNull)) = true := by
    intro branch state
    revert branch
    cases state
    all_goals decide +kernel
  intro branch state
  have all := checked branch state
  simp only [Bool.and_eq_true, Bool.or_eq_true, Bool.not_eq_true', Bool.eq_false_iff, ne_eq, List.contains_iff_mem,
    ← imp_iff_not_or] at all
  obtain ⟨⟨⟨order, acquires⟩, selects⟩, taken⟩ := all
  exact ⟨order, acquires, selects, taken⟩

namespace Channels

theorem ordered_reached {acts : List Act} (order : ordered acts) (handled : Bool) :
    ordered (reached handled acts) := by
  cases handled with
  | true => exact order
  | false =>
    induction acts with
    | nil => rfl
    | cons act acts ih =>
      by_cases decodes : act = .decode
      · subst decodes
        rfl
      · rw [reached_cons decodes]
        rw [ordered] at order ⊢
        split_ifs at order ⊢
        · exact List.all_eq_true.mpr fun later member =>
            List.all_eq_true.mp order later (reached_subset false acts member)
        · exact ih order

/-- A channel that is given to a call is available. -/
theorem chosen_available {lines : Channels} {id c : Nat} {ci : Option ChannelIdentification} {act : Act}
    (chosen : lines.chosen id ci act = some c) : lines.available c := by
  cases act with
  | acquire => exact List.find?_some chosen
  | selectResponse =>
    simp only [Channels.chosen, another] at chosen
    split at chosen
    · cases chosen
    · split at chosen
      · exact List.find?_some chosen
      · split_ifs at chosen
        exact List.find?_some chosen
  | take => exact selectSetup_available chosen
  | _ => cases chosen

end Channels

/-- A handler finds the channels as its branch says. -/
theorem does_ready {live : Nat → Prop} {intf : Interface} {h : Happening}
    (free : ∀ act ∈ intf.does h, ∀ c, intf.lines.chosen h.id h.ci act = some c →
      ∀ other, (intf.lines.channel c).call = some other → ¬ live other)
    (none : (intf.calls h.id).state.isNull → intf.lines.channelOf h.id = none ∨
      ∀ act ∈ intf.does h, Channels.takes act = false) :
    Channels.Ready live intf.lines h.id h.ci ((intf.calls h.id).takes (intf.seen h)).got (intf.does h) := by
  obtain ⟨-, acquires, responds, taken⟩ :=
    branch_selects ((intf.calls h.id).takes (intf.seen h)) (intf.calls h.id).state
  refine ⟨free, fun act member value gets => ?_, fun act member taking => ?_⟩
  · have there := reached_subset _ _ member
    cases act with
    | acquire =>
      cases gets
      exact takes_isSetupRequest (acquires there).1
    | selectResponse =>
      cases gets
      exact takes_isResponse (responds there)
    | _ => cases gets
  · have there := reached_subset _ _ member
    rcases none (taken (List.any_eq_true.mpr ⟨act, there, taking⟩)) with without | quiet
    · exact without
    · exact absurd (taking.symm.trans (quiet act member)) nofun

theorem does_ordered (intf : Interface) (h : Happening) : Channels.ordered (intf.does h) :=
  Channels.ordered_reached (branch_selects _ _).1 _

end Vstuff.Q931.Call
