import Vstuff.Q931.CallEnd
import Vstuff.Q931.Interface

/-! A B channel is for one call: a channel and its call point to each other, a channel
in use is not AVAILABLE, and a call that has left the interface has none. The
invariant says in which states a call has no channel to lose. -/
namespace Vstuff.Q931.Call
open Transition
set_option linter.all false

/-! ## Calls without a channel -/

/-- The states in which a call has not got its channel, or has given it back. -/
def State.channelless : State → Bool
  | .u0 | .n0 | .u1 | .u17 | .n17 => true
  | _ => false

/-- The states of a call that is not on `intf->calls`, if it is begun again: no
message reaches it. -/
def State.unheard : State → Bool
  | .u0 | .u1 | .u11 | .u17 | .u19 | .n0 | .n6 | .n12 | .n19 | .n22 => true
  | _ => false

/-- The branches that lose a channel: a terminal accepts a SETUP and does not mark the
channel, or rejects the call and keeps it; a call is suspended and keeps it; and T308
expires at the network side of a point-to-point access. -/
def losesChannel (state : State) (handled attached : Bool) : Branch → Bool
  | .handleSetup _ found => state == .u0 && handled && found
  | .rejectRequest => state == .u6 && attached
  | .suspendResponse => state == .n15 && attached
  | .timerT308 t308Fired multipoint _ => state == .n19 && attached && !t308Fired && !multipoint
  | _ => false

/-- A released call of the network side is begun again and given a channel. -/
def retakes (state : State) : Branch → Bool
  | .setupRequest acquired _ _ => state == .n0 && acquired
  | _ => false

/-- The branches that reach calls on `intf->calls` only. -/
def Branch.ofListed : Branch → Bool
  | restartRequest | dlEstablishIndication _ _ | dlEstablishConfirm | dlReleaseIndication _ _ => true
  | branch => branch.ofMessage

open Channels in
/-- `channel_given_back`, as it is computed. -/
def givesBack (state : State) (handled attached : Bool) (branch : Branch) : Bool :=
  let acts := reached handled (branch.acts state)
  !attachedAfter branch.got attached acts ||
    !((acts.contains .releaseReference || (lastState state acts).channelless) &&
      (!state.channelless || !attached) && branch.agrees attached && (!branch.ofUnknown || state.isNull) &&
      !losesChannel state handled attached branch)

theorem givesBack_all : ∀ (branch : Branch) (state : State),
    ∀ handled attached, givesBack state handled attached branch := by
  intro branch state
  revert branch
  cases state
  all_goals decide +kernel

open Channels in
/-- A call that releases its reference, or comes to a state without a channel, has
none then. -/
theorem channel_given_back : ∀ (branch : Branch) (state : State) (handled attached : Bool),
    (state.channelless → attached = false) → branch.agrees attached → (branch.ofUnknown → state.isNull) →
      losesChannel state handled attached branch = false →
      Act.releaseReference ∈ reached handled (branch.acts state) ∨
        (lastState state (reached handled (branch.acts state))).channelless →
      attachedAfter branch.got attached (reached handled (branch.acts state)) = false := by
  intro branch state handled attached without agrees known loses ended
  have checked := givesBack_all branch state handled attached
  have without' : (!state.channelless || !attached) = true := by
    cases channelless : state.channelless with
    | false => rfl
    | true => rw [without channelless]; rfl
  have ended' : ((reached handled (branch.acts state)).contains .releaseReference ||
      (lastState state (reached handled (branch.acts state))).channelless) = true := by
    rwa [Bool.or_eq_true, List.contains_iff_mem]
  simpa only [givesBack, without', agrees, known_or known, loses, ended', Bool.not_false, Bool.and_self, Bool.not_true,
    Bool.or_false, Bool.not_eq_true'] using checked

/-- A message that is not known finds no channel to lose. -/
example : losesChannel .n0 true false .unrecognizedMessage = false := by decide +kernel

open Channels in
/-- A call that is not on `intf->calls` gets no channel. -/
theorem unheard_stays : ∀ (branch : Branch) (state : State) (handled : Bool),
    state.unheard → branch.ofListed = false → branch.ofUnknown = false → retakes state branch = false →
      attachedAfter branch.got false (reached handled (branch.acts state)) = false ∧
      (lastState state (reached handled (branch.acts state))).unheard := by
  intro branch state
  revert branch
  cases state
  all_goals decide +kernel

/-- Only a terminal leaves a channel unmarked. -/
theorem unmarked_loses : ∀ (branch : Branch) (state : State) (handled attached : Bool),
    Act.take false ∈ reached handled (branch.acts state) → losesChannel state handled attached branch := by
  have checked : ∀ (branch : Branch) (state : State) (handled : Bool),
      (!(reached handled (branch.acts state)).contains (.take false) ||
        losesChannel state handled true branch && losesChannel state handled false branch) = true := by
    intro branch state
    revert branch
    cases state
    all_goals decide +kernel
  intro branch state handled attached member
  have loses := checked branch state handled
  rw [List.contains_iff_mem.mpr member, Bool.not_true, Bool.false_or, Bool.and_eq_true] at loses
  cases attached with
  | true => exact loses.1
  | false => exact loses.2

/-! ## What holds between calls and channels -/

/-- The contract. -/
structure Exclusive (intf : Interface) : Prop where
  bothWays : ∀ id c, intf.lines.channelOf id = some c ↔ (intf.lines.channel c).call = some id
  alone : ∀ id other c, intf.lines.channelOf id = some c → intf.lines.channelOf other = some c → id = other
  busy : ∀ c, (intf.lines.channel c).call ≠ none → (intf.lines.channel c).state ≠ .available
  listed : ∀ c id, (intf.lines.channel c).call = some id → id < intf.made ∧ (intf.calls id).listed
  released : ∀ id, (intf.calls id).listed = false → intf.lines.channelOf id = none

def Every : Nat → Prop := fun _ => True

/-- The contract and what it rests on: which calls have no channel. -/
structure Orderly (intf : Interface) : Prop where
  linked : intf.lines.Linked Every
  busy : intf.lines.Busy
  holders : ∀ id c, intf.lines.channelOf id = some c → id < intf.made ∧ (intf.calls id).listed
  channelless : ∀ id, (intf.calls id).state.channelless → intf.lines.channelOf id = none
  unheard : ∀ id, (intf.calls id).listed = false → (intf.calls id).fresh = false ∧ (intf.calls id).state.unheard
  fresh : ∀ id, (intf.calls id).fresh → (intf.calls id).state.isNull

theorem Orderly.exclusive {intf : Interface} (orderly : Orderly intf) : Exclusive intf where
  bothWays id c := ⟨orderly.linked.held trivial, orderly.linked.owner⟩
  alone id other c has has' := Option.some.inj
    ((orderly.linked.held trivial has).symm.trans (orderly.linked.held trivial has'))
  busy := orderly.busy
  listed c id call := orderly.holders id c (orderly.linked.owner call)
  released id gone := by
    cases has : intf.lines.channelOf id with
    | none => rfl
    | some c => exact absurd ((orderly.holders id c has).2.symm.trans gone) nofun

theorem init_orderly (config : Config) : Orderly (.init config) where
  linked := Channels.init_linked _ _
  busy := fun c call => absurd rfl call
  holders := nofun
  channelless := fun _ _ => rfl
  unheard := nofun
  fresh := fun _ _ => by
    simp only [Interface.init, alloc]
    split_ifs <;> rfl

/-- An event that loses no channel: no call loses its own, and none is given one when
it has been released. -/
def KeepsChannels (intf : Interface) : InterfaceEvent → Prop
  | .make _ _ => True
  | .call h =>
    losesChannel (intf.calls h.id).state h.event.judgement.handled (intf.lines.channelOf h.id).isSome
      ((intf.calls h.id).takes (intf.seen h)) = false ∧
    ((intf.calls h.id).listed = false →
      retakes (intf.calls h.id).state ((intf.calls h.id).takes (intf.seen h)) = false)

theorem make_orderly {intf : Interface} (orderly : Orderly intf) (broadcastSetup tonesOption : Bool) :
    Orderly { intf with
      made := intf.made + 1
      calls := Function.update intf.calls intf.made (alloc intf.config.role broadcastSetup tonesOption) } := by
  have unused : intf.lines.channelOf intf.made = none := by
    cases has : intf.lines.channelOf intf.made with
    | none => rfl
    | some c => exact absurd (orderly.holders _ c has).1 (Nat.lt_irrefl _)
  have null : (alloc intf.config.role broadcastSetup tonesOption).state.isNull := by
    simp only [alloc]
    split_ifs <;> rfl
  refine ⟨orderly.linked, orderly.busy, fun id c has => ?_, fun id without => ?_, fun id gone => ?_, fun id fresh => ?_⟩
  · have other : id ≠ intf.made := by
      rintro rfl
      rw [unused] at has
      cases has
    obtain ⟨made, listed⟩ := orderly.holders id c has
    exact ⟨Nat.lt_succ_of_lt made, by simpa [Function.update_of_ne other] using listed⟩
  · by_cases same : id = intf.made
    · subst same
      exact unused
    · exact orderly.channelless id (by simpa [Function.update_of_ne same] using without)
  · by_cases same : id = intf.made
    · subst same
      simp [alloc, Process.listed] at gone
    · simpa [Function.update_of_ne same] using orderly.unheard id (by simpa [Function.update_of_ne same] using gone)
  · by_cases same : id = intf.made
    · subst same
      simpa using null
    · simpa [Function.update_of_ne same] using orderly.fresh id (by simpa [Function.update_of_ne same] using fresh)

section Step
variable {intf next : Interface} {h : Happening}

theorem orderly_ready (orderly : Orderly intf) :
    Channels.Ready Every intf.lines h.id h.ci ((intf.calls h.id).takes (intf.seen h)).got (intf.does h) := by
  refine does_ready (fun act _ c chosen other call => ?_) fun null => .inl (orderly.channelless h.id ?_)
  · have free := Channels.chosen_available chosen
    refine absurd (beq_iff_eq.mp free) (orderly.busy c ?_)
    rw [call]
    nofun
  · have channelless : ∀ state : State, state.isNull → state.channelless := by decide
    exact channelless _ null

/-- A call that is not on `intf->calls` meets nothing that is for those that are. -/
theorem takes_ofListed {call : Process} {e : Env × Event} (enabled : call.enabled e.2) (gone : call.listed = false)
    (stale : call.fresh = false) : (call.takes e).ofListed = false ∧ (call.takes e).ofUnknown = false := by
  obtain ⟨env, e⟩ := e
  cases e with
  | message msg | restartRequest | dlEstablishIndication | dlEstablishConfirm | dlReleaseIndication
  | dlReleaseConfirm => exact absurd (enabled.symm.trans gone) nofun
  | unknown toOriginating msg => exact absurd (enabled.symm.trans stale) nofun
  | timer timer => cases timer <;> exact ⟨rfl, rfl⟩
  | _ => exact ⟨rfl, rfl⟩

/-- What one event leaves of the call it is for. -/
theorem step_attached (orderly : Orderly intf) (clean : KeepsChannels intf (.call h)) (meets : intf.Meets h)
    (took : (intf.calls h.id).step (intf.seen h) = some (next.calls h.id)) :
    ((next.calls h.id).listed = false ∨ (next.calls h.id).state.channelless →
      Channels.attachedAfter ((intf.calls h.id).takes (intf.seen h)).got
        (intf.lines.channelOf h.id).isSome (intf.does h) = false) ∧
    ((next.calls h.id).listed = false → (next.calls h.id).state.unheard) := by
  obtain ⟨kept, unmarked⟩ := clean
  have known : ((intf.calls h.id).takes (intf.seen h)).ofUnknown → (intf.calls h.id).state.isNull :=
    fun unknown => orderly.fresh h.id (takes_ofUnknown meets.2 unknown)
  have without : (intf.calls h.id).state.channelless → (intf.lines.channelOf h.id).isSome = false :=
    fun channelless => by rw [orderly.channelless h.id channelless]; rfl
  cases listed : (intf.calls h.id).listed with
  | false =>
    obtain ⟨stale, unheard⟩ := orderly.unheard h.id listed
    obtain ⟨notListed, notUnknown⟩ := takes_ofListed (e := intf.seen h) meets.2 listed stale
    obtain ⟨attached, stays⟩ := unheard_stays _ _ h.event.judgement.handled unheard notListed notUnknown (unmarked listed)
    rw [(orderly.exclusive).released h.id listed]
    exact ⟨fun _ => attached, fun _ => by rw [step_state took]; exact stays⟩
  | true =>
    have releases : (next.calls h.id).listed = false → .releaseReference ∈ intf.does h := by
      intro gone
      by_contra kept
      have zero : (intf.calls h.id).released = 0 := beq_iff_eq.mp listed
      have none : ((intf.calls h.id).does (intf.seen h)).count .releaseReference = 0 := List.count_eq_zero.mpr kept
      rw [Process.listed, step_released took, zero, none] at gone
      cases gone
    refine ⟨fun ended => ?_, fun gone => ?_⟩
    · refine channel_given_back _ _ _ _ without takes_agrees known kept ?_
      rw [step_state took] at ended
      exact ended.imp_left releases
    · have null := (release_reference_once _ _ _ known (releases gone)).2.1
      have unheard : ∀ state : State, state.isNull → state.unheard := by decide
      rw [step_state took]
      exact unheard _ null

theorem call_orderly (orderly : Orderly intf) (clean : KeepsChannels intf (.call h))
    (goes : intf.outcome (.call h) = .goes next) : Orderly next := by
  obtain ⟨meets, took, done, -, made, same⟩ := Interface.outcome_goes goes
  have ready := orderly_ready (h := h) orderly
  have order := does_ordered intf h
  have moved := Channels.perform_moves order orderly.linked trivial ready done
  obtain ⟨attached, unheard⟩ := step_attached orderly clean meets took
  have given : (next.calls h.id).listed = false ∨ (next.calls h.id).state.channelless →
      next.lines.channelOf h.id = none := by
    intro ended
    have none := moved.attached.trans (attached ended)
    simpa using none
  have marked : .take false ∉ intf.does h := fun member =>
    absurd ((unmarked_loses _ _ _ _ member).symm.trans clean.1) nofun
  refine ⟨moved.linked, Channels.perform_busy order orderly.linked trivial ready orderly.busy marked done,
    fun id c has => ?_, fun id channelless => ?_, fun id gone => ?_, fun id fresh => ?_⟩
  · by_cases own : id = h.id
    · subst own
      refine ⟨by rw [made]; exact meets.1, ?_⟩
      cases listed : (next.calls h.id).listed with
      | true => rfl
      | false =>
        rw [given (.inl listed)] at has
        cases has
    · rw [moved.others id own] at has
      rw [made, same id own]
      exact orderly.holders id c has
  · by_cases own : id = h.id
    · subst own
      exact given (.inr channelless)
    · rw [moved.others id own]
      rw [same id own] at channelless
      exact orderly.channelless id channelless
  · by_cases own : id = h.id
    · subst own
      exact ⟨step_fresh took, unheard gone⟩
    · rw [same id own] at gone ⊢
      exact orderly.unheard id gone
  · by_cases own : id = h.id
    · subst own
      rw [step_fresh took] at fresh
      cases fresh
    · rw [same id own] at fresh ⊢
      exact orderly.fresh id fresh

end Step

theorem step_orderly {intf next : Interface} {e : InterfaceEvent} (orderly : Orderly intf)
    (clean : KeepsChannels intf e) (took : intf.step e = some next) : Orderly next := by
  unfold Interface.step at took
  split at took
  · next goes =>
    cases took
    cases e with
    | make broadcastSetup tonesOption =>
      cases goes
      exact make_orderly orderly broadcastSetup tonesOption
    | call h => exact call_orderly orderly clean goes
  · cases took

/-- In a run of clean events every channel is for one call, and every call off the
interface has none. -/
theorem exclusive_of_run {config : Config} {es : List InterfaceEvent} {intf : Interface}
    (run : Run Interface.step KeepsChannels (.init config) es intf) : Exclusive intf :=
  (run.invariant Orderly step_orderly (init_orderly config)).exclusive

/-- A message as it arrives on a basic access. -/
def arriving (role : Lapd.IntfRole) (type : MessageType) (area : Lapd.Octets) : Received where
  type := type.code
  location := 0
  ds := ((decodeIes (codecs ⟨fun _ => 0, fun _ => {}⟩ ⟨.bra, role, 2⟩) type.code role area.length).value
    (memory area fun _ => 0)).getD { mandatoryIes := [] }

/-- A basic point-to-point access. -/
def Config.basicAccess (role : Lapd.IntfRole) : Config where
  role := role
  basic := true
  multipoint := false
  enableBumping := false
  nChannels := 2

theorem rejected_call_gives_its_channel_back :
    ∃ intf, Run Interface.step KeepsChannels (.init (.basicAccess .nt))
        [.make false false, .call { id := 0, event := .setupRequest },
          .call { id := 0, event := .message (arriving .nt .releaseComplete [0x08, 0x02, 0x80, 0x95]) }] intf ∧
      (intf.calls 0).listed = false ∧ Exclusive intf ∧ intf.lines.channelOf 0 = none := by
  have run : Run Interface.step KeepsChannels (.init (.basicAccess .nt))
      [.make false false, .call { id := 0, event := .setupRequest },
        .call { id := 0, event := .message (arriving .nt .releaseComplete [0x08, 0x02, 0x80, 0x95]) }] _ :=
    .cons trivial rfl (.cons ⟨rfl, nofun⟩ rfl (.cons ⟨rfl, nofun⟩ rfl (.nil _)))
  have exclusive := exclusive_of_run run
  exact ⟨_, run, rfl, exclusive, exclusive.released 0 rfl⟩

/-- The SETUP of a basic call on channel B1. -/
def setupOnB1 : Received :=
  arriving .te .setup [0x04, 0x03, 0x80, 0x90, 0xa3, 0x18, 0x01, 0x89]

/-- A terminal gives one channel to two calls. -/
theorem two_setups_share_a_channel :
    ∃ intf, follow Interface.step Any (.init (.basicAccess .te))
        [.make false false, .call { id := 0, event := .unknown false setupOnB1 },
          .make false false, .call { id := 1, event := .unknown false setupOnB1 }] = some intf ∧
      intf.lines.channelOf 0 = some 0 ∧ intf.lines.channelOf 1 = some 0 ∧
      intf.lines.channel 0 = { state := .available, call := some 1 } ∧ ¬ Exclusive intf :=
  ⟨_, rfl, rfl, rfl, rfl, fun exclusive => absurd (exclusive.alone 0 1 0 rfl rfl) nofun⟩

end Vstuff.Q931.Call
