import Mathlib.Data.Finset.Card
import Vstuff.Lib.Machine
import Vstuff.Q931.Global

/-! Restarting channels: what the books of the global call say while a restart
goes on, when it is acknowledged, and which messages end the program. -/
namespace Vstuff.Q931.Global
open Transition
set_option linter.all false

/-! ## The loop over the channels -/

/-- The call on a channel confirms later. -/
def Channels.deferred (channels : Channels) (channel : Nat) : Bool := channels.occupant channel == .defers

/-- The channel is confirmed from inside a call's restart. -/
def Channels.called (channels : Channels) (channel : Nat) : Bool := channels.occupant channel == .confirms

/-- What a completed restart leaves. -/
def completed (gc : Gc) (confirmed : List Nat) (t317 : Bool) (ies : List Content) : Gc :=
  { gc with
    state := .null
    t317 := t317
    restartReqdChans := []
    restartAckedChans := confirmed
    out := gc.out ++ [.send .restartAcknowledge ies] }

section Loop
variable {channels : Channels} {gc : Gc}

/-- What the loop over the channels has done in the end: the restart is complete,
or some channels are waited for. -/
def looped (channels : Channels) (gc : Gc) (waiting confirmed : List Nat) (last : Option Nat)
    (asked : Bool) : Except Crash Gc :=
  if waiting = [] then
    (acknowledgeElements { gc with restartAckedChans := confirmed }).map
      (completed gc confirmed (last.any channels.called))
  else
    .ok {
      gc with
      restartReqdChans := waiting
      restartAckedChans := confirmed
      t317 := gc.t317 || asked }

/-- The channel is asked to restart. -/
def Channels.asked (channels : Channels) (channel : Nat) : Bool := channels.occupant channel != .free

end Loop

/-! ## The channels of a RESTART -/

/-- The channels an element names. -/
def namedIn (ie : Content) : List Nat := (chansetOf ie).getD []

/-- The channels a RESTART message names; all of them if it names none. -/
def namedBy (nChannels : Nat) (ies : List Content) : List Nat :=
  if hasChannels ies then ies.flatMap namedIn else List.range nChannels

/-- The restart indicator after an element. -/
def indicatorAfter (indicator : Option Nat) : Content → Option Nat
  | .restartIndicator cls => some cls
  | _ => indicator

/-- The restart indicator a RESTART is handled with: its last one, or the one of
an earlier message. -/
def indicatorOf (gc : Gc) (ies : List Content) : Option Nat := ies.foldl indicatorAfter gc.restartIndicator

/-- What a RESTART has been found to be about. -/
def started (gc : Gc) (ies : List Content) (state : State) (reqd : List Nat) : Gc :=
  { gc with
    state := state
    t317Expired := false
    restartRetransmitCount := 0
    restartResponded := false
    restartAcknowledged := false
    restartIndicator := indicatorOf gc ies
    restartReqdChans := reqd
    restartAckedChans := []
    designated := reqd }

section Designated
variable {channels : Channels} {gc : Gc}

end Designated

/-! ## Messages that end the program -/

section Messages
variable {channels : Channels} {gc : Gc}

end Messages

/-- Everything the global call does in a run. -/
def trace : Gc → List Event → List Output
  | _, [] => []
  | gc, e :: es =>
    match step gc e with
    | none => []
    | some next => next.out ++ trace next es

/-- The channels of a RESTART ACKNOWLEDGE. -/
def acknowledgedBy : Event → List Nat
  | .message _ _ msg =>
    if msg.type = MessageType.restartAcknowledge.code then (msg.ies.findSome? chansetOf).getD [] else []
  | _ => []

/-- The restart the management asked for is done as it should: the messages name
the channels, there are two of them at most, and the channels confirmed are
those the peer acknowledged. -/
structure Fulfilled (gc : Gc) (chanset : List Nat) (es : List Event) : Prop where
  named : ∀ ies, .send .restart ies ∈ trace gc es →
    channelsElement gc chanset ∈ ies ∧ .restartIndicator classIndicated ∈ ies
  atMostTwo : (trace gc es).countP (fun | .send .restart _ => true | _ => false) ≤ 2
  confirmed : ∀ confirmed, .managementRestartConfirm (some confirmed) ∈ trace gc es →
    ∀ channel, channel ∈ confirmed ↔ channel ∈ chanset ∧ channel ∈ es.flatMap acknowledgedBy

/-- The first RESTART of the management is sent when its elements are gone. -/
theorem first_restart_names_nothing (gc : Gc) (idle : gc.state = .null)
    (indicated : gc.restartIndicator = some classIndicated) (chanset : List Nat) (es : List Event) :
    .send .restart [] ∈ trace gc (.management chanset :: es) := by
  simp [trace, step, enabled, handle, managementRestartRequest, idle, indicated, emit, Except.toOption,
    classIndicated, classAllInterfaces]

/-- No restart of the management is done as it should, whatever happens after
the request. -/
theorem requested_restart_is_never_fulfilled (gc : Gc) (idle : gc.state = .null)
    (indicated : gc.restartIndicator = some classIndicated) (chanset : List Nat) (es : List Event) :
    ¬Fulfilled gc chanset (.management chanset :: es) := by
  intro fulfilled
  obtain ⟨nowhere, -⟩ := fulfilled.named [] (first_restart_names_nothing gc idle indicated chanset es)
  cases nowhere

/-- A global call that has once been told to restart a channel. -/
def restartedBefore : Option Gc :=
  step (init ⟨.bra, .te, 2⟩) (.message 0 ⟨fun _ => true, fun _ => .free⟩ ⟨MessageType.restart.code, [
    .channelIdentification { interfacePrimary := false, preferredExclusive := 1, chanset := [0] },
    .restartIndicator classIndicated]⟩)

theorem second_restart_is_not_fulfilled :
    ∃ gc, restartedBefore = some gc ∧ gc.state = .null ∧ gc.restartIndicator = some classIndicated ∧
      ¬Fulfilled gc [0] [.management [0], .t316, .t316] := by
  obtain ⟨gc, reached⟩ := Option.isSome_iff_exists.mp (show restartedBefore.isSome from rfl)
  have idle : restartedBefore.map (·.state) = some .null := rfl
  have indicated : restartedBefore.map (·.restartIndicator) = some (some classIndicated) := rfl
  rw [reached] at idle indicated
  simp only [Option.map_some, Option.some.injEq] at idle indicated
  exact ⟨gc, reached, idle, indicated, requested_restart_is_never_fulfilled gc idle indicated _ _⟩

/-- The channel the management names is in none of the elements. -/
theorem requested_channel_is_not_named :
    ¬∀ (gc : Gc) (chanset : List Nat) (es : List Event), gc.state = .null →
      gc.restartIndicator = some classIndicated → Fulfilled gc chanset (.management chanset :: es) := by
  intro always
  have sent := first_restart_names_nothing { init ⟨.bra, .te, 2⟩ with restartIndicator := some classIndicated }
    rfl rfl [0] []
  exact absurd ((always _ [0] [] rfl rfl).named [] sent).1 (by decide)

/-! ## A restart the peer asks for -/

/-- The channels a RESTART designates. -/
def designate (channels : Channels) (nChannels : Nat) (ies : List Content) : List Nat :=
  match requestChannels channels [] (namedBy nChannels ies) with
  | .ok found => found
  | .error _ => []

/-- A RESTART that begins a restart. -/
def Begins (gc : Gc) (channels : Channels) (msg : Message) : Prop :=
  msg.type = MessageType.restart.code ∧ gc.state = .null ∧ designate channels gc.intf.nChannels msg.ies ≠ []

/-- The events of a restart by the peer that avoid the defects: a RESTART has an
indicator of the indicated class, and its last channel is not confirmed from
inside a call when that completes the restart; only channels that were asked to
restart confirm; T317 does not expire when some have. -/
def Clean (gc : Gc) : Event → Prop
  | .message _ channels msg =>
    Begins gc channels msg →
      indicatorOf gc msg.ies = some classIndicated ∧
      ((designate channels gc.intf.nChannels msg.ies).getLast?.any channels.called →
        (designate channels gc.intf.nChannels msg.ies).any channels.deferred)
  | .confirm channel => gc.state = .restart → ∀ c, channel = some c → c ∈ gc.designated
  | .t316 => True
  | .t317 => gc.state = .restart → gc.restartAckedChans = []
  | .management _ => False

/-- The channels requested and those confirmed are the channels designated, and
none is both. -/
structure Booked (gc : Gc) : Prop where
  disjoint : ∀ channel ∈ gc.restartReqdChans, channel ∉ gc.restartAckedChans
  union : ∀ channel, channel ∈ gc.designated ↔ channel ∈ gc.restartReqdChans ∨ channel ∈ gc.restartAckedChans

/-- A restart is under way when an event happens, or begins with it. -/
def Underway (gc : Gc) : Event → Prop
  | .message _ channels msg => gc.state = .restart ∨ Begins gc channels msg
  | _ => gc.state = .restart

/-- T317 has expired. -/
def Event.expires : Event → Bool
  | .t317 => true
  | _ => false

/-- The elements of the RESTART ACKNOWLEDGE messages sent. -/
def acknowledgements (out : List Output) : List (List Content) :=
  out.filterMap fun
    | .send .restartAcknowledge ies => some ies
    | _ => none

/-- A RESTART that begins a restart designates the channels it names that may be
restarted; they stay the same until it ends. -/
def Designates (gc : Gc) (e : Event) (next : Gc) : Prop :=
  (gc.state = .restart → next.designated = gc.designated) ∧
    match e with
    | .message _ channels msg => Begins gc channels msg →
      ∀ channel, channel ∈ next.designated ↔
        channels.restartable channel ∧ channel ∈ namedBy gc.intf.nChannels msg.ies
    | _ => True

/-- What an event does to a restart: a step that ends it acknowledges the
confirmed channels, if there are any, and stops the timer; no other step sends an
acknowledgement. -/
structure Outcome (gc : Gc) (e : Event) (next : Gc) : Prop where
  designated : Designates gc e next
  booked : Underway gc e → Booked next
  acknowledged : Underway gc e → next.state = .null → next.restartAckedChans ≠ [] →
    acknowledgements next.out = [namedChannels next next.restartAckedChans]
  silent : ¬(Underway gc e ∧ next.state = .null ∧ next.restartAckedChans ≠ []) → acknowledgements next.out = []
  ended : Underway gc e → (next.state = .null ↔ next.restartReqdChans = [] ∨ e.expires)
  stopped : next.state = .null → next.t317 = false

/-- What holds of a global call in a run of clean events. -/
structure Steady (gc : Gc) : Prop where
  noRequest : gc.state ≠ .restartRequest
  stopped : gc.state = .null → gc.t317 = false
  booked : gc.state = .restart → Booked gc
  waiting : gc.state = .restart → gc.restartReqdChans ≠ []
  distinct : gc.state = .restart → gc.restartReqdChans.Nodup
  fits : gc.state = .restart → gc.restartReqdChans.length + gc.restartAckedChans.length ≤ chansetMaxSize
  indicated : gc.state = .restart → gc.restartIndicator = some classIndicated

section Step
variable {gc next : Gc} {e : Event} {channels : Channels}

theorem step_some (taken : step gc e = some next) : enabled gc e ∧ handle gc e = .ok next := by
  simp only [step] at taken
  split_ifs at taken with may
  refine ⟨may, ?_⟩
  cases handled : handle gc e with
  | error crash => simp [handled, Except.toOption] at taken
  | ok result => simpa [handled, Except.toOption] using taken

/-- A step that changes nothing of a restart. -/
theorem idle_step (steady : Steady gc) (t316 : Bool) {out : List Output} (quiet : acknowledgements out = [])
    (begins : Underway gc e → gc.state = .restart) (expiry : e.expires = false) (other : Designates gc e gc) :
    Steady { gc with t316 := t316, out := out } ∧ Outcome gc e { gc with t316 := t316, out := out } := by
  refine ⟨⟨steady.noRequest, steady.stopped, fun restarting => ?_, steady.waiting, steady.distinct, steady.fits,
    steady.indicated⟩, ⟨other, fun underway => ?_, fun underway idle => ?_, fun _ => quiet, fun underway => ?_,
    steady.stopped⟩⟩
  · exact ⟨(steady.booked restarting).disjoint, (steady.booked restarting).union⟩
  · exact ⟨(steady.booked (begins underway)).disjoint, (steady.booked (begins underway)).union⟩
  · simp only [begins underway, reduceCtorEq] at idle
  · have waiting := steady.waiting (begins underway)
    simp [begins underway, waiting, expiry]

theorem Steady.cleared (steady : Steady gc) : Steady { gc with out := [] } :=
  (idle_step (e := .t316) steady gc.t316 rfl id rfl ⟨fun _ => rfl, trivial⟩).1

end Step

end Vstuff.Q931.Global
