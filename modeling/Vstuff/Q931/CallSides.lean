import Vstuff.Q931.CallProcess

/-! The side of a call and its answers in the null state: which branches take a
call from the states of one side to those of the other, and which answer a message
both by clearing the call and by a STATUS. -/
namespace Vstuff.Q931.Call
open Transition
open Lapd (IntfRole)
set_option linter.all false

/-! ## Sides -/

/-- The messages no call expects in the null state. -/
def unexpectedInNull : Branch → Bool
  | .handleAlerting _ _ | .handleCallProceeding _ _ | .handleConnect _ _ | .handleConnectAcknowledge
  | .handleProgress _ _ | .handleSetupAcknowledge _ _ | .handleDisconnect _ | .handleInfo _
  | .handleResumeAcknowledge | .handleResumeReject | .handleSuspend _ | .handleSuspendAcknowledge
  | .handleSuspendReject => true
  | _ => false

/-- The branches that take a call to the other side: a STATUS that is handled and
says that the peer of a terminal has no call, the last enquiry of a terminal that
is not answered, the data link of an active terminal lost for a second time, and a
message a terminal does not expect in the null state. -/
def swapsSide (state : State) (handled : Bool) : Branch → Bool
  | .handleStatus .null _ _ => handled && state.isUser && state != .u0 && state != .u19
  | .timerT322 received given => state.isUser && state != .u0 && !received && given
  | .dlReleaseIndication _ t309 => state == .u10 && t309
  | .handleResume _ => state == .u0
  | branch => state == .u0 && unexpectedInNull branch

/-- So would two others that do not happen: the network side does not start T319,
and a call made for a message is in the null state. -/
def wouldSwapSide (state : State) : Branch → Bool
  | .timerT319 => state == .n15
  | .unknownMessage => !state.isUser && state != .n0
  | _ => false

theorem side_kept_iff : ∀ (branch : Branch) (state : State) (handled : Bool),
    (lastState state (reached handled (branch.acts state))).isUser = state.isUser ↔
      swapsSide state handled branch = false ∧ wouldSwapSide state branch = false := by
  have checked : ∀ (branch : Branch) (state : State) (handled : Bool),
      ((lastState state (reached handled (branch.acts state))).isUser == state.isUser) =
        !(swapsSide state handled branch || wouldSwapSide state branch) := by
    intro branch state
    revert branch
    cases state
    all_goals decide +kernel
  intro branch state handled
  rw [← beq_iff_eq, checked branch state handled, Bool.not_eq_true', Bool.or_eq_false_iff]

/-- A message that is not known in the null state of the network. -/
example : swapsSide .n0 true .unrecognizedMessage = false := by decide +kernel

/-! ## Answers in the null state -/

/-- The messages that clear a call. -/
def clears : MessageType → Bool
  | .release | .releaseComplete => true
  | _ => false

/-- At most one message clears the call, and then no STATUS is sent. -/
def Answered (sent : List MessageType) : Prop :=
  sent.countP clears ≤ 1 ∧ (sent.any clears → .status ∉ sent)

instance (sent : List MessageType) : Decidable (Answered sent) := inferInstanceAs (Decidable (_ ∧ _))

/-- A decoded message is reported by a STATUS. -/
def reported (judgement : Judgement) : Bool := judgement.sent.any (·.type == .status)

def State.isNull (state : State) : Bool := state == .u0 || state == .n0

/-- The branches that clear the call once its elements are decoded. -/
def clearsDecoded : Branch → Bool
  | .handleSetup _ found => !found
  | .handleStatus .other _ _ => true
  | _ => false

/-- The branches that clear the call when its elements are not in order. -/
def clearsRefused : Branch → Bool
  | .handleSetup _ _ => true
  | _ => false

/-- The branches that answer twice: a message the network side does not expect or
does not know in the null state, and a SETUP or STATUS that is reported and
clears the call as well. -/
def answersTwice (state : State) (judgement : Judgement) (branch : Branch) : Bool :=
  state == .n0 && (unexpectedInNull branch || branch == .unrecognizedMessage) ||
  reported judgement && if judgement.handled then clearsDecoded branch else clearsRefused branch

/-- In the null state the elements are decoded first, if they are. -/
theorem decode_is_first : ∀ (branch : Branch) (state : State), state.isNull →
    (Act.decode ∉ branch.acts state ∨
      branch.acts state = .decode :: (branch.acts state).tail ∧ Act.decode ∉ (branch.acts state).tail) := by
  intro branch state
  revert branch
  cases state
  all_goals decide +kernel

theorem sends_decoded_null : ∀ (branch : Branch) (state : State), state.isNull → Act.decode ∈ branch.acts state →
    (sends (branch.acts state)).length ≤ 1 ∧ ((sends (branch.acts state)).any clears → clearsDecoded branch) := by
  intro branch state
  revert branch
  cases state
  all_goals decide +kernel

theorem sends_plain_null : ∀ (branch : Branch) (state : State), state.isNull → Act.decode ∉ branch.acts state →
    !(state == .n0 && (unexpectedInNull branch || branch == .unrecognizedMessage)) →
      Answered (sends (branch.acts state)) := by
  intro branch state
  revert branch
  cases state
  all_goals decide +kernel

/-- What is sent about the elements of a message: STATUS messages, and the refusal
if it is not handled. -/
theorem judged_types (location : Nat) (messageType : UInt8) (ds : DecoderStatus Content) :
    ∃ k, (callJudge location messageType ds).sent.map (·.type) = List.replicate k .status ++
      if (callJudge location messageType ds).handled then [] else (refusal messageType).toList := by
  have harmless : ∀ (first second : Prop) [Decidable first] [Decidable second] (a b : Report),
      a.type = .status → b.type = .status →
        ∃ k, ((if first then [] else [a]) ++ (if second then [] else [b])).map (·.type) = List.replicate k .status := by
    intro first second _ _ a b quiet quieter
    by_cases first <;> by_cases second
    · exact ⟨0, by simp [*]⟩
    · exact ⟨1, by simp [*]⟩
    · exact ⟨1, by simp [*]⟩
    · exact ⟨2, by simp [*, List.replicate]⟩
  unfold callJudge
  cases refuses : refusal messageType with
  | none =>
    simp only [Option.map_none, ite_self, Option.toList_none, List.append_nil]
    exact harmless _ _ _ _ rfl rfl
  | some type =>
    simp only [Option.map_some, Option.toList_some]
    by_cases missing : ds.mandatoryIes = []
    · by_cases invalid : ds.invalidMandIes = []
      · obtain ⟨k, same⟩ := harmless (ds.invalidAccessIes = []) (ds.invalidOptIes = [])
          (report location .status accessInformationDiscarded ds.invalidAccessIes)
          (report location .status invalidInformationElementContents ds.invalidOptIes) rfl rfl
        refine ⟨k, ?_⟩
        by_cases unknown : ds.unrecognizedIes = []
        · simpa [missing, invalid, unknown] using same
        · simp only [missing, invalid, unknown, if_true, if_false]
          rw [List.map_append, same]
          rfl
      · exact ⟨0, by simp [missing, invalid, report]⟩
    · exact ⟨0, by simp [missing, report]⟩

/-- Nothing but a SETUP is both decoded in the null state and answered by another
message than a STATUS when it is refused. -/
theorem dispatched_null {call : Process} {env : Env} {msg : Received} (null : call.state.isNull)
    (decodes : Act.decode ∈ (dispatchMessage call env msg).acts call.state)
    (refuses : refusal msg.type ≠ some .status) :
    ∃ digits found, dispatchMessage call env msg = .handleSetup digits found := by
  by_cases setup : msg.type = MessageType.setup.code
  · exact ⟨hasDigits msg.ies, env.found, by rw [dispatchMessage, setup]; rfl⟩
  · exfalso
    have clearing : ∀ broadcastSetup state, State.isNull state →
        Act.decode ∉ Branch.acts state (.handleDisconnect broadcastSetup) ∧
        Act.decode ∉ Branch.acts state (.handleRelease broadcastSetup) ∧
        Act.decode ∉ Branch.acts state (.handleReleaseComplete broadcastSetup) := by
      decide +kernel
    obtain ⟨disconnect, release, complete⟩ := clearing call.broadcastSetup call.state null
    unfold refusal at refuses
    split_ifs at refuses with first second
    · rcases first with isSetup | isRelease
      · exact setup isSetup
      · rw [dispatchMessage, isRelease] at decodes
        exact release decodes
    · rcases second with isDisconnect | isComplete
      · rw [dispatchMessage, isDisconnect] at decodes
        exact disconnect decodes
      · rw [dispatchMessage, isComplete] at decodes
        exact complete decodes
    · exact refuses rfl

theorem judgement_null {call : Process} {env : Env} {e : Event} (null : call.state.isNull)
    (decodes : Act.decode ∈ (choose call env e).acts call.state) :
    ∃ k refused, e.judgement.sent.map (·.type) = List.replicate k .status ++
        (if e.judgement.handled then [] else refused) ∧ refused.length ≤ 1 ∧
      (refused.any clears → clearsRefused (choose call env e)) := by
  have judged : ∀ msg : Received, ∃ k, msg.judgement.sent.map (·.type) = List.replicate k .status ++
      if msg.judgement.handled then [] else (refusal msg.type).toList :=
    fun msg => judged_types msg.location msg.type msg.ds
  have short : ∀ type, (refusal type).toList.length ≤ 1 := fun type => Option.length_toList_le
  have status : ∀ {type}, refusal type = some .status → ¬ (refusal type).toList.any clears := by
    intro type refuses
    rw [refuses]
    decide
  cases e with
  | message msg =>
    obtain ⟨k, types⟩ := judged msg
    refine ⟨k, _, types, short _, fun clearing => ?_⟩
    by_cases refuses : refusal msg.type = some .status
    · exact absurd clearing (status refuses)
    · obtain ⟨digits, found, same⟩ := dispatched_null null decodes refuses
      simp only [choose, same, clearsRefused]
  | unknown toOriginating msg =>
    obtain ⟨k, types⟩ := judged msg
    refine ⟨k, _, types, short _, fun clearing => ?_⟩
    by_cases refuses : refusal msg.type = some .status
    · exact absurd clearing (status refuses)
    · simp only [choose, receiveUnknown] at decodes ⊢
      split_ifs at decodes ⊢
      · simp [Branch.acts] at decodes
      · simp [Branch.acts] at decodes
      · simp [Branch.acts] at decodes
      · obtain ⟨digits, found, same⟩ := dispatched_null null decodes refuses
        simp only [same, clearsRefused]
      · obtain ⟨digits, found, same⟩ := dispatched_null null decodes refuses
        simp only [same, clearsRefused]
      · simp [Branch.acts] at decodes
  | _ => exact ⟨0, [], rfl, by decide, by simp⟩

theorem answered_reports {k : Nat} {sent : List MessageType} (answered : Answered sent)
    (alone : k = 0 ∨ sent.any clears = false) : Answered (List.replicate k .status ++ sent) := by
  obtain ⟨once, silent⟩ := answered
  have quiet : (List.replicate k MessageType.status).countP clears = 0 :=
    List.countP_eq_zero.mpr fun type member => by rw [List.eq_of_mem_replicate member]; decide
  refine ⟨by rw [List.countP_append, quiet, Nat.zero_add]; exact once, fun cleared => ?_⟩
  rcases alone with rfl | nothing
  · exact silent cleared
  · rw [List.any_append, nothing, Bool.or_false] at cleared
    obtain ⟨type, member, clearing⟩ := List.any_eq_true.mp cleared
    rw [List.eq_of_mem_replicate member] at clearing
    cases clearing

theorem answered_short {sent : List MessageType} (short : sent.length ≤ 1) : Answered sent := by
  match sent, short with
  | [], _ => decide
  | [type], _ => cases type <;> decide

/-- A call in the null state answers once, but for the branches that do not. -/
theorem answered_null {call : Process} {env : Env} {e : Event} (null : call.state.isNull)
    (once : answersTwice call.state e.judgement (choose call env e) = false) :
    Answered (sends (respond call env e)) := by
  obtain ⟨expected, silent⟩ := (Bool.or_eq_false_iff).mp once
  rcases decode_is_first (choose call env e) call.state null with plain | ⟨first, rest⟩
  · rw [respond, decoded_of_no_decode plain]
    exact sends_plain_null _ _ null plain (by rw [expected]; rfl)
  · have decodes : Act.decode ∈ (choose call env e).acts call.state := by
      rw [first]
      exact List.mem_cons_self ..
    obtain ⟨k, refused, types, short, clearing⟩ := judgement_null null decodes
    have tail := sends_decoded_null _ _ null decodes
    have split : sends (respond call env e) = List.replicate k .status ++
        if e.judgement.handled then sends ((choose call env e).acts call.state) else refused := by
      rw [respond, first, decoded, sends_append, sends_reports, types, List.append_assoc]
      split_ifs with handled
      · rw [List.nil_append, decoded_of_no_decode rest]
        rfl
      · rw [sends, List.append_nil]
    rw [split]
    -- a STATUS in front of it would have been seen by the condition
    have alone : ∀ sent : List MessageType, sent.length ≤ 1 →
        (sent.any clears → reported e.judgement = false) → Answered (List.replicate k .status ++ sent) := by
      intro sent one unreported
      refine answered_reports (answered_short one) ?_
      cases cleared : sent.any clears with
      | false => exact .inr rfl
      | true =>
        refine .inl (Nat.eq_zero_of_not_pos fun positive => ?_)
        have member : MessageType.status ∈ e.judgement.sent.map (·.type) := by
          rw [types]
          exact List.mem_append_left _ (List.mem_replicate.mpr ⟨by omega, rfl⟩)
        obtain ⟨report, there, isStatus⟩ := List.mem_map.mp member
        have : reported e.judgement := List.any_eq_true.mpr ⟨report, there, by rw [isStatus]; rfl⟩
        rw [unreported cleared] at this
        cases this
    split_ifs at silent ⊢ with handled
    · refine alone _ tail.1 fun cleared => ?_
      rw [tail.2 cleared, Bool.and_true] at silent
      exact silent
    · refine alone _ short fun cleared => ?_
      rw [clearing cleared, Bool.and_true] at silent
      exact silent

/-! ## Runs -/

/-- The null state of a side. -/
def nullState (role : IntfRole) : State := if role = .te then .u0 else .n0

/-- Where a call stands on its interface. -/
structure OnSide (role : IntfRole) (call : Process) : Prop where
  side : call.state.isUser = decide (role = .te)
  t319 : call.pending .t319 → role = .te
  fresh : call.fresh → call.state = nullState role

/-- An event that neither takes the call to the other side nor is answered twice
in the null state. -/
def KeepsSide (call : Process) (e : Env × Event) : Prop :=
  swapsSide call.state e.2.judgement.handled (call.takes e) = false ∧
  (call.state.isNull → answersTwice call.state e.2.judgement (call.takes e) = false)

theorem alloc_onSide (role : IntfRole) (broadcastSetup tonesOption : Bool) :
    OnSide role (alloc role broadcastSetup tonesOption) where
  side := by cases role <;> rfl
  t319 := by rintro ⟨⟩
  fresh := fun _ => rfl

theorem not_wouldSwapSide_ofMessage : ∀ branch state, Branch.ofMessage branch → wouldSwapSide state branch = false := by
  intro branch state message
  unfold wouldSwapSide
  split
  · cases message
  · cases message
  · rfl

/-- The two that do not happen. -/
theorem not_wouldSwapSide {role : IntfRole} {call : Process} {env : Env} {e : Event} (placed : OnSide role call)
    (enabled : call.enabled e) : wouldSwapSide call.state (choose (call.ready e) env e) = false := by
  have network : call.state.isUser = false → role ≠ .te := by
    intro side isTe
    rw [placed.side, isTe] at side
    cases side
  have null : call.fresh → (!call.state.isUser && call.state != .n0) = false := by
    intro fresh
    rw [placed.fresh fresh]
    cases role <;> rfl
  cases e with
  | timer timer =>
    cases timer <;> try rfl
    show (call.state == .n15) = false
    refine Bool.eq_false_iff.mpr fun isN15 => ?_
    refine network ?_ (placed.t319 enabled)
    rw [beq_iff_eq.mp isN15]
    rfl
  | message msg => exact not_wouldSwapSide_ofMessage _ _ (dispatchMessage_ofMessage ..)
  | unknown toOriginating msg =>
    simp only [choose, receiveUnknown]
    split_ifs <;> first | rfl | exact not_wouldSwapSide_ofMessage _ _ (dispatchMessage_ofMessage ..) | exact null enabled
  | _ => rfl

theorem startsT319_user : ∀ (branch : Branch) (state : State) (handled : Bool),
    Act.start .t319 ∈ reached handled (branch.acts state) ∨ Act.restart .t319 ∈ reached handled (branch.acts state) →
      state.isUser := by
  intro branch state
  revert branch
  cases state
  -- there is nothing to look for on the user side
  all_goals first | exact fun _ _ _ => rfl | decide +kernel

/-- A clean event leaves the call where it belongs. -/
theorem step_onSide {role : IntfRole} {call next : Process} {e : Env × Event} (placed : OnSide role call)
    (clean : KeepsSide call e) (took : call.step e = some next) : OnSide role next := by
  obtain ⟨enabled, -, -⟩ := step_eq_some took
  refine ⟨?_, fun pending => ?_, fun fresh => ?_⟩
  · have kept := (side_kept_iff (call.takes e) call.state e.2.judgement.handled).mpr
      ⟨clean.1, not_wouldSwapSide placed enabled⟩
    rw [step_state took, Process.does, kept, placed.side]
  · rcases step_pending took pending with started | ⟨before, -, -⟩
    · have user := startsT319_user _ _ _ started
      rw [placed.side] at user
      exact of_decide_eq_true user
    · exact placed.t319 (ready_pending before)
  · rw [step_fresh took] at fresh
    cases fresh

/-- In a run of clean events a call on the user side stays in the U states and one
on the network side in the N states, and in the null state it answers with at
most one message that clears the call and then with no STATUS. -/
theorem side_and_answers_of_run {role : IntfRole} {broadcastSetup tonesOption : Bool} {es : List (Env × Event)}
    {call : Process} (run : Run Process.step KeepsSide (alloc role broadcastSetup tonesOption) es call) :
    call.state.isUser = decide (role = .te) ∧
    ∀ e next, KeepsSide call e → call.step e = some next → call.state.isNull → Answered next.sent := by
  have placed : OnSide role call := run.invariant (OnSide role) step_onSide (alloc_onSide ..)
  refine ⟨placed.side, fun e next clean took null => ?_⟩
  obtain ⟨-, -, rfl⟩ := step_eq_some took
  rw [perform_sent, ready_sent, List.nil_append]
  refine answered_null (by simpa using null) ?_
  rw [ready_state]
  exact clean.2 null

/-- A message without elements. -/
def bare (type : MessageType) (role : IntfRole) : Received where
  type := type.code
  location := 0
  ds := { mandatoryIes := mandatoryIes type.code role }

/-- A basic point-to-point access on which no channel is to be had. -/
def Env.idle : Env where
  basic := true
  multipoint := false
  enableBumping := false
  attached := false
  selected := false
  acquired := false
  found := false
  ableToProceed := false
  cesEmpty := true

theorem enquired_call_is_cleared_once :
    ∃ call next, Run Process.step KeepsSide (alloc .te false false) [(Env.idle, .statusEnquiryRequest true)] call ∧
      call.state.isUser = true ∧ call.step (Env.idle, .message (bare .release .te)) = some next ∧
      next.sent = [.releaseComplete] ∧ Answered next.sent := by
  have run : Run Process.step KeepsSide (alloc .te false false) [(Env.idle, .statusEnquiryRequest true)] _ :=
    .cons ⟨rfl, fun _ => rfl⟩ rfl (.nil _)
  obtain ⟨side, answers⟩ := side_and_answers_of_run run
  exact ⟨_, _, run, side, rfl, rfl, answers (Env.idle, .message (bare .release .te)) _ ⟨rfl, fun _ => rfl⟩ rfl rfl⟩

/-- An ALERTING for a call in the null state takes a terminal to the network side,
and is answered twice on the network side. -/
theorem alerting_swaps_side_and_is_answered_twice :
    (∃ next, (alloc .te false false).step (Env.idle, .message (bare .alerting .te)) = some next ∧
      next.state = .n19) ∧
    ∃ next, (alloc .nt false false).step (Env.idle, .message (bare .alerting .nt)) = some next ∧
      next.sent = [.release, .status] ∧ ¬ Answered next.sent :=
  ⟨⟨_, rfl, rfl⟩, ⟨_, rfl, rfl, by decide⟩⟩

end Vstuff.Q931.Call
