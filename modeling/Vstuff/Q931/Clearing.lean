import Vstuff.Q931.Party
import Vstuff.Q931.Supervision

/-! A broadcast call whose terminals have all gone is cleared: when one of them tells of
its release the others are looked at, and all of them when T312 expires. Whether one
can still proceed is read off the wrong enumeration. -/
namespace Vstuff.Q931.Call
open Transition
set_option linter.all false

/-- The states in which a broadcast call waits for its terminals. -/
def State.awaitsTerminals : State → Bool
  | .n7 | .n9 | .n25 => true
  | _ => false

/-- A terminal that cannot proceed any more. -/
def CesState.gone (state : CesState) : Bool := state == .i0 || state == .i19

/-- The call is cleared: its channel is released, the timer of its state stopped, it
goes to N0 and off the list, and the call control is told. -/
structure ClearedBy (call : Process) (acts : List Act) : Prop where
  channel : .release ∈ acts
  reference : .releaseReference ∈ acts
  told : .primitive .releaseIndication ∈ acts
  null : (call.perform acts).state = .n0
  stopped : ∀ timer ∈ call.state.timers, (call.perform acts).pending timer = false

/-- The call is cleared when none of the terminals can proceed, and else nothing is
done. -/
def ClearsWhenGone (call : Process) (ces : List Ces) (acts : List Act) : Prop :=
  if ces.all (·.state.gone) then ClearedBy call acts else acts = []

/-- Some terminal can proceed, or there is none and T304 is not forgotten. -/
def TerminalsTell (call : Process) (ces : List Ces) : Prop :=
  (ces = [] ∨ ∃ terminal ∈ ces, terminal.state.gone = false) ∧
  (call.state = .n25 → ces = [] → call.pending .t304 = false)

/-- The two states compared with are not states of a terminal. -/
theorem ableToProceed_always (ces : Ces) : ces.ableToProceed := by
  have never : ∀ state : CesState, (state.value != State.n0.value && state.value != State.n19.value) = true := by
    decide
  exact never ces.state

theorem any_ableToProceed (ces : List Ces) : ces.any Ces.ableToProceed = !ces.isEmpty := by
  cases ces with
  | nil => rfl
  | cons first rest => rw [List.any_cons, ableToProceed_always]; rfl

/-- What clears the call in the states that wait for terminals. -/
def clearing : State → List Act
  | .n7 => [.stop .t301, .release, .setState .n0, .releaseReference, .primitive .releaseIndication]
  | .n9 => [.stop .t310, .release, .releaseReference, .setState .n0, .primitive .releaseIndication]
  | _ => [.release, .setState .n0, .releaseReference, .primitive .releaseIndication]

/-- The same acts, in the order T312 has them in. -/
def clearingOnT312 : State → List Act
  | .n9 => [.stop .t310, .release, .setState .n0, .releaseReference, .primitive .releaseIndication]
  | state => clearing state

theorem clearedBy_clearing {call : Process} {acts : List Act} (waits : call.state.awaitsTerminals)
    (clears : acts = clearing call.state ∨ acts = clearingOnT312 call.state) :
    ClearedBy call acts ↔ (call.state = .n25 → call.pending .t304 = false) := by
  have does : ∀ (state : State), state.awaitsTerminals → ∀ acts, acts = clearing state ∨ acts = clearingOnT312 state →
      .release ∈ acts ∧ .releaseReference ∈ acts ∧ .primitive .releaseIndication ∈ acts ∧ lastState state acts = .n0 ∧
      ∀ timer ∈ state.timers, ∀ pending, runs timer pending acts = (state == .n25 && pending) := by
    rintro state waits acts (rfl | rfl) <;> revert state <;> decide
  obtain ⟨channel, reference, told, null, kept⟩ := does call.state waits acts clears
  constructor
  · intro cleared overlap
    have supervised : Timer.t304 ∈ call.state.timers := by rw [overlap]; decide
    have stopped := cleared.stopped .t304 supervised
    rw [perform_runs, kept .t304 supervised, overlap] at stopped
    exact stopped
  · intro quiet
    refine ⟨channel, reference, told, by rw [perform_state]; exact null, fun timer member => ?_⟩
    rw [perform_runs, kept timer member]
    cases overlap : call.state == .n25 with
    | false => rfl
    | true =>
      have state : call.state = .n25 := beq_iff_eq.mp overlap
      have only : ∀ timer ∈ State.n25.timers, timer = .t304 := by decide
      rw [state] at member
      rw [only timer member]
      exact quiet state

/-- Whether the call is cleared as it should be, when it is cleared just if there is no
terminal. -/
theorem clearsWhenGone_iff {call : Process} {ces : List Ces} {acts : List Act} (waits : call.state.awaitsTerminals)
    (clears : ces = [] → acts = clearing call.state ∨ acts = clearingOnT312 call.state) (kept : ces ≠ [] → acts = []) :
    ClearsWhenGone call ces acts ↔ TerminalsTell call ces := by
  unfold ClearsWhenGone TerminalsTell
  by_cases none : ces = []
  · subst none
    rw [if_pos List.all_nil, clearedBy_clearing waits (clears rfl)]
    simp
  · rw [kept none]
    have uncleared : ¬ ClearedBy call [] := fun cleared => nomatch cleared.channel
    cases gone : ces.all (·.state.gone) with
    | true =>
      rw [if_pos rfl]
      have unable : ∀ terminal ∈ ces, terminal.state.gone = true := List.all_eq_true.mp gone
      constructor
      · exact fun cleared => absurd cleared uncleared
      · rintro ⟨empty | ⟨terminal, member, able⟩, -⟩
        · exact absurd empty none
        · rw [unable terminal member] at able
          cases able
    | false =>
      rw [if_neg nofun]
      obtain ⟨terminal, member, able⟩ := List.all_eq_false.mp gone
      exact ⟨fun _ => ⟨.inr ⟨terminal, member, Bool.eq_false_iff.mpr able⟩, fun _ empty => absurd empty none⟩, fun _ => rfl⟩

/-! ## A terminal tells of its release -/

section
variable {p : Party} {s : Setting}

/-- What the call does when a terminal tells of its release. -/
def Party.toldOfRelease (p : Party) (s : Setting) (id : Nat) : List Act :=
  respond p.call (Party.env s (p.terminals.others id)) .intReleaseIndication

/-- What it does when T312 expires. -/
def Party.onT312 (p : Party) (s : Setting) : List Act :=
  respond (p.call.ready (.timer .t312)) (Party.env s p.terminals.ces) (.timer .t312)

/-- Acts that do not concern the terminals. -/
theorem perform_clearing {call322 : Bool} {current : Option Nat} (terminals : Terminals) {state : State}
    {acts : List Act} (clears : acts = [] ∨ acts = clearing state ∨ acts = clearingOnT312 state) :
    terminals.perform s call322 current acts = terminals := by
  rcases clears with rfl | rfl | rfl
  · rfl
  · cases state <;> rfl
  · cases state <;> rfl

theorem toldOfRelease_eq {id : Nat} (waits : p.call.state.awaitsTerminals) (idle : p.call.pending .t312 = false) :
    p.toldOfRelease s id = if p.terminals.others id = [] then clearing p.call.state else [] := by
  have acts : ∀ (state : State) (able preselected : Bool), state.awaitsTerminals →
      intReleaseIndication state able preselected false = if able then [] else clearing state := by decide
  have plain : ∀ state : State, Act.decode ∉ clearing state := by decide
  rw [Party.toldOfRelease, respond, choose, Branch.acts, idle, acts _ _ _ waits, Party.env, any_ableToProceed]
  cases p.terminals.others id with
  | nil => exact decoded_of_no_decode (plain _)
  | cons first rest => rfl

theorem onT312_eq (waits : p.call.state.awaitsTerminals) :
    p.onT312 s = if p.terminals.ces = [] then clearingOnT312 p.call.state else [] := by
  have acts : ∀ (state : State) (able empty sent : Bool), state.awaitsTerminals →
      timerT312 state able empty sent = if able then [] else clearingOnT312 state := by decide
  have plain : ∀ state : State, Act.decode ∉ clearingOnT312 state := by decide
  rw [Party.onT312, respond, choose, expire, Branch.acts, ready_state, acts _ _ _ _ waits, Party.env, any_ableToProceed]
  cases p.terminals.ces with
  | nil => exact decoded_of_no_decode (plain _)
  | cons first rest => rfl

/-- The call is all that changes. -/
theorem handle_clearing {current : Option Nat} {ces : List Ces} {e : Event}
    (clears : respond p.call (Party.env s ces) e = [] ∨ respond p.call (Party.env s ces) e = clearing p.call.state ∨
      respond p.call (Party.env s ces) e = clearingOnT312 p.call.state) :
    p.handle s current ces e = some { p with
      call := p.call.perform (respond p.call (Party.env s ces) e)
      did := p.did ++ respond p.call (Party.env s ces) e } := by
  have present : Act.absentIe ∉ respond p.call (Party.env s ces) e := by
    have plain : ∀ state : State, Act.absentIe ∉ clearing state ∧ Act.absentIe ∉ clearingOnT312 state := by decide
    rcases clears with same | same | same
    · rw [same]; exact List.not_mem_nil
    · rw [same]; exact (plain p.call.state).1
    · rw [same]; exact (plain p.call.state).2
  rw [Party.handle, if_neg present, perform_clearing _ clears]

end

/-- A broadcast call in N7, N9 or N25 is cleared when no other terminal can proceed, and
left as it is otherwise, exactly if there is no other terminal or one that can; and
T304 must not run in N25. -/
theorem clears_when_gone_iff (p : Party) (s : Setting) (waits : p.call.state.awaitsTerminals) :
    (∀ id, p.call.pending .t312 = false →
      p.indicate s id .release = some { p with
        call := p.call.perform (p.toldOfRelease s id)
        did := p.did ++ p.toldOfRelease s id } ∧
      (ClearsWhenGone p.call (p.terminals.others id) (p.toldOfRelease s id) ↔
        TerminalsTell p.call (p.terminals.others id))) ∧
    let ready := p.ready (.call s none (.timer .t312))
    ready.take (.call s none (.timer .t312)) = some { ready with
      call := ready.call.perform (p.onT312 s)
      did := p.onT312 s } ∧
    (ClearsWhenGone ready.call p.terminals.ces (p.onT312 s) ↔ TerminalsTell ready.call p.terminals.ces) := by
  refine ⟨fun id idle => ⟨?_, ?_⟩, ?_, ?_⟩
  · have silent : ¬ (Indication.release = .release ∧ p.call.state = .n8) := by
      rintro ⟨-, connected⟩
      rw [connected] at waits
      cases waits
    have acts : p.toldOfRelease s id = _ := toldOfRelease_eq waits idle
    rw [Party.indicate, if_neg silent]
    refine handle_clearing ?_
    by_cases alone : p.terminals.others id = []
    · rw [if_pos alone] at acts
      exact .inr (.inl acts)
    · rw [if_neg alone] at acts
      exact .inl acts
  · refine clearsWhenGone_iff waits (fun alone => .inl ?_) fun others => ?_
    · rw [toldOfRelease_eq waits idle, if_pos alone]
    · rw [toldOfRelease_eq waits idle, if_neg others]
  · have acts := onT312_eq (s := s) waits
    refine handle_clearing ?_
    by_cases alone : p.terminals.ces = []
    · rw [if_pos alone] at acts
      exact .inr (.inr acts)
    · rw [if_neg alone] at acts
      exact .inl acts
  · refine clearsWhenGone_iff waits (fun alone => .inr ?_) fun others => ?_
    · rw [onT312_eq waits, if_pos alone]
      rfl
    · rw [onT312_eq waits, if_neg others]

/-- The network side calls, one terminal rings, and T312 has expired. -/
theorem only_terminal_clears :
    ∃ p, follow Party.step Any (.alloc .nt false false none)
        [.call (.on 0 0) none .setupRequest, .message (.on 1 1) (bare .alerting .nt),
          .call (.on 0 0) none (.timer .t312)] = some p ∧
      p.call.state = .n7 ∧ ClearsWhenGone p.call (p.terminals.others 1) (p.toldOfRelease (.on 1 0) 1) := by
  refine ⟨_, rfl, rfl, ((clears_when_gone_iff _ (.on 1 0) ?_).1 1 ?_).2.mpr ⟨.inl ?_, nofun⟩⟩
  · decide
  · decide
  · rfl

/-- The call waits on when the other terminal has been released; and T304 runs on when
the call is cleared in N25. -/
theorem released_terminal_keeps_the_call :
    (∃ p, follow Party.step Any (.alloc .nt false false none)
        [.call (.on 0 0) none .setupRequest, .message (.on 1 1) (bare .alerting .nt),
          .message (.on 2 2) (bare .alerting .nt), .call (.on 0 0) none (.timer .t312),
          .message (.on 1 0) (bare .disconnect .nt)] = some p ∧
      p.call.state = .n7 ∧ p.toldOfRelease (.on 2 0) 2 = [] ∧
      ¬ ClearsWhenGone p.call (p.terminals.others 2) (p.toldOfRelease (.on 2 0) 2)) ∧
    ∃ p, follow Party.step Any (.alloc .nt false false none)
        [.call (.on 0 0) none .setupRequest, .message (.on 1 1) (bare .setupAcknowledge .nt),
          .call (.on 0 0) none (.timer .t312)] = some p ∧
      p.call.state = .n25 ∧ (p.call.perform (p.toldOfRelease (.on 1 0) 1)).pending .t304 = true ∧
      ¬ ClearsWhenGone p.call (p.terminals.others 1) (p.toldOfRelease (.on 1 0) 1) := by
  refine ⟨⟨_, rfl, rfl, rfl, fun claim => ?_⟩, ⟨_, rfl, rfl, rfl, fun claim => ?_⟩⟩
  · exact nomatch ClearedBy.channel claim
  · exact absurd (ClearedBy.stopped claim .t304 (by decide)) (by decide)

end Vstuff.Q931.Call
