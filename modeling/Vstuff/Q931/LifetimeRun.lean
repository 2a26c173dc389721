import Vstuff.Q931.Lifetime

/-! The terminals of a call over a run: a terminal tells the call what it does, the call may free it
then, and in an orderly run no timer of it is running. -/
namespace Vstuff.Q931.Call
open Transition
open Lapd (IntfRole)
set_option linter.all false

namespace Party
variable {p q : Party} {s : Setting} {current : Option Nat} {ces : List Ces} {e : Event} {touched : List Act} {ordered settled : Prop}

/-! ## What a terminal tells -/

theorem Kept.broadcast {id : Nat} (kept : p.Kept ordered settled) (here : id ∈ p.terminals.ids) : p.call.broadcastSetup := by
  by_contra off
  obtain ⟨ces, member, -⟩ := Terminals.mem_ids.mp here
  rw [kept.alone (Bool.not_eq_true _ ▸ off)] at member
  cases member

/-- The pointer to the preselected terminal is not astray in N8. -/
theorem Kept.looked {id : Nat} (kept : p.Kept ordered settled) (here : id ∈ p.terminals.ids) (waits : p.call.state = .n8) :
    ({ p with terminals := p.terminals.look p.terminals.preselected } : Party).Kept ordered settled := by
  obtain ⟨-, chosen, member, pointer⟩ := kept.chosen waits (kept.broadcast here)
  obtain ⟨terminal, found⟩ := find_of_mem member
  have same : (p.terminals.look p.terminals.preselected).astray = p.terminals.astray := by
    simp [Terminals.look, pointer, found]
  exact { kept with straight := fun steps => same.trans (kept.straight steps) }

theorem Kept.indicate {id : Nat} {indication : Indication} (kept : p.Kept ordered settled) (fresh : s.fresh.id ∉ p.terminals.ids)
    (here : id ∈ p.terminals.ids) (connects : indication = .connect → p.Each fun ces => ces.id = id → ces.state = .i8)
    (frees : indication = .releaseComplete → p.call.state.frees →
      (ordered → p.Each fun ces => ces.id = id → ces.Idle) ∧ (p.call.state = .n8 → p.terminals.preselected ≠ some id))
    (done : p.indicate s id indication = some q) : q.Kept ordered settled := by
  have broadcast := kept.broadcast here
  have handles {m : Party} (ready : m.Kept ordered settled) (call : m.call = p.call) (ces : m.terminals.ces = p.terminals.ces)
      (pointer : m.terminals.preselected = p.terminals.preselected)
      (done : m.handle s (some id) (p.terminals.others id) indication.event = some q) : q.Kept ordered settled := by
    have ids : m.terminals.ids = p.terminals.ids := congrArg (List.map Ces.id) ces
    have each {P : Ces → Prop} (held : p.Each P) : m.Each P := by
      rw [Each, ces]
      exact held
    refine ready.handle (ids ▸ fresh) ?_ done
    refine ⟨fun selected told => ?_, fun able preselected t312 told => ?_, fun empty sent told frees' other same => ?_, fun told => ?_⟩
    · have connect : indication = .connect := by cases indication <;> first | rfl | cases told
      exact ⟨call ▸ broadcast, id, ids ▸ here, rfl, each (connects connect)⟩
    · exact call ▸ broadcast
    · have complete : indication = .releaseComplete := by cases indication <;> first | rfl | cases told
      obtain rfl := Option.some.inj same
      rw [call] at frees' ⊢
      rw [pointer]
      exact (frees complete frees').imp_left fun idle steps => each (idle steps)
    · cases indication <;> cases told
  dsimp only [Party.indicate] at done
  split at done
  · rename_i releases
    exact handles (kept.looked here releases.2) rfl rfl rfl done
  · exact handles kept rfl rfl rfl done

/-- The call leaves N8 when a terminal tells of its release. -/
theorem Kept.leaves {id : Nat} (kept : p.Kept ordered settled) (here : id ∈ p.terminals.ids)
    (done : p.indicate s id .release = some q) : q.call.state ≠ .n8 := by
  have leaves : ∀ (state : State) (able preselected t312 : Bool), (state = .n8 → preselected) →
      lastState state (intReleaseIndication state able preselected t312) ≠ .n8 := by decide
  obtain ⟨env, same⟩ := indicate_state done
  rw [same]
  exact leaves p.call.state _ _ _ fun waits => (kept.chosen waits (kept.broadcast here)).1

/-- It does not come to it when a terminal tells of the end of its release. -/
theorem indicate_releaseComplete_state {id : Nat} (other : p.call.state ≠ .n8)
    (done : p.indicate s id .releaseComplete = some q) : q.call.state ≠ .n8 := by
  have stays : ∀ (state : State) (empty sent : Bool), state ≠ .n8 →
      lastState state (intReleaseCompleteIndication state empty sent) ≠ .n8 := by decide
  obtain ⟨env, same⟩ := indicate_state done
  rw [same]
  exact stays p.call.state _ _ other

/-! ## What a terminal does -/

/-- The handler ends the terminal, if it does, with no timer running: it is not released again
because the call is in N8, and the timers that it does not stop are not running. -/
def EndsIdle (p : Party) (terminal : Ces) (branch : CesBranch) : Prop :=
  .releaseComplete ∈ branch.told terminal.state → p.call.state.frees →
    (p.call.state = .n8 → terminal.state = .i19) ∧
      (CesAct.stopAny ∈ branch.own terminal.state ∨
        terminal.pending .t322 = false ∧ (terminal.state = .i19 ∨ terminal.pending .t308 = false))

theorem Kept.settle (kept : p.Kept ordered settled) (other : p.call.state ≠ .n8) : p.Kept ordered True :=
  { kept with waits := fun _ waits => absurd waits other }

theorem cesHandle_refused {terminal : Ces} {judgement : Judgement} {branch : CesBranch}
    (decodes : branch.decodes terminal.state) (refused : judgement.handled = false)
    (done : p.cesHandle s terminal judgement branch = some q) :
    ∃ sent, q = { p with call := { p.call with sent := sent } } := by
  rw [cesHandle, acts_split, if_pos decodes, List.append_assoc, List.singleton_append, cesDecoded, cesPerform_append,
    cesPerform_reports, Option.bind_some, refused, if_neg Bool.false_ne_true] at done
  exact ⟨_, (Option.some.inj done).symm⟩

/-- A terminal acts by itself. -/
def acted (sent : List MessageType) (terminal : Ces) (branch : CesBranch) (p : Party) : Party :=
  { p with
    call := { p.call with sent := sent }
    terminals := p.terminals.update terminal.id (·.perform (branch.own terminal.state)) }

section Acted
variable {terminal : Ces} {branch : CesBranch} {sent : List MessageType}

/-- The terminal as it is then. -/
theorem acted_this (ids : p.terminals.ids.Nodup) (here : terminal ∈ p.terminals.ces) :
    (p.acted sent terminal branch).Each fun ces =>
      ces.id = terminal.id → ces = terminal.perform (branch.own terminal.state) := by
  intro ces member this
  obtain ⟨-, other⟩ | ⟨before, old, same, rfl⟩ := Terminals.mem_update.mp member
  · exact absurd this other
  · rw [eq_of_id ids here old same]

theorem acted_ids : (p.acted sent terminal branch).terminals.ids = p.terminals.ids :=
  Terminals.ids_update fun ces => ces.perform_id _

/-- What it does by itself. -/
theorem Kept.acted (kept : p.Kept ordered True) (ids : p.terminals.ids.Nodup) (here : terminal ∈ p.terminals.ces)
    (handler : branch.isHandler) (after : branch.after terminal.watch) :
    (p.acted sent terminal branch).Kept ordered (.release ∉ branch.told terminal.state) := by
  obtain ⟨timely, connected, -⟩ := handler_leaves branch terminal.state _ _ _ handler after
  rw [← Ces.watch, ← watch_perform] at timely connected
  refine {
    timely := fun ces member => ?_
    chosen := fun waits broadcast => ?_
    waits := fun steady waits broadcast ces member pointer => ?_
    alone := fun off => ?_
    aborted := kept.aborted
    freed := kept.freed
    straight := kept.straight }
  · obtain ⟨old, -⟩ | ⟨before, old, same, rfl⟩ := Terminals.mem_update.mp member
    · exact kept.timely ces old
    · rw [eq_of_id ids here old same]
      exact timely (kept.timely terminal here)
  · rw [acted_ids]
    exact kept.chosen waits broadcast
  · obtain ⟨old, -⟩ | ⟨before, old, same, rfl⟩ := Terminals.mem_update.mp member
    · exact kept.waits trivial waits broadcast ces old pointer
    · rw [Ces.perform_id] at pointer
      have at8 := kept.waits trivial waits broadcast before old pointer
      rw [eq_of_id ids here old same] at at8 ⊢
      exact connected at8 steady
  · have none : p.terminals.ces = [] := kept.alone off
    simp [Party.acted, Terminals.update, none]

/-- Its timers if it is about to end. -/
theorem Kept.acted_idle (kept : p.Kept ordered True) (ids : p.terminals.ids.Nodup) (here : terminal ∈ p.terminals.ces)
    (handler : branch.isHandler) (after : branch.after terminal.watch) (told : .releaseComplete ∈ branch.told terminal.state)
    (stopped : CesAct.stopAny ∈ branch.own terminal.state ∨
      terminal.pending .t322 = false ∧ (terminal.state = .i19 ∨ terminal.pending .t308 = false)) :
    (p.acted sent terminal branch).Each fun ces => ces.id = terminal.id → ces.Idle := by
  intro ces member this
  rw [acted_this ids here ces member this, idle_iff, watch_perform]
  obtain ⟨-, -, -, -, ended⟩ := handler_leaves branch terminal.state _ _ _ handler after
  exact ended (kept.timely terminal here) told stopped

end Acted

/-- The call releases its terminals when one of them tells of its release in N8, and does nothing to
them in another state. -/
theorem indicate_release_terminals {id : Nat} (done : p.indicate s id .release = some q) :
    q.terminals.ces = p.terminals.ces ∨ p.call.state = .n8 ∧
      q.terminals.ces = p.terminals.ces.map (Terminals.ask (p.call.pending .t322) .release) := by
  have table : ∀ (state : State) (able preselected t312 : Bool),
      (intReleaseIndication state able preselected t312).filter Act.concernsTerminals = [] ∨
      state = .n8 ∧ (intReleaseIndication state able preselected t312).filter Act.concernsTerminals = [.cesAll .release] := by
    decide
  obtain ⟨astray, touched, handled⟩ := indicate_some done
  have terminals := handled.terminals
  rcases table p.call.state (env s (p.terminals.others id)).ableToProceed p.call.preselected (p.call.pending .t312) with
    nothing | ⟨waits, all⟩
  · rw [handled.reaches.trans nothing] at terminals
    exact .inl (by rw [terminals]; rfl)
  · rw [handled.reaches.trans all, Terminals.perform_all] at terminals
    exact .inr ⟨waits, by rw [terminals]⟩

theorem indicate_release_frees {id : Nat} (done : p.indicate s id .release = some q) (frees : q.call.state.frees) :
    p.call.state.frees := by
  have table : ∀ (state : State) (able preselected t312 : Bool),
      (lastState state (intReleaseIndication state able preselected t312)).frees → state.frees := by decide
  obtain ⟨env, same⟩ := indicate_state done
  rw [same] at frees
  exact table p.call.state _ _ _ frees

/-- A terminal that tells of its release stays as idle as it is, if the call does not release it
again. -/
theorem indicate_release_idle {id : Nat} (idle : p.Each fun ces => ces.id = id → ces.Idle)
    (released : p.call.state = .n8 → p.Each fun ces => ces.id = id → ces.state = .i19)
    (done : p.indicate s id .release = some q) : q.Each fun ces => ces.id = id → ces.Idle := by
  rcases indicate_release_terminals done with same | ⟨waits, asked⟩
  · rw [Each, same]
    exact idle
  · rw [Each, asked]
    intro ces member this
    obtain ⟨before, old, rfl⟩ := List.mem_map.mp member
    rw [Terminals.ask, Ces.perform_id] at this
    have silent : (CesBranch.request (p.call.pending .t322) .release).acts before.state = [] := by
      rw [released waits before old this]
      rfl
    rw [Terminals.ask, silent]
    exact idle before old this

theorem indicate_release_ids {id : Nat} (done : p.indicate s id .release = some q) : q.terminals.ids = p.terminals.ids := by
  rcases indicate_release_terminals done with same | ⟨-, asked⟩
  · exact congrArg (List.map Ces.id) same
  · rw [Terminals.ids, asked, List.map_map]
    exact List.map_congr_left fun ces _ => Ces.perform_id _

/-- A handler of a terminal keeps the terminals. -/
theorem Kept.cesHandle {terminal : Ces} {judgement : Judgement} {branch : CesBranch} (kept : p.Kept ordered True)
    (distinct : p.Distinct s) (here : terminal ∈ p.terminals.ces) (handler : branch.isHandler)
    (after : branch.after terminal.watch)
    (ends : ordered → (branch.decodes terminal.state → judgement.handled) → p.EndsIdle terminal branch)
    (done : p.cesHandle s terminal judgement branch = some q) : q.Kept ordered True := by
  by_cases refused : branch.decodes terminal.state ∧ judgement.handled = false
  · obtain ⟨sent, rfl⟩ := cesHandle_refused refused.1 refused.2 done
    exact { kept with }
  replace ends (steps : ordered) := ends steps fun decodes => Bool.of_not_eq_false fun off => refused ⟨decodes, off⟩
  obtain ⟨sent, ⟨decodes, off, -⟩ | tells⟩ := cesHandle_some done
  · exact absurd ⟨decodes, off⟩ refused
  change (p.acted sent terminal branch).tell s terminal.id (branch.told terminal.state) = some q at tells
  have acted : (p.acted sent terminal branch).Kept ordered (.release ∉ branch.told terminal.state) :=
    kept.acted distinct.ids here handler after
  have ids : (p.acted sent terminal branch).terminals.ids = p.terminals.ids := acted_ids
  have fresh : s.fresh.id ∉ (p.acted sent terminal branch).terminals.ids := ids ▸ distinct.fresh
  have there : terminal.id ∈ (p.acted sent terminal branch).terminals.ids := ids ▸ Terminals.mem_ids.mpr ⟨terminal, here, rfl⟩
  obtain ⟨-, -, connected, released, -⟩ := handler_leaves branch terminal.state _ _ _ handler after
  rw [← Ces.watch, ← watch_perform] at connected released
  rcases told_shape branch terminal.state with told | told | ⟨told, at19⟩ | told | ⟨indication, plain, told⟩
  · rw [told] at tells acted
    obtain rfl := Option.some.inj tells
    exact { acted with waits := fun _ => acted.waits List.not_mem_nil }
  · rw [told, Party.tell, List.foldlM_cons] at tells
    obtain ⟨m, first, rest⟩ := Option.bind_eq_some_iff.mp tells
    obtain rfl := Option.some.inj rest
    exact (acted.indicate fresh there (by rintro ⟨⟩) (by rintro ⟨⟩) first).settle (acted.leaves there first)
  · rw [told, Party.tell, List.foldlM_cons] at tells
    obtain ⟨m, first, rest⟩ := Option.bind_eq_some_iff.mp tells
    obtain rfl := Option.some.inj rest
    have steady : .release ∉ branch.told terminal.state := by rw [told]; decide
    have last := acted.indicate fresh there (by rintro ⟨⟩) (fun _ frees => ?_) first
    · exact { last with waits := fun _ => last.waits steady }
    · have complete : Indication.releaseComplete ∈ branch.told terminal.state := by rw [told]; decide
      refine ⟨fun steps => kept.acted_idle distinct.ids here handler after complete (ends steps complete frees).2, ?_⟩
      intro waits pointer
      have at8 := kept.waits trivial waits (kept.broadcast (Terminals.mem_ids.mpr ⟨terminal, here, rfl⟩)) terminal here pointer
      rw [at19] at at8
      cases at8
  · rw [told, Party.tell, List.foldlM_cons] at tells
    obtain ⟨m, first, rest⟩ := Option.bind_eq_some_iff.mp tells
    rw [List.foldlM_cons] at rest
    obtain ⟨n, second, rest⟩ := Option.bind_eq_some_iff.mp rest
    obtain rfl := Option.some.inj rest
    have between := acted.indicate fresh there (by rintro ⟨⟩) (by rintro ⟨⟩) first
    have left := acted.leaves there first
    have same := indicate_release_ids first
    have complete : Indication.releaseComplete ∈ branch.told terminal.state := by rw [told]; decide
    refine ((between.indicate (same ▸ fresh) (same ▸ there) (by rintro ⟨⟩) (fun _ frees => ?_) second).settle
      (indicate_releaseComplete_state left second))
    refine ⟨fun steps => ?_, fun waits => absurd waits left⟩
    have before : (p.acted sent terminal branch).call.state.frees := indicate_release_frees first frees
    obtain ⟨only, stopped⟩ := ends steps complete before
    refine indicate_release_idle (kept.acted_idle distinct.ids here handler after complete stopped) ?_ first
    intro waits ces member this
    rw [acted_this distinct.ids here ces member this]
    exact released (only waits)
  · rw [told, Party.tell, List.foldlM_cons] at tells
    obtain ⟨m, first, rest⟩ := Option.bind_eq_some_iff.mp tells
    obtain rfl := Option.some.inj rest
    have steady : .release ∉ branch.told terminal.state := by
      rw [told, List.mem_singleton]
      rintro rfl
      exact absurd plain (by decide)
    have last := acted.indicate fresh there ?_ ?_ first
    · exact { last with waits := fun _ => last.waits steady }
    · rintro rfl ces member this
      rw [acted_this distinct.ids here ces member this]
      have tells : .connect ∈ branch.told terminal.state := by
        rw [told]
        exact List.mem_singleton_self _
      exact connected tells
    · rintro rfl
      exact absurd plain (by decide)

/-! ## Steps -/

/-- No terminal ends with a timer running: while the call is in N8, while a status enquiry or another
RELEASE is not answered, or when it is selected. A terminal sends nothing any more when another has
been selected. -/
structure Orderly (p : Party) (e : PartyEvent) : Prop where
  message : ∀ s msg, e = .message s msg → ∀ terminal ∈ p.terminals.ces, terminal.link = s.link →
    let branch := terminal.dispatchMessage (p.call.pending .t322) msg
    p.terminals.selected = none ∧ ((branch.decodes terminal.state → msg.judgement.handled) → p.EndsIdle terminal branch)
  link : ∀ s, e = .dlReleaseIndication s → ∀ terminal ∈ p.terminals.ces, terminal.link = s.link →
    p.EndsIdle terminal .dlReleaseIndication
  timer : ∀ s id timer, e = .cesTimer s id timer → ∀ terminal, p.terminals.find id = some terminal →
    p.EndsIdle terminal (terminal.expire timer)
  complete : ∀ s about, e = .call s about .setupCompleteRequest → p.selects .setupCompleteRequest →
    p.Each fun ces => p.terminals.preselected = some ces.id → ces.pending .t308 = false ∧ ces.pending .t322 = false

end Party

/-- What a terminal tells. -/
def Branch.isIndication : Branch → Bool
  | intAlertingIndication | intConnectIndication _ | intCallProceedingIndication | intReleaseCompleteIndication _ _
  | intInfoIndication | intProgressIndication | intReleaseIndication _ _ _ => true
  | _ => false

/-- What does not come from a terminal. -/
def Event.isOutside : Event → Bool
  | intAlertingIndication | intConnectIndication | intCallProceedingIndication | intReleaseCompleteIndication
  | intInfoIndication | intProgressIndication | intReleaseIndication => false
  | _ => true

theorem isOutside_of_isOwn {e : Event} (own : e.isOwn) : e.isOutside := by cases e <;> first | rfl | cases own

/-- It is no indication, and completes the setup only when that is asked for. -/
def Branch.Outside (e : Event) (branch : Branch) : Prop :=
  branch.isIndication = false ∧ ∀ broadcastSetup, branch = .setupCompleteRequest broadcastSetup → e = .setupCompleteRequest

theorem dispatchMessage_outside (call : Process) (env : Env) (e : Event) (msg : Received) :
    (dispatchMessage call env msg).Outside e := by
  have message := dispatchMessage_ofMessage call env msg
  generalize dispatchMessage call env msg = branch at message
  refine ⟨?_, fun broadcastSetup asked => ?_⟩
  · cases branch <;> first | rfl | cases message
  · rw [asked] at message
    cases message

theorem choose_outside {call : Process} {env : Env} {e : Event} (outside : e.isOutside) : (choose call env e).Outside e := by
  cases e with
  | message msg => exact dispatchMessage_outside call env _ msg
  | unknown toOriginating msg =>
    have message := dispatchMessage_outside call env (.unknown toOriginating msg) msg
    rw [choose, receiveUnknown]
    split_ifs <;> first | exact message | exact ⟨rfl, fun _ asked => by cases asked⟩
  | setupCompleteRequest => exact ⟨rfl, fun _ _ => rfl⟩
  | timer timer => cases timer <;> exact ⟨rfl, fun _ asked => by cases asked⟩
  | _ => first | cases outside; done | exact ⟨rfl, fun _ asked => by cases asked⟩

namespace Party
variable {p q : Party} {s : Setting} {current : Option Nat} {ces : List Ces} {e : Event} {ordered settled : Prop}

/-- What does not come from a terminal is admitted; a terminal that is selected is idle. -/
theorem admits_outside (outside : e.isOutside)
    (completes : e = .setupCompleteRequest → p.call.broadcastSetup → p.call.state = .n8 →
      ∃ id ∈ p.terminals.ids, p.terminals.selected = some id ∧ (ordered → p.Each fun ces => ces.id = id → ces.Idle)) :
    p.Admits ordered s current ces e := by
  obtain ⟨silent, asked⟩ : (choose p.call (env s ces) e).Outside e := choose_outside outside
  refine ⟨fun _ told => ?_, fun _ _ _ told => ?_, fun _ _ told => ?_, fun told => ?_⟩
  · rw [told] at silent
    cases silent
  · rw [told] at silent
    cases silent
  · rw [told] at silent
    cases silent
  · have broadcast := choose_looks p.call (env s ces) e true (by rw [told]; rfl)
    exact completes (asked true told) broadcast.symm

/-- A handler that does not end its terminal. -/
theorem EndsIdle.of_not {terminal : Ces} {branch : CesBranch} (other : .releaseComplete ∉ branch.told terminal.state) :
    p.EndsIdle terminal branch := fun told => absurd told other

/-- The data link of the terminals keeps them, and then that of the call. -/
theorem Kept.dataLink {J : Party → Prop} {branch : CesBranch} (outside : e.isOutside) (kept : p.Kept ordered True)
    (distinct : p.Distinct s) (held : J p) (asked : e ≠ .setupCompleteRequest)
    (handles : ∀ {m n : Party} {terminal : Ces}, m.Kept ordered True → m.Distinct s → J m → terminal ∈ m.terminals.ces →
      terminal.link = s.link → m.cesHandle s terminal unjudged branch = some n → n.Kept ordered True ∧ J n)
    (done : p.dataLink s branch e = some q) : q.Kept ordered True := by
  obtain ⟨m, ⟨keeps, apart, -⟩, rest⟩ := dataLink_some (J := fun m => m.Kept ordered True ∧ m.Distinct s ∧ J m) distinct.ids
    (fun {m n terminal} ⟨keeps, apart, held⟩ here _ link first => by
      obtain ⟨next, holds⟩ := handles keeps apart held here link first
      exact ⟨next, (cesHandle_keeps first).distinct apart, holds⟩) ⟨kept, distinct, held⟩ done
  rcases rest with rfl | ⟨-, last⟩
  · exact keeps
  · exact keeps.handle apart.fresh (admits_outside outside fun same => absurd same asked) last

/-- A terminal that is told that its data link is gone leaves N8, unless it is in I0. -/
theorem Kept.link_leaves {terminal : Ces} (kept : p.Kept ordered True) (distinct : p.Distinct s) (here : terminal ∈ p.terminals.ces)
    (active : .releaseComplete ∈ CesBranch.told terminal.state .dlReleaseIndication)
    (done : p.cesHandle s terminal unjudged .dlReleaseIndication = some q) : q.call.state ≠ .n8 := by
  have both : ∀ state : CesState, .releaseComplete ∈ CesBranch.told state .dlReleaseIndication →
      CesBranch.told state .dlReleaseIndication = [.release, .releaseComplete] := by decide
  obtain ⟨sent, ⟨-, refused, -⟩ | tells⟩ := cesHandle_some done
  · cases refused
  change (p.acted sent terminal .dlReleaseIndication).tell s terminal.id _ = some q at tells
  have acted : (p.acted sent terminal .dlReleaseIndication).Kept ordered _ := kept.acted distinct.ids here rfl rfl
  rw [both _ active, Party.tell, List.foldlM_cons] at tells
  obtain ⟨m, first, rest⟩ := Option.bind_eq_some_iff.mp tells
  rw [List.foldlM_cons] at rest
  obtain ⟨n, second, rest⟩ := Option.bind_eq_some_iff.mp rest
  obtain rfl := Option.some.inj rest
  refine indicate_releaseComplete_state (acted.leaves ?_ first) second
  rw [acted_ids]
  exact Terminals.mem_ids.mpr ⟨terminal, here, rfl⟩

/-- A terminal in I0 is not told. -/
theorem link_silent {terminal : Ces} (silent : .releaseComplete ∉ CesBranch.told terminal.state .dlReleaseIndication)
    (done : p.cesHandle s terminal unjudged .dlReleaseIndication = some q) : q = p := by
  have none : ∀ state : CesState, .releaseComplete ∉ CesBranch.told state .dlReleaseIndication →
      CesBranch.acts state .dlReleaseIndication = [] := by decide
  rw [cesHandle, none _ silent] at done
  exact (Option.some.inj done).symm

theorem dispatchMessage_handler (ces : Ces) (callT322 : Bool) (msg : Received) :
    (ces.dispatchMessage callT322 msg).isHandler := by
  unfold Ces.dispatchMessage
  repeat' refine iteInduction (motive := fun branch => CesBranch.isHandler branch = true) (fun _ => ?_) (fun _ => ?_)
  all_goals rfl

theorem dispatchMessage_after (ces : Ces) (callT322 : Bool) (msg : Received) (watch : Watch) :
    (ces.dispatchMessage callT322 msg).after watch := by
  unfold Ces.dispatchMessage
  repeat' refine iteInduction (motive := fun branch => CesBranch.after watch branch = true) (fun _ => ?_) (fun _ => ?_)
  all_goals rfl

theorem expire_handler (ces : Ces) (timer : CesTimer) : (ces.expire timer).isHandler := by cases timer <;> rfl

theorem expire_after (ces : Ces) (timer : CesTimer) :
    (ces.expire timer).after (ces.setPending timer false).watch := by
  rw [watch_setPending]
  cases timer <;> rfl

theorem timely_expired {ces : Ces} (timely : ces.watch.timely) (timer : CesTimer) :
    (ces.setPending timer false).watch.timely := by
  rw [watch_setPending]
  cases timer with
  | t304 => rfl
  | _ => exact timely

/-- A timer that has expired is not running any more. -/
theorem Kept.expired (kept : p.Kept ordered settled) (id : Nat) (timer : CesTimer) : (p.expired id timer).Kept ordered settled := by
  refine {
    timely := fun ces member => ?_
    chosen := fun waits broadcast => ?_
    waits := fun steady waits broadcast ces member pointer => ?_
    alone := fun off => ?_
    aborted := kept.aborted
    freed := kept.freed
    straight := kept.straight }
  · obtain ⟨old, -⟩ | ⟨before, old, -, rfl⟩ := Terminals.mem_update.mp member
    · exact kept.timely ces old
    · exact timely_expired (kept.timely before old) timer
  · rw [Party.expired_ids]
    exact kept.chosen waits broadcast
  · obtain ⟨old, -⟩ | ⟨before, old, -, rfl⟩ := Terminals.mem_update.mp member
    · exact kept.waits steady waits broadcast ces old pointer
    · exact kept.waits steady waits broadcast before old pointer
  · have none : p.terminals.ces = [] := kept.alone off
    simp [Party.expired, Terminals.update, none]

/-- What happens to a party keeps its terminals. -/
theorem Kept.take {e : PartyEvent} (kept : p.Kept ordered True) (distinct : p.Distinct e.setting) (orderly : ordered → p.Orderly e)
    (own : ∀ s about e', e = .call s about e' → e'.isOwn)
    (took : p.take e = some q) : q.Kept ordered True := by
  cases e with
  | call s about e =>
    have outside := isOutside_of_isOwn (own s about e rfl)
    dsimp only [Party.take] at took
    split at took
    · rename_i selects
      obtain rfl : e = .setupCompleteRequest := by cases e <;> first | rfl | cases selects
      obtain ⟨m, chosen, done⟩ := Option.bind_eq_some_iff.mp took
      obtain ⟨id, pointer, rfl⟩ := Option.map_eq_some_iff.mp chosen
      obtain ⟨waits, broadcast⟩ := Bool.and_eq_true_iff.mp selects
      obtain ⟨-, id', member, pointer'⟩ := kept.chosen (beq_iff_eq.mp waits) broadcast
      obtain rfl : id = id' := Option.some.inj (pointer.symm.trans pointer')
      obtain ⟨terminal, found⟩ := find_of_mem member
      have same : (p.terminals.look (some id)).astray = p.terminals.astray := by simp [Terminals.look, found]
      have ready : ({ p with terminals := { p.terminals.look (some id) with
          selected := some id
          dlc := ((p.terminals.find id).map Ces.link).or p.terminals.dlc } } : Party).Kept ordered True :=
        { kept with straight := fun steps => same.trans (kept.straight steps) }
      refine ready.handle distinct.fresh (admits_outside outside fun _ _ _ => ?_) done
      refine ⟨id, member, rfl, fun steps ces here this => ?_⟩
      have pointer'' : p.terminals.preselected = some ces.id := this ▸ pointer
      obtain ⟨t308, t322⟩ := (orderly steps).complete s about rfl selects ces here pointer''
      have at8 := kept.waits trivial (beq_iff_eq.mp waits) broadcast ces here pointer''
      have timely := kept.timely ces here
      rw [idle_iff]
      simp only [Watch.idle, Watch.timely, Ces.watch, at8, t308, t322] at timely ⊢
      simpa using timely
    · rename_i selects
      refine kept.handle distinct.fresh (admits_outside outside fun same broadcast waits => ?_) took
      subst same
      exact absurd (Bool.and_eq_true_iff.mpr ⟨beq_iff_eq.mpr waits, broadcast⟩) selects
  | message s msg =>
    have outside : (Event.message msg).isOutside := rfl
    rcases receive_some took with ⟨-, done⟩ | ⟨terminal, here, link, m, first, rest⟩
    · exact kept.handle distinct.fresh (admits_outside outside (by rintro ⟨⟩)) done
    · have looked : ({ p with terminals := p.terminals.look p.terminals.selected } : Party).Kept ordered True := by
        refine { kept with straight := fun steps => ?_ }
        simp [Terminals.look, ((orderly steps).message s msg rfl terminal here link).1, kept.straight steps]
      have between := looked.cesHandle ⟨distinct.ids, distinct.fresh⟩ here (dispatchMessage_handler _ _ _)
        (dispatchMessage_after _ _ _ _) (fun steps => ((orderly steps).message s msg rfl terminal here link).2) first
      rcases rest with rfl | ⟨-, done⟩
      · exact between
      · exact between.handle ((cesHandle_keeps first).distinct ⟨distinct.ids, distinct.fresh⟩).fresh
          (admits_outside outside (by rintro ⟨⟩)) done
  | unknown s toOriginating msg =>
    exact kept.handle distinct.fresh (admits_outside rfl (by rintro ⟨⟩)) took
  | dlEstablishIndication s =>
    refine kept.dataLink (J := fun _ => True) rfl distinct trivial (by rintro ⟨⟩) (fun keeps apart _ here _ first => ?_) took
    have silent : ∀ state : CesState, .releaseComplete ∉ CesBranch.told state .dlEstablishIndication := by decide
    exact ⟨keeps.cesHandle apart here rfl rfl (fun _ _ => .of_not (silent _)) first, trivial⟩
  | dlEstablishConfirm s | dlReleaseConfirm s =>
    refine kept.dataLink (J := fun _ => True) rfl distinct trivial (by rintro ⟨⟩) (fun keeps apart _ here _ first => ?_) took
    exact ⟨keeps.cesHandle apart here rfl rfl (fun _ _ => .of_not List.not_mem_nil) first, trivial⟩
  | dlReleaseIndication s =>
    let active (ces : Ces) := Indication.releaseComplete ∈ CesBranch.told ces.state .dlReleaseIndication
    refine kept.dataLink (J := fun m => ordered → m.call.state = .n8 → ∀ ces ∈ m.terminals.ces, ces.link = s.link → active ces → ces.state = .i19)
      rfl distinct ?_ (by rintro ⟨⟩) (fun {m n terminal} keeps apart held here link first => ?_) took
    · intro steps waits ces member link told
      exact ((orderly steps).link s rfl ces member link told (waits ▸ rfl)).1 waits
    · have stops : ∀ state : CesState, .releaseComplete ∈ CesBranch.told state .dlReleaseIndication →
          CesAct.stopAny ∈ CesBranch.own state .dlReleaseIndication := by decide
      refine ⟨keeps.cesHandle apart here rfl rfl (fun steps _ told _ => ?_) first, fun steps waits => ?_⟩
      · exact ⟨fun waits => held steps waits terminal here link told, .inl (stops _ told)⟩
      · by_cases told : active terminal
        · exact absurd waits (keeps.link_leaves apart here told first)
        · rw [link_silent told first] at waits ⊢
          exact held steps waits
  | cesTimer s id timer =>
    obtain ⟨terminal, found, done⟩ := Option.bind_eq_some_iff.mp took
    obtain ⟨here, rfl⟩ := find_some found
    have ends (steps : ordered) := (orderly steps).timer s terminal.id timer rfl terminal found
    have ids : (p.expired terminal.id timer).terminals.ids = p.terminals.ids := Party.expired_ids ..
    have expired := kept.expired terminal.id timer
    have there := Party.mem_expired here timer
    have stays {other : CesTimer} (off : terminal.pending other = false) : (terminal.setPending timer false).pending other = false := by
      change Function.update terminal.pending timer false other = false
      by_cases same : other = timer
      · rw [same, Function.update_self]
      · rw [Function.update_of_ne same]
        exact off
    have idle (steps : ordered) : (p.expired terminal.id timer).EndsIdle (terminal.setPending timer false) (terminal.expire timer) := by
      intro told frees
      obtain ⟨only, stopped⟩ := ends steps told frees
      exact ⟨only, stopped.imp_right fun stops => ⟨stays stops.1, stops.2.imp_right stays⟩⟩
    exact expired.cesHandle ⟨ids ▸ distinct.ids, ids ▸ distinct.fresh⟩ there (expire_handler terminal timer)
      (expire_after terminal timer) (fun steps _ => idle steps) done

theorem Orderly.ready {e : PartyEvent} (orderly : p.Orderly e) : (p.ready e).Orderly e := by
  have own : ∀ {s msg}, e = .message s msg → (p.ready e).call.pending .t322 = p.call.pending .t322 := by
    rintro s msg rfl
    rfl
  have ends {terminal : Ces} {branch : CesBranch} (ends : p.EndsIdle terminal branch) :
      (p.ready e).EndsIdle terminal branch := by
    intro told frees
    rw [ready_party_state] at frees ⊢
    exact ends told frees
  refine ⟨fun s msg same terminal member link => ?_, fun s same terminal member link => ?_, fun s id timer same terminal found => ?_,
    fun s about same selects ces member pointer => ?_⟩
  · rw [ready_terminals] at member ⊢
    obtain ⟨none, idle⟩ := orderly.message s msg same terminal member link
    rw [own same]
    exact ⟨none, fun handled => ends (idle handled)⟩
  · rw [ready_terminals] at member
    exact ends (orderly.link s same terminal member link)
  · rw [ready_terminals] at found
    exact ends (orderly.timer s id timer same terminal found)
  · subst same
    exact orderly.complete s about rfl selects ces member pointer

theorem Kept.ready (kept : p.Kept ordered True) (e : PartyEvent) : (p.ready e).Kept ordered True := by
  have broadcast : (p.ready e).call.broadcastSetup = p.call.broadcastSetup := by
    cases e with
    | call s about e => cases e <;> rfl
    | _ => rfl
  have preselected : (p.ready e).call.preselected = p.call.preselected := by
    cases e with
    | call s about e => cases e <;> rfl
    | _ => rfl
  refine ⟨?_, ?_, ?_, ?_, ?_, ?_, ?_⟩
  · rw [Each, ready_terminals]
    exact kept.timely
  · rw [ready_party_state, broadcast, preselected, ready_terminals]
    exact kept.chosen
  · rw [ready_party_state, broadcast, Each, ready_terminals]
    exact kept.waits
  · rw [broadcast, ready_terminals]
    exact kept.alone
  · rw [ready_party_state, broadcast]
    exact kept.aborted
  · rw [ready_terminals]
    exact kept.freed
  · rw [ready_terminals]
    exact kept.straight

/-- A step keeps the terminals. -/
theorem Kept.step {e : PartyEvent} (kept : p.Kept ordered True) (ids : p.terminals.ids.Nodup) (orderly : ordered → p.Orderly e)
    (took : p.step e = some q) : q.Kept ordered True := by
  obtain ⟨enabled, m, done, rfl⟩ := step_some took
  have own : ∀ s about e', e = .call s about e' → e'.isOwn := by
    rintro s about e' rfl
    have ready := (Bool.and_eq_true_iff.mp enabled).2
    exact (Bool.and_eq_true_iff.mp (Bool.and_eq_true_iff.mp ready).1).1
  have next := (kept.ready e).take (ready_distinct ids enabled) (fun steps => (orderly steps).ready) own done
  exact { next with }

end Party

theorem Party.Kept.alloc (ordered : Prop) (role : IntfRole) (broadcastSetup tonesOption : Bool) (dlc : Option Nat) :
    (Party.alloc role broadcastSetup tonesOption dlc).Kept ordered True := by
  have null : (Call.alloc role broadcastSetup tonesOption).state ≠ .n8 ∧ (Call.alloc role broadcastSetup tonesOption).state ≠ .n22 := by
    cases role <;> exact ⟨nofun, nofun⟩
  exact ⟨nofun, fun waits => absurd waits null.1, fun _ waits => absurd waits null.1, fun _ => rfl,
    fun aborted => absurd aborted null.2, fun _ => nofun, fun _ => rfl⟩

/-- In a run of a call whose steps are orderly, no terminal has been freed with a timer running, and
no pointer to a terminal that is not there has been read, nor has a loop gone on from one. -/
theorem freed_idle_of_run (role : IntfRole) (broadcastSetup tonesOption : Bool) (dlc : Option Nat) (es : List PartyEvent)
    (p : Party) (run : Run Party.step Party.Orderly (.alloc role broadcastSetup tonesOption dlc) es p) :
    (∀ gone ∈ p.terminals.freed, ∀ timer, gone.pending timer = false) ∧ p.terminals.astray = false := by
  have kept : p.Kept True True ∧ p.terminals.ids.Nodup :=
    run.invariant (fun p => p.Kept True True ∧ p.terminals.ids.Nodup)
      (fun ⟨kept, ids⟩ orderly took => ⟨kept.step ids (fun _ => orderly) took, Party.step_distinct ids took⟩)
      ⟨.alloc True role broadcastSetup tonesOption dlc, List.nodup_nil⟩
  exact ⟨kept.1.freed trivial, kept.1.straight trivial⟩

theorem Party.Orderly.of_message {p : Party} {s : Setting} {msg : Received}
    (idle : ∀ terminal ∈ p.terminals.ces, terminal.link = s.link →
      let branch := terminal.dispatchMessage (p.call.pending .t322) msg
      p.terminals.selected = none ∧ ((branch.decodes terminal.state → msg.judgement.handled) → p.EndsIdle terminal branch)) :
    p.Orderly (.message s msg) where
  message := by
    rintro s msg ⟨⟩
    exact idle
  link := fun _ same => by cases same
  timer := fun _ _ _ same => by cases same
  complete := fun _ _ same => by cases same

/-- A terminal rings and clears, and is freed. -/
theorem cleared_terminal_is_idle :
    ∃ p, Run Party.step Party.Orderly (.alloc .nt false false none)
        [.call (.on 0 0) none .setupRequest, .message (.on 1 1) (bare .alerting .nt),
          .message (.on 1 0) (bare .releaseComplete .nt)] p ∧
      p.terminals.freed.length = 1 ∧
      (∀ gone ∈ p.terminals.freed, ∀ timer, gone.pending timer = false) ∧ p.terminals.astray = false := by
  have called : ((Party.alloc .nt false false none).step (.call (.on 0 0) none .setupRequest)).map (·.terminals.ces.length) =
      some 0 := by decide +kernel
  have rung : (((Party.alloc .nt false false none).step (.call (.on 0 0) none .setupRequest)).bind
      (·.step (.message (.on 1 1) (bare .alerting .nt)))).map
        (fun p => (p.terminals.selected, p.call.state, p.terminals.ces.map Ces.watch)) =
      some (none, .n7, [⟨.i7, false, false, false⟩]) := by decide +kernel
  have cleared : ((((Party.alloc .nt false false none).step (.call (.on 0 0) none .setupRequest)).bind
      (·.step (.message (.on 1 1) (bare .alerting .nt)))).bind
        (·.step (.message (.on 1 0) (bare .releaseComplete .nt)))).map (·.terminals.freed.length) = some 1 := by decide +kernel
  obtain ⟨p, first, alone⟩ := Option.map_eq_some_iff.mp called
  rw [first, Option.bind_some] at rung cleared
  obtain ⟨q, second, same⟩ := Option.map_eq_some_iff.mp rung
  rw [second, Option.bind_some] at cleared
  obtain ⟨r, third, freed⟩ := Option.map_eq_some_iff.mp cleared
  simp only [Prod.mk.injEq] at same
  obtain ⟨selected, state, watches⟩ := same
  have calls : (Party.alloc .nt false false none).Orderly (.call (.on 0 0) none .setupRequest) := by
    constructor <;> intros <;> contradiction
  have rings : p.Orderly (.message (.on 1 1) (bare .alerting .nt)) := by
    refine .of_message fun terminal member => ?_
    rw [List.length_eq_zero_iff.mp alone] at member
    cases member
  have clears : q.Orderly (.message (.on 1 0) (bare .releaseComplete .nt)) := by
    refine .of_message fun terminal member _ => ?_
    have watch : terminal.watch = ⟨.i7, false, false, false⟩ := by
      simpa [watches] using List.mem_map_of_mem (f := Ces.watch) member
    refine ⟨selected, fun _ _ _ => ⟨fun waits => ?_, .inr ⟨congrArg Watch.t322 watch, .inr (congrArg Watch.t308 watch)⟩⟩⟩
    rw [state] at waits
    cases waits
  have run : Run Party.step Party.Orderly (.alloc .nt false false none)
      [.call (.on 0 0) none .setupRequest, .message (.on 1 1) (bare .alerting .nt),
        .message (.on 1 0) (bare .releaseComplete .nt)] r :=
    .cons calls first (.cons rings second (.cons clears third (.nil r)))
  exact ⟨r, run, freed, freed_idle_of_run _ _ _ _ _ _ run⟩

/-- A terminal that releases its CONNECT is released once more, and freed with T308 running; and a
terminal that has not been selected answers its RELEASE when the selected one has been freed. -/
theorem freed_terminal_is_timed :
    (∃ p, follow Party.step Any (.alloc .nt false false none)
        [.call (.on 0 0) none .setupRequest, .message (.on 1 1) (bare .alerting .nt), .message (.on 1 0) (bare .connect .nt),
          .message (.on 1 0) (bare .release .nt)] = some p ∧
      ∃ gone ∈ p.terminals.freed, gone.pending .t308) ∧
    ∃ p, follow Party.step Any (.alloc .nt false false none)
        [.call (.on 0 0) none .setupRequest, .message (.on 1 1) (bare .alerting .nt), .message (.on 1 0) (bare .connect .nt),
          .message (.on 2 2) (bare .alerting .nt), .call (.on 0 0) none .setupCompleteRequest,
          .message (.on 2 0) (bare .releaseComplete .nt)] = some p ∧
      p.terminals.astray :=
  ⟨⟨_, rfl, _, List.mem_singleton_self _, rfl⟩, ⟨_, rfl, rfl⟩⟩

end Vstuff.Q931.Call
