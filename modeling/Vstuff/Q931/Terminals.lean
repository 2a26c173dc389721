import Mathlib.Data.List.Nodup
import Vstuff.Q931.Party

/-! How a call with its terminals goes on: what a terminal does by itself comes before
what it tells the call, the call touches its terminals in a few ways only, and what
is kept by all of them is kept by a step. -/
namespace Vstuff.Q931.Call
open Transition
set_option linter.all false

/-! ## What a terminal does by itself, and what it tells -/

def CesAct.indicates : CesAct → Option Indication
  | indicate indication => some indication
  | _ => none

/-- What a branch does to its terminal. -/
def CesBranch.own (state : CesState) (branch : CesBranch) : List CesAct :=
  (branch.acts state).filter fun act => act.indicates.isNone && act != .decode

/-- What it tells the call afterwards. -/
def CesBranch.told (state : CesState) (branch : CesBranch) : List Indication :=
  (branch.acts state).filterMap CesAct.indicates

/-- The elements are decoded first, if they are. -/
def CesBranch.decodes (state : CesState) (branch : CesBranch) : Bool := (branch.acts state).contains .decode

theorem acts_split : ∀ (branch : CesBranch) (state : CesState),
    branch.acts state =
      (if branch.decodes state then [.decode] else []) ++ branch.own state ++ (branch.told state).map .indicate := by
  intro branch state
  revert branch
  cases state
  all_goals decide +kernel

/-- An act of a terminal on itself. -/
def CesAct.isOwn : CesAct → Bool
  | indicate _ | decode | report _ => false
  | _ => true

theorem own_isOwn : ∀ (branch : CesBranch) (state : CesState), ∀ act ∈ branch.own state, act.isOwn := by
  decide +kernel

/-- The release of its data link is no message. -/
example : CesBranch.decodes .i19 .dlReleaseIndication = false := by decide +kernel

namespace Ces
variable {ces : Ces}

@[simp] theorem act_id (act : CesAct) : (ces.act act).id = ces.id := by
  cases act with
  | send type => simp only [Ces.act, Ces.sends]; split_ifs <;> rfl
  | _ => rfl

@[simp] theorem act_link (act : CesAct) : (ces.act act).link = ces.link := by
  cases act with
  | send type => simp only [Ces.act, Ces.sends]; split_ifs <;> rfl
  | _ => rfl

@[simp] theorem perform_id (acts : List CesAct) : (ces.perform acts).id = ces.id := by
  induction acts generalizing ces with
  | nil => rfl
  | cons act acts ih => exact ih.trans (act_id act)

@[simp] theorem perform_link (acts : List CesAct) : (ces.perform acts).link = ces.link := by
  induction acts generalizing ces with
  | nil => rfl
  | cons act acts ih => exact ih.trans (act_link act)

end Ces

namespace Terminals
variable {terminals : Terminals}

theorem update_update {id : Nat} {f g : Ces → Ces} (same : ∀ ces, (f ces).id = ces.id) :
    (terminals.update id f).update id g = terminals.update id fun ces => g (f ces) := by
  simp only [update, List.map_map]
  congr 2
  funext ces
  by_cases this : ces.id = id
  · simp [this, same]
  · simp [this]

@[simp] theorem update_id (id : Nat) : terminals.update id (fun ces => ces) = terminals := by
  simp [update]

end Terminals

namespace Party
variable {p q : Party} {s : Setting}

/-- The terminal tells the call one thing after the other. -/
def tell (s : Setting) (id : Nat) (told : List Indication) (p : Party) : Option Party :=
  told.foldlM (fun p indication => p.indicate s id indication) p

theorem cesPerform_append (id : Nat) (first second : List CesAct) :
    p.cesPerform s id (first ++ second) = (p.cesPerform s id first).bind (cesPerform s id second) :=
  List.foldlM_append

theorem cesPerform_own {id : Nat} {acts : List CesAct} (own : ∀ act ∈ acts, act.isOwn)
    (done : p.cesPerform s id acts = some q) :
    q = { p with terminals := p.terminals.update id (·.perform acts) } := by
  induction acts generalizing p with
  | nil =>
    obtain rfl := Option.some.inj done
    simp [Ces.perform]
  | cons act acts ih =>
    obtain ⟨here, later⟩ := List.forall_mem_cons.mp own
    rw [cesPerform, List.foldlM_cons] at done
    have rest : ∀ {middle : Party}, middle = { p with terminals := p.terminals.update id (·.act act) } →
        middle.cesPerform s id acts = some q →
        q = { p with terminals := p.terminals.update id (·.perform (act :: acts)) } := by
      rintro middle rfl finished
      rw [ih later finished, Terminals.update_update fun ces => ces.act_id act]
      rfl
    cases act with
    | indicate | decode | report => cases here
    | absentIe => cases done
    | statusIndication =>
      refine rest ?_ done
      simp [Ces.act, Process.act]
    | _ => exact rest rfl done

theorem cesPerform_reports (id : Nat) (reports : List Report) :
    p.cesPerform s id (reports.map (.report ·.type)) =
      some { p with call := { p.call with sent := p.call.sent ++ reports.map (·.type) } } := by
  induction reports generalizing p with
  | nil => simp [cesPerform]
  | cons report reports ih =>
    rw [List.map_cons, cesPerform, List.foldlM_cons]
    exact (ih (p := { p with call := p.call.act (.send report.type) })).trans (by simp [Process.act])

theorem cesPerform_indicates (id : Nat) (told : List Indication) :
    p.cesPerform s id (told.map .indicate) = p.tell s id told := by
  rw [cesPerform, List.foldlM_map]
  rfl

/-- What a terminal does about an event: its elements are not in order and are
reported, or it acts and then tells the call. -/
theorem cesHandle_some {ces : Ces} {judgement : Judgement} {branch : CesBranch}
    (done : p.cesHandle s ces judgement branch = some q) :
    ∃ sent,
      (branch.decodes ces.state ∧ judgement.handled = false ∧ q = { p with call := { p.call with sent := sent } }) ∨
      ({ p with
          call := { p.call with sent := sent }
          terminals := p.terminals.update ces.id (·.perform (branch.own ces.state)) } : Party).tell s ces.id
        (branch.told ces.state) = some q := by
  have plain : ∀ {acts : List CesAct}, .decode ∉ acts → cesDecoded judgement acts = acts := by
    intro acts none
    induction acts with
    | nil => rfl
    | cons act acts ih =>
      obtain ⟨here, later⟩ := not_or.mp (mt List.mem_cons.mpr none)
      cases act with
      | decode => exact absurd rfl here
      | _ => exact congrArg _ (ih later)
  have rest : .decode ∉ branch.own ces.state ++ (branch.told ces.state).map CesAct.indicate := by
    intro decodes
    rcases List.mem_append.mp decodes with own | told
    · exact nomatch own_isOwn branch ces.state _ own
    · obtain ⟨_, -, same⟩ := List.mem_map.mp told
      cases same
  have carry : ∀ {sent}, ({ p with call := { p.call with sent := sent } } : Party).cesPerform s ces.id
        (branch.own ces.state ++ (branch.told ces.state).map .indicate) = some q →
      ({ p with
          call := { p.call with sent := sent }
          terminals := p.terminals.update ces.id (·.perform (branch.own ces.state)) } : Party).tell s ces.id
        (branch.told ces.state) = some q := by
    intro sent performed
    rw [cesPerform_append] at performed
    obtain ⟨middle, first, second⟩ := Option.bind_eq_some_iff.mp performed
    obtain rfl := cesPerform_own (own_isOwn branch ces.state) first
    rwa [cesPerform_indicates] at second
  rw [cesHandle, acts_split] at done
  by_cases decodes : branch.decodes ces.state
  · rw [if_pos decodes, List.append_assoc, List.singleton_append, cesDecoded, cesPerform_append,
      cesPerform_reports, Option.bind_some] at done
    cases handled : judgement.handled with
    | false =>
      rw [handled, if_neg nofun] at done
      exact ⟨_, .inl ⟨decodes, rfl, (Option.some.inj done).symm⟩⟩
    | true =>
      rw [handled, if_pos rfl, plain rest] at done
      exact ⟨_, .inr (carry done)⟩
  · rw [if_neg decodes, List.nil_append, plain rest] at done
    exact ⟨p.call.sent, .inr (carry done)⟩

end Party

/-! ## What the call does to its terminals -/

/-- The acts of a call on its terminals. -/
def Act.concernsTerminals : Act → Bool
  | cesAlloc | ces _ | cesAll _ | cesFree | cesFreeSelected | preselect => true
  | _ => false

/-- The states in which a broadcast call takes new terminals. -/
def State.awaitsAnswer : State → Bool
  | .n6 | .n7 | .n9 | .n25 => true
  | _ => false

/-- The states in which it refuses them. -/
def State.refusesAnswer : State → Bool
  | .n8 | .n22 => true
  | _ => false

/-- The messages with which a terminal answers a SETUP. -/
def Branch.answers : Branch → Bool
  | handleAlerting _ _ | handleCallProceeding _ _ | handleConnect _ _ | handleSetupAcknowledge _ _ => true
  | _ => false

/-- What a branch does to the terminals of its call, and in which states of it. -/
inductive Touches (branch : Branch) (state last : State) : List Act → Prop
  | nothing (chosen : last = .n8 → state = .n8 ∨ ∃ selected, branch = .handleConnect false selected) :
    Touches branch state last []
  | reject (told : branch = .intConnectIndication false) (before : state = .n7) (after : last = .n7) :
    Touches branch state last [.ces .release]
  | preselect {selected : Bool} (told : branch = .intConnectIndication selected) (before : state.awaitsAnswer)
    (after : last = .n8) : Touches branch state last [.preselect]
  | free {empty sent : Bool} (told : branch = .intReleaseCompleteIndication empty sent)
    (after : last = state ∨ state = .n22 ∧ last = .n0) : Touches branch state last [.cesFree]
  | allow {request : CesRequest} (answers : branch.answers) (before : state.awaitsAnswer)
    (after : last.awaitsAnswer) : Touches branch state last [.cesAlloc, .ces request]
  | refuse (answers : branch.answers) (before : state.refusesAnswer) (after : last = state) :
    Touches branch state last [.cesAlloc, .ces .release]
  | connect (answers : branch = .handleConnect true true) (before : state.awaitsAnswer) (after : last = .n8) :
    Touches branch state last [.cesAlloc, .preselect, .ces .connect]
  | clear (before : state.awaitsAnswer ∨ state = .n8) (after : last = .n0 ∨ last = .n22) :
    Touches branch state last [.cesAll .release]
  | complete (asked : branch = .setupCompleteRequest true) (before : state = .n8) (after : last = .n10) :
    Touches branch state last [.cesFreeSelected, .cesAll .release]
  | inform (after : last = state) : Touches branch state last [.cesAll .info]
  | enquire (after : last = state) : Touches branch state last [.cesAll .statusEnquiry]
  | enquireOne (after : last = state) : Touches branch state last [.ces .statusEnquiry]

/-- The same as a test of the acts. -/
def touches (branch : Branch) (state last : State) : List Act → Bool
  | [] =>
    last != .n8 || state == .n8 || (match branch with | .handleConnect broadcastSetup _ => !broadcastSetup | _ => false)
  | [.ces .release] => branch == .intConnectIndication false && state == .n7 && last == .n7
  | [.preselect] =>
    (match branch with | .intConnectIndication _ => true | _ => false) && state.awaitsAnswer && last == .n8
  | [.cesFree] =>
    (match branch with | .intReleaseCompleteIndication _ _ => true | _ => false) &&
      (last == state || state == .n22 && last == .n0)
  | [.cesAlloc, .ces request] =>
    branch.answers &&
      (state.awaitsAnswer && last.awaitsAnswer || request == .release && state.refusesAnswer && last == state)
  | [.cesAlloc, .preselect, .ces .connect] => branch == .handleConnect true true && state.awaitsAnswer && last == .n8
  | [.cesAll .release] => (state.awaitsAnswer || state == .n8) && (last == .n0 || last == .n22)
  | [.cesFreeSelected, .cesAll .release] => branch == .setupCompleteRequest true && state == .n8 && last == .n10
  | [.cesAll .info] | [.cesAll .statusEnquiry] | [.ces .statusEnquiry] => last == state
  | _ => false

theorem touches_of_test {branch : Branch} {state last : State} {acts : List Act}
    (tested : touches branch state last acts) : Touches branch state last acts := by
  unfold touches at tested
  split at tested
  · refine .nothing fun connected => ?_
    rw [connected, bne_self_eq_false, Bool.false_or, Bool.or_eq_true, beq_iff_eq] at tested
    refine tested.imp_right fun single => ?_
    split at single
    · rename_i broadcastSetup selected
      cases broadcastSetup with
      | false => exact ⟨selected, rfl⟩
      | true => cases single
    · cases single
  all_goals first | cases tested | simp only [Bool.and_eq_true, Bool.or_eq_true, beq_iff_eq] at tested
  · exact .reject tested.1.1 tested.1.2 tested.2
  · obtain ⟨⟨told, before⟩, after⟩ := tested
    split at told
    · exact .preselect rfl before after
    · cases told
  · obtain ⟨told, after⟩ := tested
    split at told
    · exact .free rfl after
    · cases told
  · obtain ⟨answers, ⟨before, after⟩ | ⟨⟨rfl, before⟩, after⟩⟩ := tested
    · exact .allow answers before after
    · exact .refuse answers before after
  · exact .connect tested.1.1 tested.1.2 tested.2
  · exact .clear tested.1 tested.2
  · exact .complete tested.1.1 tested.1.2 tested.2
  · exact .inform tested
  · exact .enquire tested
  · exact .enquireOne tested

theorem acts_touch : ∀ (branch : Branch) (state : State),
    touches branch state (lastState state (branch.acts state)) ((branch.acts state).filter Act.concernsTerminals) := by
  intro branch state
  revert branch
  cases state
  all_goals decide +kernel

theorem reached_touch (branch : Branch) (state : State) (handled : Bool) :
    Touches branch state (lastState state (reached handled (branch.acts state)))
      ((reached handled (branch.acts state)).filter Act.concernsTerminals) := by
  refine of_reached (p := fun acts => Touches branch state (lastState state acts) (acts.filter Act.concernsTerminals))
    handled (touches_of_test (acts_touch branch state)) fun _ => ⟨?_, ?_⟩
  · exact .nothing .inl
  · exact .nothing .inl

theorem concerns_decoded (judgement : Judgement) (acts : List Act) :
    (decoded judgement acts).filter Act.concernsTerminals =
      (reached judgement.handled acts).filter Act.concernsTerminals := by
  induction acts with
  | nil => cases judgement.handled <;> rfl
  | cons act acts ih =>
    by_cases decodes : act = .decode
    · subst decodes
      have reports : (judgement.sent.map (Act.send ·.type)).filter Act.concernsTerminals = [] := by
        rw [List.filter_eq_nil_iff]
        intro act member
        obtain ⟨report, -, rfl⟩ := List.mem_map.mp member
        exact nofun
      rw [decoded, List.filter_append, reports, List.nil_append]
      cases handled : judgement.handled with
      | true =>
        rw [handled] at ih
        exact ih
      | false => rfl
    · rw [decoded_cons decodes, reached_cons decodes, List.filter_cons, List.filter_cons, ih]

namespace Terminals
variable {terminals : Terminals} {s : Setting} {callT322 : Bool}

theorem perform_concerns (acts : List Act) : ∀ (current : Option Nat) (terminals : Terminals),
    terminals.perform s callT322 current acts =
      terminals.perform s callT322 current (acts.filter Act.concernsTerminals) := by
  induction acts with
  | nil => intro current terminals; rfl
  | cons act acts ih =>
    intro current terminals
    cases act with
    | cesAlloc => exact ih (some s.fresh.id) (terminals.alloc s)
    | ces request => exact ih current (terminals.act callT322 current (.ces request))
    | cesAll request => exact ih current (terminals.act callT322 current (.cesAll request))
    | cesFree => exact ih current (terminals.act callT322 current .cesFree)
    | cesFreeSelected => exact ih current (terminals.act callT322 current .cesFreeSelected)
    | preselect => exact ih current (terminals.act callT322 current .preselect)
    | _ => exact ih current terminals

end Terminals

/-- What the call reaches of what an event leads to. -/
def Process.reaches (call : Process) (env : Env) (e : Event) : List Act :=
  reached e.judgement.handled ((choose call env e).acts call.state)

namespace Party
variable {p q : Party} {s : Setting} {current : Option Nat} {ces : List Ces} {e : Event}

/-- What handling an event leaves of a party; `touched` is what the call has done to its
terminals. -/
structure Handled (s : Setting) (current : Option Nat) (ces : List Ces) (e : Event) (touched : List Act)
    (p q : Party) : Prop where
  call : ∃ sent, q.call = { p.call.perform (p.call.reaches (env s ces) e) with sent := sent }
  reaches : touched = (p.call.reaches (env s ces) e).filter Act.concernsTerminals
  terminals : q.terminals = p.terminals.perform s (p.call.pending .t322) current touched
  touches : Touches (choose p.call (env s ces) e) p.call.state q.call.state touched
  did : q.did = p.did ++ respond p.call (env s ces) e
  acknowledged : q.acknowledged = p.acknowledged

theorem handle_some (done : p.handle s current ces e = some q) : ∃ touched, Handled s current ces e touched p q := by
  dsimp only [handle] at done
  split at done
  · cases done
  · obtain rfl := Option.some.inj done
    have call := perform_decoded e.judgement ((choose p.call (env s ces) e).acts p.call.state) p.call
    refine ⟨(p.call.reaches (env s ces) e).filter Act.concernsTerminals, call, rfl, ?_, ?_, rfl, rfl⟩
    · rw [Process.reaches, ← concerns_decoded, ← Terminals.perform_concerns]
      rfl
    · obtain ⟨sent, same⟩ := call
      have last : (p.call.perform (respond p.call (env s ces) e)).state =
          lastState p.call.state (p.call.reaches (env s ces) e) := by
        rw [respond, same]
        exact perform_state _ _
      dsimp only
      rw [last]
      exact reached_touch ..

/-- What is left when a terminal has told something: the pointer to the preselected one
may have been read. -/
theorem indicate_some {id : Nat} {indication : Indication} (done : p.indicate s id indication = some q) :
    ∃ astray touched, Handled s (some id) (p.terminals.others id) indication.event touched
      { p with terminals := { p.terminals with astray := astray } } q := by
  dsimp only [indicate] at done
  split at done
  · exact ⟨_, handle_some done⟩
  · exact ⟨p.terminals.astray, handle_some done⟩

/-! ## What is true of every terminal -/

/-- Something is true of every terminal. -/
def Each (P : Ces → Prop) (p : Party) : Prop := ∀ ces ∈ p.terminals.ces, P ces

end Party

section Each
variable {P : Ces → Prop} {s : Setting}

/-- It stays true whatever the call asks for, and is of a new terminal. -/
structure Lasts (s : Setting) (P : Ces → Prop) : Prop where
  asked : ∀ callT322 request ces, P ces → P (Terminals.ask callT322 request ces)
  born : P s.newCes

theorem Terminals.mem_update {terminals : Terminals} {id : Nat} {f : Ces → Ces} {ces : Ces} :
    ces ∈ (terminals.update id f).ces ↔
      (ces ∈ terminals.ces ∧ ces.id ≠ id ∨ ∃ before ∈ terminals.ces, before.id = id ∧ ces = f before) := by
  simp only [update, List.mem_map]
  constructor
  · rintro ⟨before, member, rfl⟩
    by_cases this : before.id = id
    · rw [if_pos this]
      exact .inr ⟨before, member, this, rfl⟩
    · rw [if_neg this]
      exact .inl ⟨member, this⟩
  · rintro (⟨member, other⟩ | ⟨before, member, this, rfl⟩)
    · exact ⟨ces, member, if_neg other⟩
    · exact ⟨before, member, if_pos this⟩

theorem Terminals.perform_each (lasts : Lasts s P) {callT322 : Bool} (acts : List Act) :
    ∀ (current : Option Nat) (terminals : Terminals), (∀ ces ∈ terminals.ces, P ces) →
      ∀ ces ∈ (terminals.perform s callT322 current acts).ces, P ces := by
  induction acts with
  | nil => exact fun current terminals held => held
  | cons act acts ih =>
    intro current terminals held
    have others : ∀ id, ∀ ces ∈ (terminals.free id).ces, P ces :=
      fun id ces member => held ces (List.mem_of_mem_filter member)
    cases act with
    | cesAlloc =>
      refine ih _ _ fun ces member => ?_
      obtain rfl | member := List.mem_cons.mp member
      · exact lasts.born
      · exact held ces member
    | ces request =>
      refine ih _ _ ?_
      cases current with
      | none => exact held
      | some id =>
        intro ces member
        obtain ⟨kept, -⟩ | ⟨before, kept, -, rfl⟩ := Terminals.mem_update.mp member
        · exact held ces kept
        · exact lasts.asked callT322 request before (held before kept)
    | cesAll request =>
      refine ih _ _ fun ces member => ?_
      obtain ⟨before, kept, rfl⟩ := List.mem_map.mp member
      exact lasts.asked callT322 request before (held before kept)
    | cesFree =>
      refine ih _ _ ?_
      cases current with
      | none => exact held
      | some id => exact others id
    | cesFreeSelected =>
      refine ih _ _ ?_
      rw [Terminals.act]
      cases terminals.selected with
      | none => exact held
      | some id => exact others id
    | _ => exact ih _ _ held

namespace Party
variable {p q : Party} {current : Option Nat} {ces : List Ces} {e : Event} {id : Nat}

theorem Handled.each {touched : List Act} (handled : Handled s current ces e touched p q) (lasts : Lasts s P)
    (held : p.Each P) : q.Each P := by
  intro ces member
  rw [handled.terminals] at member
  exact Terminals.perform_each lasts touched current p.terminals held ces member

theorem Each.handle (lasts : Lasts s P) (held : p.Each P) (done : p.handle s current ces e = some q) : q.Each P := by
  obtain ⟨touched, handled⟩ := handle_some done
  exact handled.each lasts held

theorem Each.indicate (lasts : Lasts s P) (held : p.Each P) {indication : Indication}
    (done : p.indicate s id indication = some q) : q.Each P := by
  obtain ⟨astray, touched, handled⟩ := indicate_some done
  exact handled.each lasts held

theorem Each.tell (lasts : Lasts s P) {told : List Indication} (held : p.Each P) (done : p.tell s id told = some q) :
    q.Each P := by
  induction told generalizing p with
  | nil =>
    obtain rfl := Option.some.inj done
    exact held
  | cons indication told ih =>
    rw [Party.tell, List.foldlM_cons] at done
    obtain ⟨middle, first, rest⟩ := Option.bind_eq_some_iff.mp done
    exact ih (held.indicate lasts first) rest

end Party

end Each

/-! ## Which terminals there are -/

namespace Terminals
variable {terminals : Terminals} {s : Setting} {id : Nat}

/-- Their addresses. -/
def ids (terminals : Terminals) : List Nat := terminals.ces.map (·.id)

theorem mem_ids : id ∈ terminals.ids ↔ ∃ ces ∈ terminals.ces, ces.id = id := List.mem_map

theorem ids_map {f : Ces → Ces} (same : ∀ ces, (f ces).id = ces.id) :
    ({ terminals with ces := terminals.ces.map f } : Terminals).ids = terminals.ids := by
  rw [ids, ids, List.map_map]
  exact List.map_congr_left fun ces _ => same ces

theorem ids_update {f : Ces → Ces} (same : ∀ ces, (f ces).id = ces.id) : (terminals.update id f).ids = terminals.ids := by
  refine ids_map fun ces => ?_
  split
  · exact same ces
  · rfl

@[simp] theorem ids_ask {callT322 : Bool} {request : CesRequest} :
    (terminals.update id (ask callT322 request)).ids = terminals.ids := ids_update fun _ => Ces.perform_id _

@[simp] theorem ids_askAll {callT322 : Bool} {request : CesRequest} :
    ({ terminals with ces := terminals.ces.map (ask callT322 request) } : Terminals).ids = terminals.ids :=
  ids_map fun _ => Ces.perform_id _

@[simp] theorem ids_alloc : (terminals.alloc s).ids = s.fresh.id :: terminals.ids := rfl

@[simp] theorem ids_free : (terminals.free id).ids = terminals.ids.filter (· != id) := by
  simp only [ids, free, others, List.filter_map]
  rfl

@[simp] theorem ids_look (pointer : Option Nat) : (terminals.look pointer).ids = terminals.ids := rfl

end Terminals

namespace Party
variable {p q : Party} {s : Setting} {current : Option Nat} {ces : List Ces} {e : Event} {touched : List Act}

/-- Handling an event frees the terminal that is talked about or the selected one, makes
a new one, or does neither. -/
theorem Handled.ids (handled : Handled s current ces e touched p q) :
    q.terminals.ids = p.terminals.ids ∨
    (∃ gone, (current = some gone ∨
        p.terminals.selected = some gone ∧ choose p.call (env s ces) e = .setupCompleteRequest true) ∧
      q.terminals.ids = p.terminals.ids.filter (· != gone)) ∨
    (choose p.call (env s ces) e).answers ∧ q.terminals.ids = s.fresh.id :: p.terminals.ids := by
  rw [handled.terminals]
  have told : ∀ (terminals : Terminals) callT322 request,
      (terminals.act callT322 current (.ces request)).ids = terminals.ids := by
    intro terminals callT322 request
    cases current with
    | none => rfl
    | some id => exact Terminals.ids_ask
  cases handled.touches with
  | nothing => exact .inl rfl
  | reject => exact .inl (told ..)
  | preselect => exact .inl rfl
  | free =>
    cases current with
    | none => exact .inl rfl
    | some id => exact .inr (.inl ⟨id, .inl rfl, Terminals.ids_free⟩)
  | allow answers => exact .inr (.inr ⟨answers, Terminals.ids_ask⟩)
  | refuse answers => exact .inr (.inr ⟨answers, Terminals.ids_ask⟩)
  | connect answers => exact .inr (.inr ⟨by rw [answers]; rfl, Terminals.ids_ask⟩)
  | clear => exact .inl Terminals.ids_askAll
  | complete asked =>
    cases selected : p.terminals.selected with
    | none =>
      refine .inl ?_
      simp only [Terminals.perform, Terminals.act, selected, Option.elim_none]
      exact @Terminals.ids_askAll p.terminals _ _
    | some id =>
      refine .inr (.inl ⟨id, .inr ⟨rfl, asked⟩, ?_⟩)
      simp only [Terminals.perform, Terminals.act, selected, Option.elim_some, Terminals.ids_askAll, Terminals.ids_free,
        Terminals.ids_look]
  | inform => exact .inl Terminals.ids_askAll
  | enquire => exact .inl Terminals.ids_askAll
  | enquireOne => exact .inl (told ..)

/-- Of the other terminals none goes, and none comes. -/
structure KeepsOthers (id : Nat) (p q : Party) : Prop where
  come : q.terminals.ids.Sublist p.terminals.ids
  stay : ∀ other ∈ p.terminals.ids, other ≠ id → other ∈ q.terminals.ids

theorem indicate_keeps {id : Nat} {indication : Indication} (done : p.indicate s id indication = some q) :
    KeepsOthers id p q := by
  obtain ⟨astray, touched, handled⟩ := indicate_some done
  rcases handled.ids with kept | ⟨gone, this, freed⟩ | ⟨answers, -⟩
  · exact ⟨by rw [kept]; exact .refl _, fun other member _ => by rw [kept]; exact member⟩
  · obtain rfl : id = gone := by
      rcases this with this | ⟨-, asked⟩
      · exact Option.some.inj this
      · cases indication <;> cases asked
    refine ⟨by rw [freed]; exact List.filter_sublist, fun other member different => ?_⟩
    rw [freed]
    exact List.mem_filter.mpr ⟨member, bne_iff_ne.mpr different⟩
  · cases indication <;> cases answers

theorem KeepsOthers.trans {id : Nat} {m : Party} (first : KeepsOthers id p m) (second : KeepsOthers id m q) :
    KeepsOthers id p q :=
  ⟨second.come.trans first.come, fun other member different => second.stay other (first.stay other member different) different⟩

theorem tell_keeps {id : Nat} {told : List Indication} (done : p.tell s id told = some q) : KeepsOthers id p q := by
  induction told generalizing p with
  | nil =>
    obtain rfl := Option.some.inj done
    exact ⟨.refl _, fun other member _ => member⟩
  | cons indication told ih =>
    rw [tell, List.foldlM_cons] at done
    obtain ⟨middle, first, rest⟩ := Option.bind_eq_some_iff.mp done
    exact (indicate_keeps first).trans (ih rest)

theorem cesHandle_keeps {terminal : Ces} {judgement : Judgement} {branch : CesBranch}
    (done : p.cesHandle s terminal judgement branch = some q) : KeepsOthers terminal.id p q := by
  obtain ⟨sent, ⟨-, -, rfl⟩ | told⟩ := cesHandle_some done
  · exact ⟨.refl _, fun other member _ => member⟩
  · have kept := tell_keeps told
    have same : (p.terminals.update terminal.id (·.perform (branch.own terminal.state))).ids = p.terminals.ids :=
      Terminals.ids_update fun ces => ces.perform_id _
    refine ⟨?_, fun other member => kept.stay other ?_⟩
    · rw [← same]
      exact kept.come
    · rw [same]
      exact member

/-! ## What is kept from one terminal to the next -/

theorem find_some {terminals : Terminals} {id : Nat} {terminal : Ces} (found : terminals.find id = some terminal) :
    terminal ∈ terminals.ces ∧ terminal.id = id :=
  ⟨List.mem_of_find?_eq_some found, beq_iff_eq.mp (List.find?_some (p := fun ces : Ces => ces.id == id) found)⟩

theorem find_of_mem {terminals : Terminals} {id : Nat} (member : id ∈ terminals.ids) :
    ∃ terminal, terminals.find id = some terminal := by
  obtain ⟨terminal, here, rfl⟩ := Terminals.mem_ids.mp member
  cases found : terminals.find terminal.id with
  | none => exact absurd (List.find?_eq_none.mp found terminal here) (by simp)
  | some other => exact ⟨other, rfl⟩

/-- What one terminal after the other keeps. -/
theorem eachCes_kept {J : Party → Prop} {branch : CesBranch}
    (kept : ∀ {m n terminal}, J m → terminal ∈ m.terminals.ces → m.terminals.find terminal.id = some terminal →
      terminal.link = s.link → m.cesHandle s terminal unjudged branch = some n → J n) (ids : List Nat) :
    ∀ p : Party, ids.Nodup → (∀ id ∈ ids, id ∈ p.terminals.ids) → J p → p.eachCes s branch ids = some q → J q := by
  induction ids with
  | nil =>
    intro p _ _ held done
    obtain rfl := Option.some.inj done
    exact held
  | cons id rest ih =>
    intro p distinct here held done
    obtain ⟨other, later⟩ := List.nodup_cons.mp distinct
    obtain ⟨terminal, found⟩ := find_of_mem (here id List.mem_cons_self)
    obtain ⟨member, rfl⟩ := find_some found
    rw [eachCes, found] at done
    dsimp only at done
    split at done
    · rename_i link
      obtain ⟨middle, first, after⟩ := Option.bind_eq_some_iff.mp done
      refine ih middle later (fun other' there => ?_) (kept held member found link first) after
      refine (cesHandle_keeps first).stay other' (here other' (List.mem_cons_of_mem _ there)) ?_
      rintro rfl
      exact other there
    · exact ih p later (fun other' there => here other' (List.mem_cons_of_mem _ there)) held done

/-- The data link of the terminals comes before that of the call. -/
theorem dataLink_some {J : Party → Prop} {branch : CesBranch} (distinct : p.terminals.ids.Nodup)
    (kept : ∀ {m n terminal}, J m → terminal ∈ m.terminals.ces → m.terminals.find terminal.id = some terminal →
      terminal.link = s.link → m.cesHandle s terminal unjudged branch = some n → J n)
    (held : J p) (done : p.dataLink s branch e = some q) :
    ∃ m, J m ∧ (q = m ∨ m.terminals.dlc = some s.link ∧ m.handle s none m.terminals.ces e = some q) := by
  obtain ⟨middle, terminals, rest⟩ := Option.bind_eq_some_iff.mp done
  refine ⟨middle, eachCes_kept kept p.terminals.ids p distinct (fun id member => member) held terminals, ?_⟩
  split at rest
  · exact .inr ⟨‹_›, rest⟩
  · exact .inl (Option.some.inj rest).symm

/-- What happens when a message comes. -/
theorem receive_some {msg : Received} (done : p.receive s msg = some q) :
    (∀ terminal ∈ p.terminals.ces, terminal.link ≠ s.link) ∧
      p.handle s none p.terminals.ces (.message msg) = some q ∨
    ∃ terminal ∈ p.terminals.ces, terminal.link = s.link ∧
      ∃ m, ({ p with terminals := p.terminals.look p.terminals.selected } : Party).cesHandle s terminal msg.judgement
          (terminal.dispatchMessage (p.call.pending .t322) msg) = some m ∧
        (q = m ∨ p.terminals.selected = some terminal.id ∧ m.handle s none m.terminals.ces (.message msg) = some q) := by
  rw [receive] at done
  cases found : p.terminals.ces.find? (·.link == s.link) with
  | none =>
    rw [found] at done
    refine .inl ⟨fun terminal member => ?_, done⟩
    have other := List.find?_eq_none.mp found terminal member
    rwa [beq_iff_eq] at other
  | some terminal =>
    rw [found] at done
    obtain ⟨middle, first, rest⟩ := Option.bind_eq_some_iff.mp done
    have link : terminal.link = s.link := beq_iff_eq.mp (List.find?_some (p := fun ces : Ces => ces.link == s.link) found)
    refine .inr ⟨terminal, List.mem_of_find?_eq_some found, link, middle, first, ?_⟩
    split at rest
    · exact .inr ⟨‹_›, rest⟩
    · exact .inl (Option.some.inj rest).symm

/-! ## Steps -/

theorem step_some {e : PartyEvent} (took : p.step e = some q) :
    p.enabled e ∧ ∃ m, (p.ready e).take e = some m ∧
      q = { m with acknowledged := p.acknowledged + m.call.sent.count .connectAcknowledge } := by
  dsimp only [step] at took
  split at took
  · obtain ⟨m, done, rfl⟩ := Option.map_eq_some_iff.mp took
    exact ⟨‹_›, m, done, rfl⟩
  · cases took

@[simp] theorem ready_terminals (p : Party) (e : PartyEvent) : (p.ready e).terminals = p.terminals := by cases e <;> rfl

@[simp] theorem ready_party_state (p : Party) (e : PartyEvent) : (p.ready e).call.state = p.call.state := by
  cases e with
  | call s about e => exact ready_state p.call e
  | _ => rfl

/-- A new terminal is where none is. -/
theorem fresh_of_enabled {e : PartyEvent} (enabled : p.enabled e) : e.setting.fresh.id ∉ p.terminals.ids := by
  intro member
  obtain ⟨terminal, found⟩ := find_of_mem member
  have free := (Bool.and_eq_true_iff.mp enabled).1
  rw [found] at free
  cases free

/-- New terminals are made where none is. -/
structure Distinct (s : Setting) (p : Party) : Prop where
  ids : p.terminals.ids.Nodup
  fresh : s.fresh.id ∉ p.terminals.ids

theorem KeepsOthers.distinct {id : Nat} (kept : KeepsOthers id p q) (distinct : p.Distinct s) : q.Distinct s :=
  ⟨distinct.ids.sublist kept.come, fun member => distinct.fresh (kept.come.subset member)⟩

theorem Distinct.handle (distinct : p.Distinct s) (done : p.handle s current ces e = some q) : q.terminals.ids.Nodup := by
  obtain ⟨touched, handled⟩ := handle_some done
  rcases handled.ids with same | ⟨gone, -, same⟩ | ⟨-, same⟩
  · rw [same]
    exact distinct.ids
  · rw [same]
    exact distinct.ids.filter _
  · rw [same]
    exact List.nodup_cons.mpr ⟨distinct.fresh, distinct.ids⟩

theorem take_distinct {e : PartyEvent} (distinct : p.Distinct e.setting) (took : p.take e = some q) :
    q.terminals.ids.Nodup := by
  have link : ∀ {s : Setting} {branch : CesBranch} {e : Event}, p.Distinct s → p.dataLink s branch e = some q →
      q.terminals.ids.Nodup := by
    intro s branch e distinct done
    obtain ⟨m, held, rfl | ⟨-, last⟩⟩ := dataLink_some (J := Distinct s) distinct.ids
      (fun held _ _ _ done => (cesHandle_keeps done).distinct held) distinct done
    · exact held.ids
    · exact held.handle last
  cases e with
  | call s about e =>
    dsimp only [take] at took
    split at took
    · obtain ⟨m, chosen, done⟩ := Option.bind_eq_some_iff.mp took
      obtain ⟨id, -, rfl⟩ := Option.map_eq_some_iff.mp chosen
      refine Distinct.handle ?_ done
      exact ⟨distinct.ids, distinct.fresh⟩
    · exact distinct.handle took
  | message s msg =>
    rcases receive_some took with ⟨-, done⟩ | ⟨terminal, -, -, m, first, rest⟩
    · exact distinct.handle done
    · have between : m.Distinct s := (cesHandle_keeps first).distinct ⟨distinct.ids, distinct.fresh⟩
      rcases rest with rfl | ⟨-, last⟩
      · exact between.ids
      · exact between.handle last
  | unknown s toOriginating msg => exact distinct.handle took
  | dlEstablishIndication s => exact link distinct took
  | dlEstablishConfirm s => exact link distinct took
  | dlReleaseIndication s => exact link distinct took
  | dlReleaseConfirm s => exact link distinct took
  | cesTimer s id timer =>
    obtain ⟨terminal, -, done⟩ := Option.bind_eq_some_iff.mp took
    have ids : (p.terminals.update id (·.setPending timer false)).ids = p.terminals.ids :=
      Terminals.ids_update fun _ => rfl
    exact ((cesHandle_keeps done).distinct ⟨by rw [ids]; exact distinct.ids, by rw [ids]; exact distinct.fresh⟩).ids

theorem ready_distinct {e : PartyEvent} (ids : p.terminals.ids.Nodup) (enabled : p.enabled e) :
    (p.ready e).Distinct e.setting := by
  refine ⟨?_, ?_⟩
  · rw [ready_terminals]
    exact ids
  · rw [ready_terminals]
    exact fresh_of_enabled enabled

/-- No two terminals are at one address. -/
theorem step_distinct {e : PartyEvent} (ids : p.terminals.ids.Nodup) (took : p.step e = some q) :
    q.terminals.ids.Nodup := by
  obtain ⟨enabled, m, done, rfl⟩ := step_some took
  have distinct : m.terminals.ids.Nodup := take_distinct (ready_distinct ids enabled) done
  exact distinct

/-- Where a terminal is found, it is the only one with its address. -/
theorem eq_of_id {terminal other : Ces} (ids : p.terminals.ids.Nodup) (here : terminal ∈ p.terminals.ces)
    (there : other ∈ p.terminals.ces) (same : other.id = terminal.id) : other = terminal :=
  List.inj_on_of_nodup_map ids there here same

/-- What is true of the other terminals, and of the one that acts when it has. -/
theorem Each.cesHandle {P : Ces → Prop} {terminal : Ces} {judgement : Judgement} {branch : CesBranch}
    (lasts : Lasts s P) (others : p.Each fun ces => ces.id ≠ terminal.id → P ces) (ids : p.terminals.ids.Nodup)
    (here : terminal ∈ p.terminals.ces) (own : P (terminal.perform (branch.own terminal.state)))
    (idle : judgement.handled = false → P terminal)
    (done : p.cesHandle s terminal judgement branch = some q) : q.Each P := by
  obtain ⟨sent, ⟨-, refused, rfl⟩ | told⟩ := cesHandle_some done
  · intro ces member
    by_cases this : ces.id = terminal.id
    · rw [eq_of_id ids here member this]
      exact idle refused
    · exact others ces member this
  · refine Each.tell lasts ?_ told
    intro ces member
    obtain ⟨kept, different⟩ | ⟨before, kept, same, rfl⟩ := Terminals.mem_update.mp member
    · exact others ces kept different
    · rw [eq_of_id ids here kept same]
      exact own

/-- What is true of all is true of the others. -/
theorem Each.others {P : Ces → Prop} (held : p.Each P) (id : Nat) : p.Each fun ces => ces.id ≠ id → P ces :=
  fun ces member _ => held ces member

end Party

/-- The states in which the call frees a terminal that tells of the end of its
release. -/
def State.frees : State → Bool
  | .n0 | .n6 | .n7 | .n8 | .n9 | .n10 | .n19 | .n22 | .n25 => true
  | _ => false

namespace Party
variable {p q : Party} {s : Setting}

/-- What a terminal tells is not decoded. -/
theorem indicate_state {id : Nat} {indication : Indication} (done : p.indicate s id indication = some q) :
    ∃ env, q.call.state = lastState p.call.state ((choose p.call env indication.event).acts p.call.state) := by
  obtain ⟨astray, touched, handled⟩ := indicate_some done
  obtain ⟨sent, same⟩ := handled.call
  refine ⟨env s (p.terminals.others id), ?_⟩
  rw [same]
  refine (perform_state _ _).trans ?_
  cases indication <;> rfl

theorem indicate_frees {id : Nat} {indication : Indication} (frees : p.call.state.frees)
    (done : p.indicate s id indication = some q) : q.call.state.frees := by
  have release : ∀ (state : State) (able preselected t312 : Bool), state.frees →
      (lastState state (intReleaseIndication state able preselected t312)).frees := by decide
  have others : ∀ (state : State) (selected empty sent : Bool), state.frees →
      (lastState state (intAlertingIndication state)).frees ∧
      (lastState state (intConnectIndication state selected)).frees ∧
      (lastState state (intCallProceedingIndication state)).frees ∧
      (lastState state (intReleaseCompleteIndication state empty sent)).frees ∧
      (lastState state (intInfoIndication state)).frees ∧ (lastState state (intProgressIndication state)).frees := by
    decide
  obtain ⟨env, same⟩ := indicate_state done
  obtain ⟨alerting, connect, proceeding, complete, info, progress⟩ :=
    others p.call.state env.selected env.cesEmpty p.call.disconnectIndicationSent frees
  rw [same]
  cases indication with
  | alerting => exact alerting
  | connect => exact connect
  | callProceeding => exact proceeding
  | releaseComplete => exact complete
  | info => exact info
  | progress => exact progress
  | release => exact release p.call.state _ _ _ frees

theorem tell_frees {id : Nat} {told : List Indication} (frees : p.call.state.frees)
    (done : p.tell s id told = some q) : q.call.state.frees := by
  induction told generalizing p with
  | nil =>
    obtain rfl := Option.some.inj done
    exact frees
  | cons indication told ih =>
    rw [tell, List.foldlM_cons] at done
    obtain ⟨m, first, rest⟩ := Option.bind_eq_some_iff.mp done
    exact ih (indicate_frees frees first) rest

theorem cesHandle_frees {terminal : Ces} {judgement : Judgement} {branch : CesBranch} (frees : p.call.state.frees)
    (done : p.cesHandle s terminal judgement branch = some q) : q.call.state.frees := by
  obtain ⟨sent, ⟨-, -, rfl⟩ | told⟩ := cesHandle_some done
  · exact frees
  · refine tell_frees ?_ told
    exact frees

/-- A terminal is freed when it has told of the end of its release. -/
theorem indicate_releaseComplete {id : Nat} (frees : p.call.state.frees)
    (done : p.indicate s id .releaseComplete = some q) :
    q.terminals.ces = p.terminals.others id ∧
      q.terminals.freed = p.terminals.freed ++ p.terminals.ces.filter (·.id == id) := by
  have free : ∀ (state : State) (empty sent : Bool), state.frees →
      (reached true (intReleaseCompleteIndication state empty sent)).filter Act.concernsTerminals = [.cesFree] := by
    decide
  obtain ⟨astray, touched, handled⟩ := indicate_some done
  have same : touched = [.cesFree] := by
    rw [handled.reaches]
    exact free p.call.state _ _ frees
  rw [handled.terminals, same]
  exact ⟨rfl, rfl⟩

/-- A terminal that tells of its release, or of the end of it, is not there any more. -/
theorem Each.tell_freed {P : Ces → Prop} {id : Nat} {told : List Indication} (lasts : Lasts s P)
    (others : p.Each fun ces => ces.id ≠ id → P ces) (frees : p.call.state.frees)
    (ends : told = [.releaseComplete] ∨ told = [.release, .releaseComplete]) (done : p.tell s id told = some q) :
    q.Each P ∧ id ∉ q.terminals.ids := by
  have last : ∀ {m : Party}, m.Each (fun ces => ces.id ≠ id → P ces) → m.call.state.frees →
      m.indicate s id .releaseComplete = some q → q.Each P ∧ id ∉ q.terminals.ids := by
    intro m others frees done
    obtain ⟨left, -⟩ := indicate_releaseComplete frees done
    have other : ∀ ces ∈ q.terminals.ces, ces ∈ m.terminals.ces ∧ ces.id ≠ id := by
      intro ces member
      rw [left] at member
      exact ⟨List.mem_of_mem_filter member, bne_iff_ne.mp (List.mem_filter.mp member).2⟩
    refine ⟨fun ces member => others ces (other ces member).1 (other ces member).2, fun member => ?_⟩
    obtain ⟨ces, member, same⟩ := Terminals.mem_ids.mp member
    exact (other ces member).2 same
  rcases ends with rfl | rfl
  · rw [Party.tell, List.foldlM_cons] at done
    obtain ⟨m, first, rest⟩ := Option.bind_eq_some_iff.mp done
    obtain rfl := Option.some.inj rest
    exact last others frees first
  · rw [Party.tell, List.foldlM_cons] at done
    obtain ⟨m, first, rest⟩ := Option.bind_eq_some_iff.mp done
    rw [List.foldlM_cons] at rest
    obtain ⟨n, second, rest⟩ := Option.bind_eq_some_iff.mp rest
    obtain rfl := Option.some.inj rest
    refine last (others.indicate ?_ first) (indicate_frees frees first) second
    refine ⟨fun callT322 request ces held different => ?_, fun _ => lasts.born⟩
    have same : (Terminals.ask callT322 request ces).id = ces.id := Ces.perform_id _
    rw [same] at different
    exact lasts.asked callT322 request ces (held different)

end Party

end Vstuff.Q931.Call
