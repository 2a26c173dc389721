import Vstuff.Q931.CallSides

/-! The B channels of an interface (`channel.c`): their states, which call each is
for, and what the acts of a call do to them. A channel and its call point to each
other; the three functions that select a channel trust the state AVAILABLE. -/
namespace Vstuff.Q931.Call
set_option linter.all false

/-- `enum q931_channel_state`. -/
inductive ChannelState where
  | maintainance | available | selected | connected | disconnected | leased
  deriving DecidableEq, Repr

/-- `struct q931_channel`; a call is named by a number. -/
structure Channel where
  state : ChannelState
  call : Option Nat := none
  deriving DecidableEq, Repr

/-- The channels of an interface, and `call->channel` of each call. -/
structure Channels where
  count : Nat
  channel : Nat → Channel
  channelOf : Nat → Option Nat

/-- Why an act is not carried out: an assertion on a channel or its call fails, an
element that is not there is looked at, or the program does something else that is
not defined. -/
inductive Fault where
  | aborts | undefined
  deriving DecidableEq, Repr

/-- The channel identification of a message. -/
def indicated (ies : List Content) : Option ChannelIdentification :=
  ies.findSome? fun | .channelIdentification ie => some ie | _ => none

def exclusive : Nat := 1

namespace Channels

/-- The channels when the interface is opened; the memory behind them is zero. -/
def init (count : Nat) : Channels where
  count := count
  channel c := { state := if c < count then .available else .maintainance }
  channelOf _ := none

section
variable (lines : Channels)

def setState (c : Nat) (state : ChannelState) : Channels :=
  { lines with channel := Function.update lines.channel c { lines.channel c with state := state } }

def available (c : Nat) : Bool := (lines.channel c).state == .available

def firstAvailable : Option Nat := (List.range lines.count).find? lines.available

/-- The channel is given to the call. -/
def attach (id c : Nat) (state : ChannelState) : Channels where
  count := lines.count
  channel := Function.update lines.channel c { state := state, call := some id }
  channelOf := Function.update lines.channelOf id (some c)

variable (id : Nat) (ci : Option ChannelIdentification)

/-- `q931_channel_connect` and `q931_channel_control`, which are the same. -/
def connect : Except Fault Channels :=
  match lines.channelOf id with
  | none => .error .aborts
  | some c =>
    if (lines.channel c).call = none then .error .aborts else .ok (lines.setState c .connected)

/-- `q931_channel_disconnect`. -/
def disconnect : Except Fault Channels :=
  match lines.channelOf id with
  | none => .ok lines
  | some c =>
    if (lines.channel c).call = none then .error .aborts
    else if (lines.channel c).state = .connected then .ok (lines.setState c .disconnected)
    else .ok lines

/-- `q931_channel_release`. It is the call the channel is for that loses it. -/
def release : Except Fault Channels :=
  match lines.channelOf id with
  | none => .ok lines
  | some c =>
    match (lines.channel c).call with
    | none => .error .aborts
    | some owner => .ok {
        count := lines.count
        channel := Function.update lines.channel c { state := .available }
        channelOf := Function.update lines.channelOf owner none }

/-- `q931_channel_start_tone`, `q931_channel_stop_tone` and `q931_chanset_add`, which
ask for a channel. -/
def require : Except Fault Channels :=
  match lines.channelOf id with
  | none => .error .aborts
  | some _ => .ok lines

/-- The channel of a call that is not released by the peer. -/
def maintain : Except Fault Channels :=
  match lines.channelOf id with
  | none => .ok lines
  | some c => .ok (lines.setState c .maintainance)

/-- `q931_channel_acquire`. -/
def acquire : Except Fault Channels :=
  match lines.channelOf id with
  | some _ => .error .undefined
  | none =>
    match lines.firstAvailable with
    | some c => .ok (lines.attach id c .selected)
    | none => .ok lines

/-- `q931_channel_select_setup`. The peer may insist on the first channel. -/
def selectSetup : Option Nat :=
  match ci with
  | none => lines.firstAvailable
  | some ci =>
    match ci.chanset with
    | [] => none
    | first :: _ =>
      if ci.preferredExclusive = exclusive then if lines.available first then some first else none
      else (ci.chanset.find? lines.available).or lines.firstAvailable

/-- The channel of a response that a call is to use in place of its own. -/
def another : Option Nat :=
  match ci with
  | none => none
  | some ci =>
    match lines.channelOf id with
    | none => ci.chanset.find? lines.available
    | some c => if c ∈ ci.chanset then none else ci.chanset.find? lines.available

/-- What `q931_channel_select_response` returns. -/
def responds : Bool :=
  (lines.another id ci).isSome ||
  match ci, lines.channelOf id with
  | none, some _ => true
  | some ci, some c => decide (c ∈ ci.chanset)
  | _, none => false

/-- What `q931_channel_select_response` does. Its loops end only at an available
channel. -/
def selectResponse : Except Fault Channels :=
  match ci, lines.channelOf id with
  | none, none => .ok lines
  | none, some c => .ok { lines with
      channel := Function.update lines.channel c { lines.channel c with call := some id } }
  | some ci, none =>
    match lines.another id (some ci) with
    | some d => .ok (lines.attach id d .selected)
    | none => if ci.chanset = [] then .ok lines else .error .undefined
  | some ci, some c =>
    if c ∈ ci.chanset then .ok lines
    else
      match lines.another id (some ci) with
      | some d => (lines.release id).map (·.attach id d .selected)
      | none => if ci.chanset = [] then .ok lines else .error .undefined

/-- What an act does to the channels. -/
def act : Act → Except Fault Channels
  | .connect | .control => lines.connect id
  | .disconnect => lines.disconnect id
  | .release => lines.release id
  | .startTone | .stopTone | .chansetAdd => lines.require id
  | .maintain => lines.maintain id
  | .acquire => lines.acquire id
  | .selectResponse => lines.selectResponse id ci
  | .take marked =>
    match lines.selectSetup ci with
    | some c => .ok (lines.attach id c (if marked then .selected else (lines.channel c).state))
    | none => .error .undefined
  | .forget => .ok { lines with channelOf := Function.update lines.channelOf id none }
  | .absentIe => .error .aborts
  | _ => .ok lines

/-- The acts one after the other. -/
def perform (acts : List Act) : Except Fault Channels := acts.foldlM (fun lines act => lines.act id ci act) lines

end

/-! ## Channels and calls point to each other -/

/-- The call of a channel has that channel; and so for a living call the other way
round. -/
structure Linked (live : Nat → Prop) (lines : Channels) : Prop where
  owner : ∀ {c id}, (lines.channel c).call = some id → lines.channelOf id = some c
  held : ∀ {c id}, live id → lines.channelOf id = some c → (lines.channel c).call = some id

theorem init_linked (live : Nat → Prop) (count : Nat) : Linked live (init count) where
  owner := nofun
  held := nofun

section Linked
variable {live : Nat → Prop} {lines next : Channels} {id c : Nat} {ci : Option ChannelIdentification}

theorem setState_call (state : ChannelState) (d : Nat) :
    ((lines.setState c state).channel d).call = (lines.channel d).call := by
  by_cases same : d = c
  · subst same
    simp [setState]
  · simp [setState, Function.update_of_ne same]

theorem setState_linked (linked : Linked live lines) (state : ChannelState) : Linked live (lines.setState c state) where
  owner call := linked.owner ((setState_call state _).symm.trans call)
  held alive has := (setState_call state _).trans (linked.held alive has)

/-- A channel that no living call has is given to a call that has none. -/
theorem attach_linked (linked : Linked live lines) (state : ChannelState) (none : lines.channelOf id = none)
    (free : ∀ other, (lines.channel c).call = some other → ¬ live other) :
    Linked live (lines.attach id c state) where
  owner := by
    intro d other call
    by_cases same : d = c
    · subst same
      simp only [attach, Function.update_self, Option.some.injEq] at call ⊢
      rw [call, Function.update_self]
    · simp only [attach, Function.update_of_ne same] at call ⊢
      have has := linked.owner call
      have differs : other ≠ id := by
        rintro rfl
        rw [none] at has
        cases has
      rw [Function.update_of_ne differs, has]
  held := by
    intro d other alive has
    by_cases same : other = id
    · subst same
      simp only [attach, Function.update_self, Option.some.injEq] at has ⊢
      rw [has, Function.update_self]
    · simp only [attach, Function.update_of_ne same] at has ⊢
      have call := linked.held alive has
      have differs : d ≠ c := by
        rintro rfl
        exact free other call alive
      rw [Function.update_of_ne differs, call]

/-- The channels without that of a call. -/
def without (lines : Channels) (id : Nat) : Channels where
  count := lines.count
  channel := match lines.channelOf id with
    | none => lines.channel
    | some c => Function.update lines.channel c { state := .available }
  channelOf := Function.update lines.channelOf id none

/-- A living call gives up its channel. -/
theorem release_eq (linked : Linked live lines) (alive : live id) : lines.release id = .ok (lines.without id) := by
  unfold release without
  cases has : lines.channelOf id with
  | none => rw [Function.update_eq_self_iff.mpr has.symm]
  | some c => simp only [linked.held alive has]

theorem without_call {other d : Nat} (call : ((lines.without id).channel d).call = some other) :
    (lines.channel d).call = some other ∧ lines.channelOf id ≠ some d := by
  cases has : lines.channelOf id with
  | none =>
    simp only [without, has] at call
    exact ⟨call, nofun⟩
  | some c =>
    simp only [without, has] at call
    by_cases same : d = c
    · subst same
      simp at call
    · rw [Function.update_of_ne same] at call
      exact ⟨call, fun is => same (Option.some.inj is).symm⟩

theorem without_linked (linked : Linked live lines) (lives : live id) : Linked live (lines.without id) where
  owner := by
    intro d other call
    obtain ⟨before, differs⟩ := without_call call
    have has := linked.owner before
    have different : other ≠ id := by
      rintro rfl
      exact differs has
    simp only [without, Function.update_of_ne different, has]
  held := by
    intro d other alive has
    by_cases same : other = id
    · subst same
      simp [without] at has
    · simp only [without, Function.update_of_ne same] at has ⊢
      have call := linked.held alive has
      cases gone : lines.channelOf id with
      | none => exact call
      | some c =>
        have differs : d ≠ c := by
          rintro rfl
          exact same (Option.some.inj (call.symm.trans (linked.held lives gone)))
        simp only [Function.update_of_ne differs, call]

/-- What becomes of the channels when a call acts: they stay linked, those of other
calls stay, and the call has one or has none. -/
structure Moves (live : Nat → Prop) (lines : Channels) (id : Nat) (attached : Bool) (next : Channels) : Prop where
  linked : Linked live next
  others : ∀ other, other ≠ id → next.channelOf other = lines.channelOf other
  attached : (next.channelOf id).isSome = attached

theorem setState_moves (linked : Linked live lines) (state : ChannelState) :
    Moves live lines id (lines.channelOf id).isSome (lines.setState c state) :=
  ⟨setState_linked linked state, fun _ _ => rfl, rfl⟩

theorem stays_moves (linked : Linked live lines) : Moves live lines id (lines.channelOf id).isSome lines :=
  ⟨linked, fun _ _ => rfl, rfl⟩

theorem attach_moves (linked : Linked live lines) (state : ChannelState) (none : lines.channelOf id = none)
    (free : ∀ other, (lines.channel c).call = some other → ¬ live other) :
    Moves live lines id true (lines.attach id c state) :=
  ⟨attach_linked linked state none free, fun _ different => Function.update_of_ne different .., by simp [attach]⟩

theorem without_moves (linked : Linked live lines) (alive : live id) :
    Moves live lines id false (lines.without id) :=
  ⟨without_linked linked alive, fun _ different => Function.update_of_ne different .., by simp [without]⟩

theorem connect_moves (linked : Linked live lines) (done : lines.connect id = .ok next) :
    Moves live lines id (lines.channelOf id).isSome next := by
  unfold connect at done
  split at done
  · cases done
  · split at done
    · cases done
    · cases done
      exact setState_moves linked _

theorem disconnect_moves (linked : Linked live lines) (done : lines.disconnect id = .ok next) :
    Moves live lines id (lines.channelOf id).isSome next := by
  unfold disconnect at done
  split at done
  · cases done
    exact stays_moves linked
  · split at done
    · cases done
    · split at done
      · cases done
        exact setState_moves linked _
      · cases done
        exact stays_moves linked

theorem require_moves (linked : Linked live lines) (done : lines.require id = .ok next) :
    Moves live lines id (lines.channelOf id).isSome next := by
  unfold require at done
  split at done
  · cases done
  · cases done
    exact stays_moves linked

theorem maintain_moves (linked : Linked live lines) (done : lines.maintain id = .ok next) :
    Moves live lines id (lines.channelOf id).isSome next := by
  unfold maintain at done
  split at done
  · cases done
    exact stays_moves linked
  · cases done
    exact setState_moves linked _

theorem acquire_moves (linked : Linked live lines)
    (free : ∀ c, lines.firstAvailable = some c → ∀ other, (lines.channel c).call = some other → ¬ live other)
    (done : lines.acquire id = .ok next) :
    Moves live lines id ((lines.channelOf id).isSome || lines.firstAvailable.isSome) next := by
  unfold acquire at done
  split at done
  · cases done
  · next none =>
    split at done
    · next c first =>
      cases done
      rw [none, first]
      exact attach_moves linked _ none (free c first)
    · next nothing =>
      cases done
      rw [nothing, Option.isSome_none, Bool.or_false]
      exact stays_moves linked

theorem Moves.trans {last : Channels} {first second : Bool} (before : Moves live lines id first next)
    (after : Moves live next id second last) : Moves live lines id second last :=
  ⟨after.linked, fun other different => (after.others other different).trans (before.others other different),
    after.attached⟩

theorem selectSetup_available (chosen : lines.selectSetup ci = some c) : lines.available c = true := by
  unfold selectSetup at chosen
  split at chosen
  · exact List.find?_some chosen
  · split at chosen
    · cases chosen
    · split_ifs at chosen with strict free
      · cases chosen
        exact free
      · rcases Option.or_eq_some_iff.mp chosen with inside | ⟨-, first⟩
        · exact List.find?_some inside
        · exact List.find?_some first

theorem selectResponse_moves (linked : Linked live lines) (alive : live id)
    (free : ∀ c, lines.another id ci = some c → ∀ other, (lines.channel c).call = some other → ¬ live other)
    (done : lines.selectResponse id ci = .ok next) :
    Moves live lines id ((lines.channelOf id).isSome || lines.responds id ci) next := by
  have stays : ∀ responds, (lines.channelOf id).isSome = ((lines.channelOf id).isSome || responds) →
      Moves live lines id ((lines.channelOf id).isSome || responds) lines := by
    intro responds same
    rw [← same]
    exact stays_moves linked
  cases ci with
  | none =>
    cases has : lines.channelOf id with
    | none =>
      simp only [selectResponse, has, Except.ok.injEq] at done
      subst done
      rw [← has]
      exact stays _ (by simp [responds, another, has])
    | some c =>
      simp only [selectResponse, has, Except.ok.injEq] at done
      have same : Function.update lines.channel c { lines.channel c with call := some id } = lines.channel := by
        refine Function.update_eq_self_iff.mpr ?_
        rw [← linked.held alive has]
      rw [same] at done
      subst done
      rw [← has]
      exact stays _ (by simp [has])
  | some ci =>
    cases has : lines.channelOf id with
    | none =>
      simp only [selectResponse, has] at done
      cases found : lines.another id (some ci) with
      | some d =>
        simp only [found, Except.ok.injEq] at done
        subst done
        simpa [responds, found] using attach_moves linked .selected has (free d found)
      | none =>
        simp only [found] at done
        split_ifs at done
        cases done
        rw [← has]
        exact stays _ (by simp [responds, found, has])
    | some c =>
      simp only [selectResponse, has] at done
      by_cases contains : c ∈ ci.chanset
      · rw [if_pos contains] at done
        cases done
        rw [← has]
        exact stays _ (by simp [has])
      · rw [if_neg contains] at done
        cases found : lines.another id (some ci) with
        | some d =>
          simp only [found, release_eq linked alive, Except.map, Except.ok.injEq] at done
          subst done
          refine (without_moves linked alive).trans ?_
          simpa [responds, found] using attach_moves (without_linked linked alive) .selected
            (by simp [without]) fun other call => free d found other (without_call call).1
        | none =>
          simp only [found] at done
          split_ifs at done
          cases done
          rw [← has]
          exact stays _ (by simp [has])

/-- What an act does to whether the call has a channel; `got` says what the function
that looks for one finds. -/
def attaches (got attached : Bool) : Act → Bool
  | .acquire | .selectResponse => attached || got
  | .take _ => true
  | .forget | .release => false
  | _ => attached

/-- The channel that would be given to the call. -/
def chosen (lines : Channels) (id : Nat) (ci : Option ChannelIdentification) : Act → Option Nat
  | .acquire => lines.firstAvailable
  | .selectResponse => lines.another id ci
  | .take _ => lines.selectSetup ci
  | _ => none

/-- What the function that looks for a channel finds. -/
def gets (lines : Channels) (id : Nat) (ci : Option ChannelIdentification) : Act → Option Bool
  | .acquire => some lines.firstAvailable.isSome
  | .selectResponse => some (lines.responds id ci)
  | _ => none

/-- A SETUP finds the call without a channel. -/
def takes : Act → Bool
  | .take _ | .forget => true
  | _ => false

/-- The channels a handler would give to the call belong to no living call, it finds
what it is said to, and a SETUP finds the call without a channel. -/
structure Ready (live : Nat → Prop) (lines : Channels) (id : Nat) (ci : Option ChannelIdentification)
    (got : Bool) (acts : List Act) : Prop where
  free : ∀ act ∈ acts, ∀ c, lines.chosen id ci act = some c →
    ∀ other, (lines.channel c).call = some other → ¬ live other
  found : ∀ act ∈ acts, ∀ value, lines.gets id ci act = some value → got = value
  none : ∀ act ∈ acts, takes act → lines.channelOf id = none

theorem act_moves {act : Act} {acts : List Act} {got : Bool} (linked : Linked live lines) (alive : live id)
    (ready : Ready live lines id ci got (act :: acts)) (done : lines.act id ci act = .ok next) :
    Moves live lines id (attaches got (lines.channelOf id).isSome act) next := by
  have free := ready.free act (List.mem_cons_self ..)
  have found := ready.found act (List.mem_cons_self ..)
  have none := ready.none act (List.mem_cons_self ..)
  cases act with
  | connect | control => exact connect_moves linked done
  | disconnect => exact disconnect_moves linked done
  | release =>
    rw [Channels.act, release_eq linked alive] at done
    cases done
    exact without_moves linked alive
  | startTone | stopTone | chansetAdd => exact require_moves linked done
  | maintain => exact maintain_moves linked done
  | acquire =>
    rw [found _ rfl]
    exact acquire_moves linked free done
  | selectResponse =>
    rw [found _ rfl]
    exact selectResponse_moves linked alive free done
  | take marked =>
    simp only [Channels.act] at done
    split at done
    · next c fits =>
      cases done
      exact attach_moves linked _ (none rfl) (free c fits)
    · cases done
  | forget =>
    cases done
    have same : Function.update lines.channelOf id Option.none = lines.channelOf :=
      Function.update_eq_self_iff.mpr (none rfl).symm
    rw [same]
    have idle : attaches got (lines.channelOf id).isSome .forget = (lines.channelOf id).isSome := by
      rw [none rfl]
      rfl
    rw [idle]
    exact stays_moves linked
  | absentIe => cases done
  | _ =>
    cases done
    exact stays_moves linked

/-! ## The acts of a handler -/

/-- The acts that look for a channel. -/
def selects : Act → Bool
  | .acquire | .selectResponse | .take _ | .forget => true
  | _ => false

/-- The acts that change a channel. -/
def touches : Act → Bool
  | .connect | .control | .disconnect | .release | .maintain => true
  | act => selects act

/-- The acts that ask for a channel. -/
def needs : Act → Bool
  | .connect | .control | .startTone | .stopTone | .chansetAdd => true
  | _ => false

/-- A channel is looked for once, and before any is changed. -/
def ordered : List Act → Bool
  | [] => true
  | act :: rest => if touches act then rest.all (!selects ·) else ordered rest

def attachedAfter (got attached : Bool) (acts : List Act) : Bool := acts.foldl (attaches got) attached

theorem act_untouched {act : Act} (plain : touches act = false) (done : lines.act id ci act = .ok next) :
    next = lines := by
  cases act with
  | startTone | stopTone | chansetAdd =>
    simp only [Channels.act, require] at done
    split at done
    · cases done
    · cases done
      rfl
  | connect | control | disconnect | release | maintain | acquire | selectResponse | take | forget => cases plain
  | absentIe => cases done
  | _ =>
    cases done
    rfl

theorem Ready.tail {act : Act} {acts : List Act} {got : Bool} (ready : Ready live lines id ci got (act :: acts)) :
    Ready live lines id ci got acts :=
  ⟨fun act member => ready.free act (List.mem_cons_of_mem _ member),
    fun act member => ready.found act (List.mem_cons_of_mem _ member),
    fun act member => ready.none act (List.mem_cons_of_mem _ member)⟩

theorem ready_of_not_selects {acts : List Act} (none : acts.all (!selects ·)) (got : Bool) :
    Ready live lines id ci got acts := by
  have plain : ∀ act ∈ acts, selects act = false := by
    intro act member
    simpa using List.all_eq_true.mp none act member
  refine ⟨fun act member c chosen => ?_, fun act member value gets => ?_, fun act member taking => ?_⟩
  · have quiet := plain act member
    cases act with
    | acquire | selectResponse | take => cases quiet
    | _ => cases chosen
  · have quiet := plain act member
    cases act with
    | acquire | selectResponse => cases quiet
    | _ => cases gets
  · have quiet := plain act member
    cases act with
    | take | forget => cases quiet
    | _ => cases taking

theorem perform_cons_ok {act : Act} {acts : List Act} (done : lines.perform id ci (act :: acts) = .ok next) :
    ∃ middle, lines.act id ci act = .ok middle ∧ middle.perform id ci acts = .ok next := by
  simp only [perform, List.foldlM_cons] at done
  cases first : lines.act id ci act with
  | error fault =>
    rw [first] at done
    cases done
  | ok middle =>
    rw [first] at done
    exact ⟨middle, rfl, done⟩

theorem ordered_of_not_selects {acts : List Act} (none : acts.all (!selects ·)) : ordered acts := by
  induction acts with
  | nil => rfl
  | cons act acts ih =>
    obtain ⟨-, rest⟩ := (Bool.and_eq_true _ _).mp (List.all_cons.symm.trans none)
    rw [ordered]
    split_ifs
    · exact rest
    · exact ih rest

/-- An act leaves the rest of the handler ready. -/
theorem act_ready {act : Act} {acts : List Act} {got : Bool} (order : ordered (act :: acts))
    (ready : Ready live lines id ci got (act :: acts)) (first : lines.act id ci act = .ok next) :
    ordered acts ∧ Ready live next id ci got acts := by
  rw [ordered] at order
  split_ifs at order with touched
  · -- nothing is looked for any more
    exact ⟨ordered_of_not_selects order, ready_of_not_selects order got⟩
  · obtain rfl := act_untouched (Bool.eq_false_iff.mpr touched) first
    exact ⟨order, ready.tail⟩

/-- A handler keeps the channels linked. -/
theorem perform_moves {acts : List Act} {got : Bool} (order : ordered acts) (linked : Linked live lines) (alive : live id)
    (ready : Ready live lines id ci got acts) (done : lines.perform id ci acts = .ok next) :
    Moves live lines id (attachedAfter got (lines.channelOf id).isSome acts) next := by
  induction acts generalizing lines with
  | nil =>
    cases done
    exact stays_moves linked
  | cons act acts ih =>
    obtain ⟨middle, first, rest⟩ := perform_cons_ok done
    obtain ⟨order', ready'⟩ := act_ready order ready first
    have moved := act_moves linked alive ready first
    have moves := ih order' moved.linked ready' rest
    rw [moved.attached] at moves
    exact moved.trans moves

/-- Acts that change no channel and ask for none are carried out. -/
theorem perform_untouched {acts : List Act}
    (plain : ∀ act ∈ acts, touches act = false ∧ needs act = false ∧ act ≠ .absentIe) :
    lines.perform id ci acts = .ok lines := by
  induction acts with
  | nil => rfl
  | cons act acts ih =>
    obtain ⟨untouched, unneeded, present⟩ := plain act (List.mem_cons_self ..)
    have first : lines.act id ci act = .ok lines := by
      cases act with
      | connect | control | disconnect | release | maintain | acquire | selectResponse | take | forget => cases untouched
      | startTone | stopTone | chansetAdd => cases unneeded
      | absentIe => exact absurd rfl present
      | _ => rfl
    simp only [perform, List.foldlM_cons, first]
    exact ih fun act member => plain act (List.mem_cons_of_mem _ member)

/-- A channel in place of the call's own is another one. -/
theorem chosen_ne {act : Act} (without : act = .acquire ∨ takes act → lines.channelOf id = none)
    (chosen : lines.chosen id ci act = some c) : lines.channelOf id ≠ some c := by
  cases act with
  | acquire =>
    rw [without (.inl rfl)]
    nofun
  | take =>
    rw [without (.inr rfl)]
    nofun
  | selectResponse =>
    intro own
    simp only [Channels.chosen, another, own] at chosen
    split at chosen
    · cases chosen
    · split_ifs at chosen with contains
      exact contains (List.mem_of_find?_eq_some chosen)
  | _ => cases chosen

/-! ## Channels in use are not available -/

/-- The channel of a call is not available. -/
def Busy (lines : Channels) : Prop :=
  ∀ c, (lines.channel c).call ≠ none → (lines.channel c).state ≠ .available

theorem update_busy (busy : Busy lines) (channel : Channel) (own : channel.call ≠ none → channel.state ≠ .available)
    (channelOf : Nat → Option Nat) :
    Busy { lines with channel := Function.update lines.channel c channel, channelOf := channelOf } := by
  intro d
  by_cases same : d = c
  · subst same
    simpa using own
  · simpa [Function.update_of_ne same] using busy d

theorem setState_busy (busy : Busy lines) {state : ChannelState} (used : state ≠ .available) :
    Busy (lines.setState c state) :=
  update_busy busy _ (fun _ => used) lines.channelOf

theorem attach_busy (busy : Busy lines) : Busy (lines.attach id c .selected) :=
  update_busy busy { state := .selected, call := some id } (fun _ => nofun) _

theorem without_busy (busy : Busy lines) : Busy (lines.without id) := by
  unfold without
  cases lines.channelOf id with
  | none => exact busy
  | some c => exact update_busy busy { state := .available } (fun call => absurd rfl call) _

theorem selectResponse_busy (linked : Linked live lines) (alive : live id) (busy : Busy lines)
    (done : lines.selectResponse id ci = .ok next) : Busy next := by
  unfold selectResponse at done
  split at done
  · cases done
    exact busy
  · next c has =>
    cases done
    have used : (lines.channel c).call ≠ none := by
      rw [linked.held alive has]
      nofun
    exact update_busy busy { lines.channel c with call := some id } (fun _ => busy c used) lines.channelOf
  · split at done
    · cases done
      exact attach_busy busy
    · split_ifs at done
      cases done
      exact busy
  · split at done
    · cases done
      exact busy
    · split at done
      · rw [release_eq linked alive] at done
        cases done
        exact attach_busy (without_busy busy)
      · split_ifs at done
        cases done
        exact busy

/-- A channel is marked when it is given to a call, but for the SETUP of a terminal. -/
theorem act_busy {act : Act} (linked : Linked live lines) (alive : live id) (busy : Busy lines)
    (marked : act ≠ .take false) (done : lines.act id ci act = .ok next) : Busy next := by
  cases act with
  | connect | control =>
    simp only [Channels.act, connect] at done
    split at done
    · cases done
    · split_ifs at done
      cases done
      exact setState_busy busy nofun
  | disconnect =>
    simp only [Channels.act, disconnect] at done
    split at done
    · cases done
      exact busy
    · split_ifs at done
      · cases done
        exact setState_busy busy nofun
      · cases done
        exact busy
  | release =>
    rw [Channels.act, release_eq linked alive] at done
    cases done
    exact without_busy busy
  | startTone | stopTone | chansetAdd =>
    rw [act_untouched rfl done]
    exact busy
  | maintain =>
    simp only [Channels.act, maintain] at done
    split at done
    · cases done
      exact busy
    · cases done
      exact setState_busy busy nofun
  | acquire =>
    simp only [Channels.act, acquire] at done
    split at done
    · cases done
    · split at done
      · cases done
        exact attach_busy busy
      · cases done
        exact busy
  | selectResponse => exact selectResponse_busy linked alive busy done
  | take mark =>
    cases mark with
    | false => exact absurd rfl marked
    | true =>
      simp only [Channels.act] at done
      split at done
      · cases done
        exact attach_busy busy
      · cases done
  | forget =>
    cases done
    exact busy
  | absentIe => cases done
  | _ =>
    cases done
    exact busy

theorem perform_busy {acts : List Act} {got : Bool} (order : ordered acts) (linked : Linked live lines)
    (alive : live id) (ready : Ready live lines id ci got acts) (busy : Busy lines) (marked : .take false ∉ acts)
    (done : lines.perform id ci acts = .ok next) : Busy next := by
  induction acts generalizing lines with
  | nil =>
    cases done
    exact busy
  | cons act acts ih =>
    obtain ⟨middle, first, rest⟩ := perform_cons_ok done
    obtain ⟨order', ready'⟩ := act_ready order ready first
    obtain ⟨here, later⟩ := not_or.mp (mt List.mem_cons.mpr marked)
    exact ih order' (act_moves linked alive ready first).linked ready'
      (act_busy linked alive busy (Ne.symm here) first) later rest

/-! ## Channels that are asked for are there -/

/-- The acts find what they ask for. -/
def safe (got : Bool) : Bool → List Act → Bool
  | _, [] => true
  | attached, act :: rest =>
    (!needs act || attached) && act != .absentIe && safe got (attaches got attached act) rest

theorem act_safe {act : Act} (linked : Linked live lines) (alive : live id)
    (asked : needs act → (lines.channelOf id).isSome) (present : act ≠ .absentIe) :
    lines.act id ci act ≠ .error .aborts := by
  intro aborts
  have called : ∀ {c}, lines.channelOf id = some c → (lines.channel c).call ≠ none := by
    intro c has
    rw [linked.held alive has]
    nofun
  cases act with
  | connect | control =>
    obtain ⟨c, has⟩ := Option.isSome_iff_exists.mp (asked rfl)
    simp [Channels.act, connect, has, called has] at aborts
  | startTone | stopTone | chansetAdd =>
    obtain ⟨c, has⟩ := Option.isSome_iff_exists.mp (asked rfl)
    simp [Channels.act, require, has] at aborts
  | disconnect =>
    simp only [Channels.act, disconnect] at aborts
    split at aborts
    · cases aborts
    · next c has =>
      rw [if_neg (called has)] at aborts
      split_ifs at aborts
  | release =>
    rw [Channels.act, release_eq linked alive] at aborts
    cases aborts
  | maintain =>
    simp only [Channels.act, maintain] at aborts
    split at aborts <;> cases aborts
  | acquire =>
    simp only [Channels.act, acquire] at aborts
    split at aborts
    · cases aborts
    · split at aborts <;> cases aborts
  | selectResponse =>
    simp only [Channels.act, selectResponse] at aborts
    split at aborts
    · cases aborts
    · cases aborts
    · split at aborts
      · cases aborts
      · split at aborts <;> cases aborts
    · split at aborts
      · cases aborts
      · split at aborts
        · rw [release_eq linked alive] at aborts
          cases aborts
        · split at aborts <;> cases aborts
  | take =>
    simp only [Channels.act] at aborts
    split at aborts <;> cases aborts
  | absentIe => exact present rfl
  | _ => cases aborts

theorem perform_safe {acts : List Act} {got : Bool} (order : ordered acts) (linked : Linked live lines)
    (alive : live id) (ready : Ready live lines id ci got acts)
    (sound : safe got (lines.channelOf id).isSome acts) : lines.perform id ci acts ≠ .error .aborts := by
  induction acts generalizing lines with
  | nil => nofun
  | cons act acts ih =>
    simp only [safe, Bool.and_eq_true, Bool.or_eq_true, Bool.not_eq_true', bne_iff_ne] at sound
    obtain ⟨⟨asked, present⟩, later⟩ := sound
    have here : lines.act id ci act ≠ .error .aborts :=
      act_safe linked alive (fun need => asked.resolve_left (by rw [need]; nofun)) present
    simp only [perform, List.foldlM_cons]
    cases first : lines.act id ci act with
    | error fault =>
      rw [first] at here
      exact here
    | ok middle =>
      obtain ⟨order', ready'⟩ := act_ready order ready first
      have moved := act_moves linked alive ready first
      refine ih order' moved.linked ready' ?_
      rw [moved.attached]
      exact later

end Linked

end Channels

end Vstuff.Q931.Call
