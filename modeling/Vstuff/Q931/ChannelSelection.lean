import Vstuff.Q931.Channels

/-! The two functions of `call.c` that select a channel, with the causes they add.

`Channels` says what they do to the channels; here are their loops, and what they
leave to the handler when no channel is selected. -/
namespace Vstuff.Q931.Call
set_option linter.all false

/-- `Q931_IE_C_CV_CHANNEL_UNACCEPTABLE`. -/
def channelUnacceptable : Nat := 6

/-- `Q931_IE_C_CV_NO_CIRCUIT_CHANNEL_AVAILABLE`. -/
def noCircuitChannelAvailable : Nat := 34

/-- `Q931_IE_C_CV_REQUESTED_CIRCUIT_CHANNEL_NOT_AVAILABLE`. -/
def requestedCircuitChannelNotAvailable : Nat := 44

/-- The cause both functions make; the location is that of the call. -/
def selectionCause (location value : Nat) : Cause := { codingStandard := 0, location := location, value := value }

/-- What `q931_channel_select_response` returns and leaves behind, with the channel
for which `Q931_CCB_DISCONNECT_CHANNEL` is sent. -/
structure Selection where
  found : Bool
  causes : List Cause := []
  disconnected : Option Nat := none
  lines : Channels

/-- What `q931_channel_select_setup` returns and leaves behind. -/
structure SetupSelection where
  channel : Option Nat := none
  causes : List Cause := []
  bumpingNeeded : Bool := false
  deriving DecidableEq, Repr

/-- The causes of the RELEASE COMPLETE of `q931_handle_setup`, which is sent for want
of a channel. -/
def SetupSelection.releaseComplete (selection : SetupSelection) : Option (List Cause) :=
  if selection.channel.isSome then none else some selection.causes

/-- A selection is a channel, or a cause. -/
def SetupSelection.Explained (selection : SetupSelection) : Prop :=
  selection.channel = none → selection.causes.length = 1

theorem SetupSelection.Explained.carries {selection : SetupSelection} {causes : List Cause} (explained : selection.Explained)
    (sent : selection.releaseComplete = some causes) : causes ≠ [] := by
  unfold SetupSelection.releaseComplete at sent
  split_ifs at sent with found
  cases sent
  rintro none
  have one := explained (Option.not_isSome_iff_eq_none.mp found)
  rw [none] at one
  cases one

namespace Channels

section
variable (lines : Channels) (id location : Nat)

/-- The body of `for (i=0; ci->chanset.nchans; i++)`, from the elements that are left.
The number of elements is compared with nothing: behind the last one a channel that
is not there is looked at. -/
def searchSet : List Nat → Except Fault Nat
  | [] => .error .undefined
  | c :: rest => if lines.available c then .ok c else searchSet rest

/-- `q931_channel_select_response`. -/
def channelSelectResponse (ci : Option ChannelIdentification) : Except Fault Selection :=
  match ci, lines.channelOf id with
  | none, none => .ok { found := false, lines := lines }
  | none, some c => .ok {
      found := true
      lines := { lines with
        channel := Function.update lines.channel c { lines.channel c with call := some id } } }
  | some ci, none =>
    if ci.chanset ≠ [] then do
      let d ← lines.searchSet ci.chanset
      return { found := true, lines := lines.attach id d .selected }
    else .ok { found := false, causes := [selectionCause location channelUnacceptable], lines := lines }
  | some ci, some c =>
    if c ∈ ci.chanset then .ok { found := true, lines := lines }
    else if ci.chanset ≠ [] then do
      let d ← lines.searchSet ci.chanset
      let released ← lines.release id
      return {
        found := true
        disconnected := if (lines.channel c).state = .connected then some c else none
        lines := released.attach id d .selected }
    else .ok {
      found := false
      causes := [selectionCause location requestedCircuitChannelNotAvailable]
      lines := lines }

/-- The loop over the channels of the interface, which `q931_channel_select_setup` has
twice. -/
def selectAny : SetupSelection :=
  match lines.firstAvailable with
  | some c => { channel := some c }
  | none => { causes := [selectionCause location noCircuitChannelAvailable] }

/-- The loop over the channels that are indicated. -/
def selectIndicated (preferredExclusive : Nat) : List Nat → SetupSelection
  | [] => lines.selectAny location
  | c :: rest =>
    if lines.available c then { channel := some c }
    else if preferredExclusive = exclusive then
      { causes := [selectionCause location requestedCircuitChannelNotAvailable] }
    else selectIndicated preferredExclusive rest

/-- `q931_channel_select_setup`. -/
def channelSelectSetup : Option ChannelIdentification → SetupSelection
  | none => lines.selectAny location
  | some ci =>
    if ci.chanset = [] then { bumpingNeeded := true }
    else lines.selectIndicated location ci.preferredExclusive ci.chanset

end

section
variable {lines : Channels} {id location c d : Nat} {ci : ChannelIdentification}

/-! ## The response -/

theorem searchSet_found {chanset : List Nat} (found : chanset.find? lines.available = some d) :
    lines.searchSet chanset = .ok d := by
  induction chanset with
  | nil => cases found
  | cons c rest ih =>
    rw [searchSet]
    rw [List.find?_cons] at found
    cases free : lines.available c with
    | true =>
      simp only [free, Option.some.injEq] at found
      simp only [found, if_true]
    | false =>
      simp only [free] at found
      simpa using ih found

/-- Nothing ends the loop when no channel of the set is available. -/
theorem searchSet_runs_off {chanset : List Nat} (busy : chanset.find? lines.available = none) :
    lines.searchSet chanset = .error .undefined := by
  induction chanset with
  | nil => rfl
  | cons c rest ih =>
    rw [searchSet]
    rw [List.find?_cons] at busy
    cases free : lines.available c with
    | true => simp [free] at busy
    | false =>
      simp only [free] at busy
      simpa using ih busy

/-- The loops do to the channels what the interface is modelled with. -/
theorem channelSelectResponse_lines (lines : Channels) (id location : Nat) (ci : Option ChannelIdentification) :
    (lines.channelSelectResponse id location ci).map Selection.lines = lines.selectResponse id ci := by
  rcases ci with _ | ci
  · cases has : lines.channelOf id <;> simp only [channelSelectResponse, selectResponse, has, Except.map]
  · cases has : lines.channelOf id with
    | none =>
      by_cases empty : ci.chanset = []
      · simp [channelSelectResponse, selectResponse, another, has, empty, Except.map]
      · cases search : ci.chanset.find? lines.available with
        | none =>
          simp [channelSelectResponse, selectResponse, another, has, empty, search, searchSet_runs_off search,
            Except.map, bind, Except.bind]
        | some d =>
          simp [channelSelectResponse, selectResponse, another, has, empty, search, searchSet_found search,
            Except.map, bind, Except.bind, pure, Except.pure]
    | some c =>
      by_cases same : c ∈ ci.chanset
      · simp [channelSelectResponse, selectResponse, has, same, Except.map]
      by_cases empty : ci.chanset = []
      · simp [channelSelectResponse, selectResponse, another, has, empty, Except.map]
      · cases search : ci.chanset.find? lines.available with
        | none =>
          simp [channelSelectResponse, selectResponse, another, has, same, empty, search, searchSet_runs_off search,
            Except.map, bind, Except.bind]
        | some d =>
          cases gone : lines.release id <;>
            simp [channelSelectResponse, selectResponse, another, has, same, empty, search, searchSet_found search,
              gone, Except.map, bind, Except.bind, pure, Except.pure]

/-- The channel the call has need not be changed. -/
def Agreed (lines : Channels) (id : Nat) (ci : Option ChannelIdentification) : Prop :=
  ∀ asked, ci = some asked → ∃ c, lines.channelOf id = some c ∧ c ∈ asked.chanset

/-- What the answer to a response is to be, by the channels before it. -/
structure Answers (lines : Channels) (id : Nat) (ci : Option ChannelIdentification) (answer : Selection) : Prop where
  kept : Agreed lines id ci → answer.found = true ∧ answer.lines.channelOf id = lines.channelOf id
  taken : ¬ Agreed lines id ci → ∀ asked, ci = some asked → ∀ d, asked.chanset.find? lines.available = some d →
    answer.found = true ∧ answer.lines.channelOf id = some d ∧
      answer.lines.channel d = { state := .selected, call := some id } ∧
      ∀ c, lines.channelOf id = some c → (answer.lines.channel c).state = .available
  refused : ¬ Agreed lines id ci → ∀ asked, ci = some asked → asked.chanset.find? lines.available = none →
    answer.found = false ∧ answer.causes.length = 1 ∧ answer.lines = lines

/-- A response that indicates no channel is for a call that has one; and one that
indicates channels, but not that of the call, indicates an available one. The channel
that is then given up is some call's. -/
def Answerable (lines : Channels) (id : Nat) : Option ChannelIdentification → Prop
  | none => lines.channelOf id ≠ none
  | some ci =>
    ci.chanset = [] ∨ (∃ c, lines.channelOf id = some c ∧ c ∈ ci.chanset) ∨
      (∃ d ∈ ci.chanset, lines.available d = true) ∧
        ∀ c, lines.channelOf id = some c → (lines.channel c).call ≠ none

theorem available_found {chanset : List Nat} (available : ∃ d ∈ chanset, lines.available d = true) :
    ∃ d, chanset.find? lines.available = some d ∧ d ∈ chanset := by
  obtain ⟨d, member, free⟩ := available
  cases search : chanset.find? lines.available with
  | none =>
    rw [List.find?_eq_none] at search
    exact absurd free (search d member)
  | some found => exact ⟨found, rfl, List.mem_of_find?_eq_some search⟩

/-- The channel that was proposed is made available, the other one is selected. -/
theorem release_attach {owner : Nat} (has : lines.channelOf id = some c) (call : (lines.channel c).call = some owner)
    (other : c ≠ d) :
    ∃ released, lines.release id = .ok released ∧
      (released.attach id d .selected).channelOf id = some d ∧
      (released.attach id d .selected).channel d = { state := .selected, call := some id } ∧
      ((released.attach id d .selected).channel c).state = .available := by
  refine ⟨_, by rw [release, has]; simp only [call]; rfl, ?_, ?_, ?_⟩
  · simp [attach]
  · simp [attach]
  · simp [attach, Function.update_of_ne other]

theorem unasked (lines : Channels) (id location : Nat) :
    (∃ answer, lines.channelSelectResponse id location none = .ok answer ∧ Answers lines id none answer) ↔
      Answerable lines id none := by
  have agreed : Agreed lines id none := nofun
  cases has : lines.channelOf id with
  | none =>
    simp only [channelSelectResponse, has, Answerable, ne_eq, not_true_eq_false, iff_false]
    rintro ⟨answer, done, answers⟩
    cases done
    exact absurd (answers.kept agreed).1 (by simp)
  | some c =>
    simp only [channelSelectResponse, has, Answerable, ne_eq, reduceCtorEq, not_false_eq_true, iff_true]
    exact ⟨_, rfl, fun _ => ⟨rfl, rfl⟩, fun differs => absurd agreed differs, fun differs => absurd agreed differs⟩

/-- A set of no channels is refused with a cause. -/
theorem refuses_empty (location : Nat) (empty : ci.chanset = []) :
    ∃ answer, lines.channelSelectResponse id location (some ci) = .ok answer ∧ Answers lines id (some ci) answer := by
  have differs : ¬ Agreed lines id (some ci) := by
    intro agreed
    obtain ⟨c, -, member⟩ := agreed ci rfl
    rw [empty] at member
    cases member
  have refuses (causes : List Cause) (one : causes.length = 1) :
      Answers lines id (some ci) { found := false, causes := causes, lines := lines } := by
    refine ⟨fun agreed => absurd agreed differs, ?_, fun _ _ _ _ => ⟨rfl, one, rfl⟩⟩
    intro _ asked is d search
    cases is
    rw [empty] at search
    cases search
  cases has : lines.channelOf id with
  | none =>
    refine ⟨_, ?_, refuses [selectionCause location channelUnacceptable] rfl⟩
    simp [channelSelectResponse, has, empty]
  | some c =>
    refine ⟨_, ?_, refuses [selectionCause location requestedCircuitChannelNotAvailable] rfl⟩
    simp [channelSelectResponse, has, empty]

/-- The channel of the call is in the set. -/
theorem keeps_channel (location : Nat) (has : lines.channelOf id = some c) (member : c ∈ ci.chanset) :
    ∃ answer, lines.channelSelectResponse id location (some ci) = .ok answer ∧ Answers lines id (some ci) answer := by
  have agreed : Agreed lines id (some ci) := by
    rintro asked ⟨⟩
    exact ⟨c, has, member⟩
  refine ⟨{ found := true, lines := lines }, ?_, ?_⟩
  · simp [channelSelectResponse, has, member]
  · exact ⟨fun _ => ⟨rfl, rfl⟩, fun differs => absurd agreed differs, fun differs => absurd agreed differs⟩

/-- An available channel of the set is taken in place of that of the call. -/
theorem takes_channel (location : Nat) (differs : ¬ Agreed lines id (some ci))
    (available : ∃ d ∈ ci.chanset, lines.available d = true)
    (owned : ∀ c, lines.channelOf id = some c → (lines.channel c).call ≠ none) :
    ∃ answer, lines.channelSelectResponse id location (some ci) = .ok answer ∧ Answers lines id (some ci) answer := by
  obtain ⟨d, search, member⟩ := available_found available
  have nonempty : ci.chanset ≠ [] := List.ne_nil_of_mem member
  have takes (answer : Selection) (found : answer.found = true) (has : answer.lines.channelOf id = some d)
      (selected : answer.lines.channel d = { state := .selected, call := some id })
      (given : ∀ c, lines.channelOf id = some c → (answer.lines.channel c).state = .available) :
      Answers lines id (some ci) answer := by
    refine ⟨fun agreed => absurd agreed differs, ?_, ?_⟩
    · rintro - asked ⟨⟩ e first
      rw [search, Option.some.injEq] at first
      subst first
      exact ⟨found, has, selected, given⟩
    · rintro - asked ⟨⟩ busy
      rw [search] at busy
      cases busy
  cases has : lines.channelOf id with
  | none =>
    refine ⟨{ found := true, lines := lines.attach id d .selected }, ?_, ?_⟩
    · simp [channelSelectResponse, has, nonempty, searchSet_found search, bind, Except.bind, pure, Except.pure]
    · refine takes _ rfl (by simp [attach]) (by simp [attach]) ?_
      intro c is
      rw [has] at is
      cases is
  | some c =>
    have out : c ∉ ci.chanset := by
      intro inside
      apply differs
      rintro asked ⟨⟩
      exact ⟨c, has, inside⟩
    have other : c ≠ d := by
      rintro rfl
      exact out member
    obtain ⟨owner, call⟩ := Option.ne_none_iff_exists'.mp (owned c has)
    obtain ⟨released, gone, holds, selected, given⟩ := release_attach has call other
    refine ⟨{
      found := true
      disconnected := if (lines.channel c).state = .connected then some c else none
      lines := released.attach id d .selected }, ?_, ?_⟩
    · simp [channelSelectResponse, has, out, nonempty, searchSet_found search, gone, bind, Except.bind, pure, Except.pure]
    · refine takes _ rfl holds selected ?_
      intro e is
      rw [has, Option.some.injEq] at is
      exact is ▸ given

/-- Where the call's channel is not in a set that is not empty, an answer means that
the set has an available channel. -/
theorem answer_takes {answer : Selection} (differs : ¬ Agreed lines id (some ci)) (nonempty : ci.chanset ≠ [])
    (done : lines.channelSelectResponse id location (some ci) = .ok answer) :
    (∃ d ∈ ci.chanset, lines.available d = true) ∧
      ∀ c, lines.channelOf id = some c → (lines.channel c).call ≠ none := by
  have searched (d : Nat) (found : lines.searchSet ci.chanset = .ok d) :
      ∃ d ∈ ci.chanset, lines.available d = true := by
    cases search : ci.chanset.find? lines.available with
    | none =>
      rw [searchSet_runs_off search] at found
      cases found
    | some e => exact ⟨e, List.mem_of_find?_eq_some search, List.find?_some search⟩
  cases has : lines.channelOf id with
  | none =>
    refine ⟨?_, nofun⟩
    cases search : lines.searchSet ci.chanset with
    | error fault => simp [channelSelectResponse, has, nonempty, search, bind, Except.bind] at done
    | ok d => exact searched d search
  | some c =>
    have out : c ∉ ci.chanset := by
      intro inside
      apply differs
      rintro asked ⟨⟩
      exact ⟨c, has, inside⟩
    cases search : lines.searchSet ci.chanset with
    | error fault => simp [channelSelectResponse, has, out, nonempty, search, bind, Except.bind] at done
    | ok d =>
      refine ⟨searched d search, ?_⟩
      rintro e ⟨⟩ unowned
      simp [channelSelectResponse, has, out, nonempty, search, release, unowned, bind, Except.bind] at done

/-- A response is answered as it should be, exactly when it can be: the loops over its
channels do not look at how many there are, and without channels on either side the
call is refused for no cause. -/
theorem channel_select_response_iff (lines : Channels) (id location : Nat) (ci : Option ChannelIdentification) :
    (∃ answer, lines.channelSelectResponse id location ci = .ok answer ∧ Answers lines id ci answer) ↔
      Answerable lines id ci := by
  rcases ci with _ | ci
  · exact unasked lines id location
  constructor
  · rintro ⟨answer, done, -⟩
    by_cases empty : ci.chanset = []
    · exact Or.inl empty
    by_cases agreed : Agreed lines id (some ci)
    · exact Or.inr (Or.inl (agreed ci rfl))
    · exact Or.inr (Or.inr (answer_takes agreed empty done))
  · rintro (empty | ⟨c, has, member⟩ | ⟨available, owned⟩)
    · exact refuses_empty location empty
    · exact keeps_channel location has member
    · by_cases agreed : Agreed lines id (some ci)
      · obtain ⟨c, has, member⟩ := agreed ci rfl
        exact keeps_channel location has member
      · exact takes_channel location agreed available owned

/-- The only channel that is indicated is leased, and the loop goes on behind it. -/
theorem busy_set_is_left :
    let lines : Channels := {
      count := 2
      channel := fun c => if c = 0 then { state := .selected, call := some 7 } else { state := .leased }
      channelOf := fun id => if id = 7 then some 0 else none }
    let ci : ChannelIdentification := { interfacePrimary := false, preferredExclusive := exclusive, chanset := [1] }
    ¬ ∃ answer, lines.channelSelectResponse 7 0 (some ci) = .ok answer ∧ Answers lines 7 (some ci) answer := by
  rintro lines ci ⟨answer, done, -⟩
  have runs : lines.channelSelectResponse 7 0 (some ci) = .error .undefined := rfl
  rw [runs] at done
  cases done

/-! ## The SETUP -/

theorem selectAny_channel (lines : Channels) (location : Nat) :
    (lines.selectAny location).channel = lines.firstAvailable := by
  unfold selectAny
  cases lines.firstAvailable <;> rfl

theorem firstAvailable_isSome (available : ∃ c < lines.count, lines.available c = true) :
    lines.firstAvailable.isSome = true := by
  obtain ⟨c, inside, free⟩ := available
  exact List.find?_isSome.mpr ⟨c, List.mem_range.mpr inside, free⟩

/-- An exclusive set is its first channel, any other one is looked through. -/
theorem selectIndicated_channel (lines : Channels) (location preferredExclusive : Nat) (chanset : List Nat) :
    (lines.selectIndicated location preferredExclusive chanset).channel =
      match chanset with
      | [] => lines.firstAvailable
      | first :: _ =>
        if preferredExclusive = exclusive then if lines.available first then some first else none
        else (chanset.find? lines.available).or lines.firstAvailable := by
  induction chanset with
  | nil => exact selectAny_channel lines location
  | cons c rest ih =>
    rw [selectIndicated]
    cases free : lines.available c with
    | true => simp [free]
    | false =>
      by_cases strict : preferredExclusive = exclusive
      · simp [strict, free]
      · simp only [strict, free, Bool.false_eq_true, if_false, ih, List.find?_cons]
        cases rest with
        | nil => rfl
        | cons => rfl

/-- The loops find the channel the interface is modelled with. -/
theorem channelSelectSetup_channel (lines : Channels) (location : Nat) (ci : Option ChannelIdentification) :
    (lines.channelSelectSetup location ci).channel = lines.selectSetup ci := by
  rcases ci with _ | ci
  · exact selectAny_channel lines location
  · cases set : ci.chanset with
    | nil => simp [channelSelectSetup, selectSetup, set]
    | cons first rest =>
      simp only [channelSelectSetup, selectSetup, set, reduceCtorEq, if_false, selectIndicated_channel]

theorem selectAny_explained (lines : Channels) (location : Nat) : (lines.selectAny location).Explained := by
  unfold selectAny SetupSelection.Explained
  cases lines.firstAvailable with
  | none => exact fun _ => rfl
  | some c => exact nofun

theorem selectIndicated_explained (lines : Channels) (location preferredExclusive : Nat) (chanset : List Nat) :
    (lines.selectIndicated location preferredExclusive chanset).Explained := by
  induction chanset with
  | nil => exact selectAny_explained lines location
  | cons c rest ih =>
    rw [selectIndicated]
    split_ifs
    · exact nofun
    · exact fun _ => rfl
    · exact ih

/-- A channel identification, if there is one, leaves the choice to the interface. -/
def Lenient (ci : Option ChannelIdentification) : Prop :=
  ∀ asked, ci = some asked → asked.preferredExclusive ≠ exclusive

/-- What the selection on a SETUP is to be. -/
structure SetupAnswers (lines : Channels) (ci : Option ChannelIdentification) (selection : SetupSelection) : Prop where
  available : ∀ c, selection.channel = some c → lines.available c = true
  inSet : ∀ asked, ci = some asked → asked.preferredExclusive = exclusive →
    ∀ c, selection.channel = some c → c ∈ asked.chanset
  indicated : Lenient ci → ∀ asked, ci = some asked → (∃ c ∈ asked.chanset, lines.available c = true) →
    ∃ c ∈ asked.chanset, selection.channel = some c
  any : Lenient ci → (∃ c < lines.count, lines.available c = true) → selection.channel.isSome = true
  explained : selection.channel = none → selection.bumpingNeeded = false → selection.causes.length = 1
  carried : ∀ causes, selection.releaseComplete = some causes → causes ≠ []

/-- The peer that insists on a channel gets that one. -/
theorem selectSetup_exclusive (strict : ci.preferredExclusive = exclusive)
    (chosen : lines.selectSetup (some ci) = some c) : c ∈ ci.chanset := by
  cases set : ci.chanset with
  | nil =>
    simp only [selectSetup, set] at chosen
    cases chosen
  | cons first rest =>
    simp only [selectSetup, set, strict, if_true] at chosen
    split_ifs at chosen
    cases chosen
    exact List.mem_cons_self

theorem selectSetup_preferred (lenient : ci.preferredExclusive ≠ exclusive) (nonempty : ci.chanset ≠ []) :
    lines.selectSetup (some ci) = (ci.chanset.find? lines.available).or lines.firstAvailable := by
  cases set : ci.chanset with
  | nil => exact absurd set nonempty
  | cons first rest => simp only [selectSetup, set, lenient, if_false]

theorem channelSelectSetup_explained (location : Nat) {ci : Option ChannelIdentification}
    (nonempty : ∀ asked, ci = some asked → asked.chanset ≠ []) :
    (lines.channelSelectSetup location ci).Explained := by
  rcases ci with _ | ci
  · exact selectAny_explained lines location
  · rw [channelSelectSetup, if_neg (nonempty ci rfl)]
    exact selectIndicated_explained lines location _ _

/-- The selection on a SETUP is what it should be, exactly when the SETUP does not
indicate a set of no channels: then it is answered for no cause, since nobody reads
`bumping_needed`. -/
theorem channel_select_setup_iff (lines : Channels) (location : Nat) (ci : Option ChannelIdentification) :
    SetupAnswers lines ci (lines.channelSelectSetup location ci) ↔
      ∀ asked, ci = some asked → asked.chanset ≠ [] := by
  constructor
  · rintro answers asked rfl empty
    have nothing : lines.channelSelectSetup location (some asked) = { bumpingNeeded := true } := by
      simp [channelSelectSetup, empty]
    rw [nothing] at answers
    exact answers.carried [] rfl rfl
  · intro nonempty
    have chosen := channelSelectSetup_channel lines location ci
    have explained : (lines.channelSelectSetup location ci).Explained := channelSelectSetup_explained location nonempty
    refine ⟨?_, ?_, ?_, ?_, fun none _ => explained none, fun _ => explained.carries⟩
    · intro c is
      exact selectSetup_available (chosen ▸ is)
    · rintro asked rfl strict c is
      exact selectSetup_exclusive strict (chosen ▸ is)
    · rintro lenient asked rfl available
      obtain ⟨d, search, member⟩ := available_found available
      refine ⟨d, member, ?_⟩
      rw [chosen, selectSetup_preferred (lenient asked rfl) (nonempty asked rfl), search, Option.some_or]
    · intro lenient available
      have some_first := firstAvailable_isSome available
      rw [chosen]
      rcases ci with _ | asked
      · exact some_first
      · rw [selectSetup_preferred (lenient asked rfl) (nonempty asked rfl), Option.isSome_or, some_first, Bool.or_true]

/-- A set of no channels: no channel is taken, though both are available, and the
RELEASE COMPLETE has no cause. -/
theorem no_channel_indicated :
    let ci : ChannelIdentification := { interfacePrimary := false, preferredExclusive := 0, chanset := [] }
    ¬ SetupAnswers (init 2) (some ci) ((init 2).channelSelectSetup 0 (some ci)) := by
  intro ci answers
  exact answers.carried [] rfl rfl

end

end Channels

end Vstuff.Q931.Call
