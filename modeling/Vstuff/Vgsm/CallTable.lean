import Mathlib.Data.List.Nodup
import Mathlib.Data.List.TakeWhile
import Vstuff.Vgsm.Comm
import Vstuff.Vgsm.Token
import Mathlib.Algebra.Ring.Int.Defs

/-! The calls of a module, as it tells of them in answer to `AT^SLCC` (`chan_vgsm/me.c`): the
lines are read into a table of fixed size, and each entry whose state is another one is
handled. -/
namespace Vstuff.Vgsm.CallTable
open Lapd (Octets)
set_option linter.all false

/-- `enum vgsm_call_direction`. -/
inductive CallDirection where
  | mobileOriginated | mobileTerminated
  deriving DecidableEq, Repr

/-- `enum vgsm_call_state`. -/
inductive CallState where
  | unused | active | held | dialing | alerting | incoming | waiting | terminating | dropped
  deriving DecidableEq, Repr

/-- `enum vgsm_call_bearer`. -/
inductive CallBearer where
  | voice | data | fax | voiceThenDataVoice | voiceAltDataVoice | voiceAltFaxVoice
  | voiceThenDataData | voiceAltDataData | voiceAltFaxFax | voiceUnknown
  deriving DecidableEq, Repr

/-- What a line tells of a call. -/
structure CallFields where
  direction : CallDirection
  state : CallState
  bearer : CallBearer
  multiparty : Bool
  channelAssigned : Bool
  deriving DecidableEq, Repr

/-- `struct vgsm_call`. -/
structure Call extends CallFields where
  prevState : CallState
  updated : Bool
  deriving DecidableEq, Repr

/-- `ARRAY_SIZE(me->calls)`. -/
def callsSize : Nat := 4

/-- `me->calls`. -/
abbrev Calls := Fin callsSize → Call

/-! ## A line -/

/-- What comes of reading a field or a line: what follows is undefined, or the line is left with a
message, or there is a value. -/
inductive Reading (α : Type) where
  | undefined
  | rejected
  | read (value : α)
  deriving DecidableEq, Repr

namespace Reading

instance : Monad Reading where
  pure := .read
  bind reading next :=
    match reading with
    | .undefined => .undefined
    | .rejected => .rejected
    | .read value => next value

end Reading

/-- `sizeof(field)`. -/
def fieldSize : Nat := 32

/-- A number that an `int` holds. -/
def IsInt (n : Int) : Prop := -2 ^ 31 ≤ n ∧ n < 2 ^ 31

instance (n : Int) : Decidable (IsInt n) := inferInstanceAs (Decidable (_ ∧ _))

/-- The first field of `pars`, with a value of the table, and what is behind it. A token must not
take more than its array, and `atoi` is not defined for a number that is no `int`. -/
def slccField {α : Type} (table : Int → Option α) (pars : Octets) : Reading (α × Octets) :=
  if fieldSize < (getToken fieldSize pars).stored.length then .undefined
  else match (getToken fieldSize pars).token with
    | none => .rejected
    | some field =>
      if ¬IsInt (atoi field) then .undefined
      else match table (atoi field) with
        | none => .rejected
        | some value => .read (value, (getToken fieldSize pars).s)

/-- The comparison of `idx` with the size is one of unsigned numbers, which no
negative one passes. -/
def slccIndex (idx : Int) : Option (Fin callsSize) :=
  if idx = 0 then none
  else if small : (idx % 2 ^ 32).toNat < callsSize then some ⟨(idx % 2 ^ 32).toNat - 1, by omega⟩
  else none

def slccDirection : Int → Option CallDirection
  | 0 => some .mobileOriginated
  | 1 => some .mobileTerminated
  | _ => none

def slccState : Int → Option CallState
  | 0 => some .active
  | 1 => some .held
  | 2 => some .dialing
  | 3 => some .alerting
  | 4 => some .incoming
  | 5 => some .waiting
  | 6 => some .terminating
  | 7 => some .dropped
  | _ => none

def slccBearer : Int → Option CallBearer
  | 0 => some .voice
  | 1 => some .data
  | 2 => some .fax
  | 3 => some .voiceThenDataVoice
  | 4 => some .voiceAltDataVoice
  | 5 => some .voiceAltFaxVoice
  | 6 => some .voiceThenDataData
  | 7 => some .voiceAltDataData
  | 8 => some .voiceAltFaxFax
  | 9 => some .voiceUnknown
  | _ => none

def slccFlag : Int → Option Bool
  | 0 => some false
  | 1 => some true
  | _ => none

/-- The fields behind the index. -/
def parseFields (pars : Octets) : Reading CallFields := do
  let (direction, pars) ← slccField slccDirection pars
  let (state, pars) ← slccField slccState pars
  let (bearer, pars) ← slccField slccBearer pars
  let (multiparty, pars) ← slccField slccFlag pars
  let (channelAssigned, _) ← slccField slccFlag pars
  return { direction, state, bearer, multiparty, channelAssigned }

/-- The fields behind `^SLCC: `, with the indexes that are taken. -/
def parseSlcc (index : Int → Option (Fin callsSize)) (pars : Octets) : Reading (Fin callsSize × CallFields) := do
  let (idx, pars) ← slccField index pars
  let fields ← parseFields pars
  return (idx, fields)

/-! ## An answer -/

/-- `struct vgsm_req` of an `AT^SLCC` that has been answered. -/
structure Answer where
  err : Int := respOk
  lines : List Octets
  deriving DecidableEq, Repr

def okLine : Octets := ascii "OK"

def slccPrefix : Octets := ascii "^SLCC: "

/-- What a line that can be read leaves of an entry. -/
def Call.store (call : Call) (fields : CallFields) : Call :=
  { toCallFields := fields, prevState := call.state, updated := true }

def record (calls : Calls) (idx : Fin callsSize) (fields : CallFields) : Calls :=
  Function.update calls idx ((calls idx).store fields)

/-- How the loop through the lines is left, with the table as it is then. -/
inductive LinesRead where
  | undefined
  | unexpected (calls : Calls)
  | done (calls : Calls)

/-- The loop through the lines of an answer. -/
def readLines : List Octets → Calls → LinesRead
  | [], calls => .done calls
  | line :: lines, calls =>
    if line = okLine then .done calls
    else if ¬slccPrefix <+: line then .unexpected calls
    else match parseSlcc slccIndex (line.drop slccPrefix.length) with
      | .undefined => .undefined
      | .rejected => readLines lines calls
      | .read (idx, fields) => readLines lines (record calls idx fields)

/-- An entry no line has told of. -/
def Call.sweep (call : Call) : Call :=
  if call.updated then call else { call with state := .unused, prevState := call.state }

/-! ## What is done about a change -/

/-- `_state` of a `struct ast_channel`. -/
inductive AstState where
  | up | ringing | other
  deriving DecidableEq, Repr

inductive AstControl where
  | answer | proceeding | ringing | disconnect
  deriving DecidableEq, Repr

/-- `struct vgsm_chan` of the current call, with what `vgsm_connect_channel` returns for it. -/
structure VgsmChan where
  astState : AstState
  suppressProceeding : Bool
  connected : Bool
  deriving DecidableEq, Repr

/-- What `vgsm_handle_slcc_update` does: `vgsm_me_received_hangup`, an `AT+CHUP` with the cause it
counts, and what it does to the Asterisk channel. -/
inductive CallAction where
  | receivedHangup
  | chup (reason : Nat)
  | setState (state : AstState)
  | control (frame : AstControl)
  | softhangup
  deriving DecidableEq, Repr

/-- The request objects an action takes and releases: one for `AT+CEER`, one for `AT+CHUP`. -/
def CallAction.requests : CallAction → Nat
  | .receivedHangup => 1
  | .chup _ => 1
  | _ => 0

/-- The Asterisk channel gets into the state, if it is not in it already, and the control frame. -/
def indicate (chan : VgsmChan) (state : AstState) (frame : AstControl) : List CallAction :=
  if chan.astState ≠ state then [.setState state, .control frame] else [.control frame]

/-- `vgsm_handle_slcc_update`, with `me->vgsm_chan` as it finds it. -/
def handleSlccUpdate (vgsmChan : Option VgsmChan) (call : Call) : List CallAction :=
  match call.state, vgsmChan with
  | .unused, none => []
  | .unused, some _ => [.receivedHangup]
  | .active, none => [.chup 41]
  | .active, some chan => indicate chan .up .answer
  | .held, _ => []
  | .dialing, none => [.chup 41]
  | .dialing, some chan =>
    if ¬chan.connected then [.softhangup] else if ¬chan.suppressProceeding then [.control .proceeding] else []
  | .alerting, none => [.chup 41]
  | .alerting, some chan => indicate chan .ringing .ringing
  | .incoming, _ => []
  | .waiting, _ => []
  | .terminating, _ => []
  | .dropped, none => []
  | .dropped, some _ => [.control .disconnect]

/-! ## The handler -/

/-- What the handler leaves: the table, the calls of `vgsm_handle_slcc_update` with the entries they
get, and how many request objects have been taken and released. -/
structure Result where
  calls : Calls
  updates : List (Fin callsSize × Call)
  actions : List CallAction
  taken : Nat
  released : Nat

/-- What follows the loop through the lines. -/
def conclude (chan : Fin callsSize → Option VgsmChan) (calls : Calls) (taken released : Nat) : Result :=
  let calls i := (calls i).sweep
  let changed := (List.finRange callsSize).filter fun i => (calls i).prevState ≠ (calls i).state
  let actions := changed.flatMap fun i => handleSlccUpdate (chan i) (calls i)
  let requests := (actions.map CallAction.requests).sum
  { calls, updates := changed.map fun i => (i, calls i), actions,
    taken := taken + requests, released := released + requests }

/-- Where the handler gets with some answers: it waits for one more, it has told of a failed
request, it has done something undefined, or it has returned. -/
inductive Outcome where
  | waiting (calls : Calls) (taken released : Nat)
  | failed (err : Int) (calls : Calls) (taken released : Nat)
  | undefined
  | finished (result : Result)

/-- `handle_unsolicited_ciev_call`, with what comes of its requests (`none` if there is no request
object). After an unexpected line it asks again, and the request it leaves is not released. -/
def handleCall (chan : Fin callsSize → Option VgsmChan) : List (Option Answer) → Calls → Nat → Nat → Outcome
  | [], calls, taken, released => .waiting calls taken released
  | none :: _, calls, taken, released => .failed respFailed calls taken released
  | some answer :: answers, calls, taken, released =>
    if answer.err ≠ respOk then .failed answer.err calls (taken + 1) (released + 1)
    else match readLines answer.lines fun i => { calls i with updated := false } with
      | .undefined => .undefined
      | .unexpected calls => handleCall chan answers calls (taken + 1) released
      | .done calls => .finished (conclude chan calls (taken + 1) (released + 1))

/-! ## What a line needs -/

/-- Each field that is looked at fits into its array and has a number that fits into an `int`. After
a field that is not taken there is no further one. -/
def FieldsFit : List (Int → Bool) → Octets → Prop
  | [], _ => True
  | taken :: more, pars =>
    HasRoom fieldSize pars ∧ ∀ field, (getToken fieldSize pars).token = some field →
      IsInt (atoi field) ∧ (taken (atoi field) → FieldsFit more (getToken fieldSize pars).s)

/-- What is taken in the fields of a line. -/
def slccTaken : List (Int → Bool) :=
  [(slccIndex · |>.isSome), (slccDirection · |>.isSome), (slccState · |>.isSome), (slccBearer · |>.isSome),
    (slccFlag · |>.isSome), (slccFlag · |>.isSome)]

section Fields
variable {α β : Type} {table : Int → Option α} {pars : Octets}

theorem slccField_undefined_iff : slccField table pars = .undefined ↔
    ¬HasRoom fieldSize pars ∨ ∃ field, (getToken fieldSize pars).token = some field ∧ ¬IsInt (atoi field) := by
  rw [← stored_le_iff (by decide : 2 < fieldSize), Nat.not_le, slccField]
  by_cases long : fieldSize < (getToken fieldSize pars).stored.length
  · rw [if_pos long]
    exact iff_of_true rfl (.inl long)
  · rw [if_neg long, or_iff_right long]
    cases token : (getToken fieldSize pars).token with
    | none => exact iff_of_false nofun (by simp)
    | some field =>
      dsimp only
      by_cases fits : IsInt (atoi field)
      · rw [if_neg (not_not.mpr fits)]
        refine iff_of_false ?_ (by simp [fits])
        cases table (atoi field) with
        | none => exact nofun
        | some value => exact nofun
      · rw [if_pos fits]
        exact iff_of_true rfl ⟨field, rfl, fits⟩

theorem slccField_read {value : α} {rest : Octets} (got : slccField table pars = .read (value, rest)) :
    ∃ field, (getToken fieldSize pars).token = some field ∧ table (atoi field) = some value ∧
      rest = (getToken fieldSize pars).s := by
  rw [slccField] at got
  split_ifs at got with long
  cases token : (getToken fieldSize pars).token with
  | none =>
    rw [token] at got
    cases got
  | some field =>
    rw [token] at got
    dsimp only at got
    split_ifs at got with fits
    cases known : table (atoi field) with
    | none =>
      rw [known] at got
      cases got
    | some value' =>
      rw [known] at got
      cases got
      exact ⟨field, rfl, known, rfl⟩

theorem slccField_rejected (got : slccField table pars = .rejected) {field : Octets}
    (token : (getToken fieldSize pars).token = some field) : table (atoi field) = none := by
  rw [slccField] at got
  split_ifs at got with long
  rw [token] at got
  dsimp only at got
  split_ifs at got with fits
  cases known : table (atoi field) with
  | none => rfl
  | some value =>
    rw [known] at got
    cases got

/-- One field more. -/
theorem field_fits {next : α × Octets → Reading β} {more : List (Int → Bool)}
    (further : ∀ value rest, next (value, rest) ≠ .undefined ↔ FieldsFit more rest) :
    (slccField table pars >>= next) ≠ .undefined ↔ FieldsFit ((table · |>.isSome) :: more) pars := by
  cases got : slccField table pars with
  | undefined =>
    refine iff_of_false (fun defined => defined rfl) fun fits => ?_
    rcases slccField_undefined_iff.mp got with full | ⟨field, token, large⟩
    · exact full fits.1
    · exact large (fits.2 field token).1
  | rejected =>
    refine iff_of_true nofun ?_
    have defined := mt slccField_undefined_iff.mpr (got.trans_ne nofun)
    push Not at defined
    refine ⟨defined.1, fun field token => ⟨defined.2 field token, fun taken => ?_⟩⟩
    have unknown := congrArg Option.isSome (slccField_rejected got token)
    exact absurd (unknown.symm.trans taken) Bool.false_ne_true
  | read pair =>
    obtain ⟨value, rest⟩ := pair
    have defined := mt slccField_undefined_iff.mpr (got.trans_ne nofun)
    push Not at defined
    obtain ⟨field, token, known, rfl⟩ := slccField_read got
    refine (further value _).trans ⟨fun fits => ⟨defined.1, fun field' token' => ?_⟩, fun fits => ?_⟩
    · exact ⟨defined.2 field' token', fun _ => fits⟩
    · exact (fits.2 field token).2 (congrArg Option.isSome known)

end Fields

/-- A line can be looked at exactly if its fields fit. -/
theorem parseSlcc_defined_iff {pars : Octets} : parseSlcc slccIndex pars ≠ .undefined ↔ FieldsFit slccTaken pars := by
  refine field_fits fun idx pars => ?_
  have fields : parseFields pars ≠ .undefined ↔ FieldsFit slccTaken.tail pars :=
    field_fits fun _ _ => field_fits fun _ _ => field_fits fun _ _ => field_fits fun _ _ => field_fits fun _ _ =>
      iff_of_true nofun trivial
  refine Iff.trans ?_ fields
  dsimp only
  cases parseFields pars with
  | undefined => exact iff_of_false (fun defined => defined rfl) fun defined => defined rfl
  | rejected => exact iff_of_true nofun nofun
  | read fields => exact iff_of_true nofun nofun

/-! ## What the lines tell -/

/-- The numbers of the entries of the table. -/
def tableIndex (idx : Int) : Option (Fin callsSize) :=
  if valid : 1 ≤ idx ∧ idx ≤ callsSize then some ⟨(idx - 1).toNat, by omega⟩ else none

/-- What a line tells, if its fields can be read. -/
def described (index : Int → Option (Fin callsSize)) (line : Octets) : Option (Fin callsSize × CallFields) :=
  match parseSlcc index (line.drop slccPrefix.length) with
  | .read call => some call
  | _ => none

/-- What a line tells of one entry. -/
def fieldsFor (index : Int → Option (Fin callsSize)) (i : Fin callsSize) (line : Octets) : Option CallFields :=
  (described index line).bind fun call => if call.1 = i then some call.2 else none

/-- What lines tell of an entry, in their order. -/
def callsFor (index : Int → Option (Fin callsSize)) (lines : List Octets) (i : Fin callsSize) : List CallFields :=
  lines.filterMap (fieldsFor index i)

/-- The lines in front of `OK`. -/
def entryLines (lines : List Octets) : List Octets := lines.takeWhile (· ≠ okLine)

/-- Another line stands among them. -/
def Unexpected (lines : List Octets) : Prop := ∃ line ∈ entryLines lines, ¬slccPrefix <+: line

instance (lines : List Octets) : Decidable (Unexpected lines) :=
  inferInstanceAs (Decidable (∃ line ∈ entryLines lines, ¬slccPrefix <+: line))

/-- The lines whose fields are looked at. -/
def looked (lines : List Octets) : List Octets := (entryLines lines).takeWhile (slccPrefix <+: ·)

/-- The fields of all of them fit. -/
def LinesFit (lines : List Octets) : Prop :=
  ∀ line ∈ looked lines, FieldsFit slccTaken (line.drop slccPrefix.length)

section Lines
variable {line : Octets} {lines : List Octets}

theorem entryLines_ok : entryLines (okLine :: lines) = [] := by
  simp [entryLines]

theorem entryLines_cons (further : line ≠ okLine) : entryLines (line :: lines) = line :: entryLines lines := by
  simp [entryLines, further]

theorem looked_cons (further : line ≠ okLine) (expected : slccPrefix <+: line) :
    looked (line :: lines) = line :: looked lines := by
  simp [looked, entryLines_cons further, expected]

theorem looked_unexpected (further : line ≠ okLine) (other : ¬slccPrefix <+: line) : looked (line :: lines) = [] := by
  simp [looked, entryLines_cons further, other]

theorem unexpected_cons (further : line ≠ okLine) (expected : slccPrefix <+: line) :
    Unexpected (line :: lines) ↔ Unexpected lines := by
  simp [Unexpected, entryLines_cons further, expected]

theorem unexpected_here (further : line ≠ okLine) (other : ¬slccPrefix <+: line) : Unexpected (line :: lines) := by
  refine ⟨line, ?_, other⟩
  rw [entryLines_cons further]
  exact List.mem_cons_self

/-- Without an unexpected line all of them are looked at. -/
theorem looked_eq (expected : ¬Unexpected lines) : looked lines = entryLines lines := by
  apply List.takeWhile_eq_self_iff.mpr
  intro line member
  by_contra other
  exact expected ⟨line, member, fun found => other (decide_eq_true found)⟩

end Lines

/-- The table after the lines. -/
def recorded (lines : List Octets) (calls : Calls) : Calls :=
  fun i => (callsFor slccIndex (looked lines) i).foldl Call.store (calls i)

theorem recorded_nil {lines : List Octets} {calls : Calls} (none : looked lines = []) : recorded lines calls = calls := by
  funext i
  rw [recorded, none]
  rfl

theorem recorded_cons {line : Octets} {lines : List Octets} {calls : Calls} (further : line ≠ okLine)
    (expected : slccPrefix <+: line) :
    recorded (line :: lines) calls =
      match described slccIndex line with
      | none => recorded lines calls
      | some (idx, fields) => recorded lines (record calls idx fields) := by
  funext i
  rw [recorded, callsFor, looked_cons further expected, List.filterMap_cons]
  cases told : described slccIndex line with
  | none =>
    have none : fieldsFor slccIndex i line = none := by
      rw [fieldsFor, told]
      rfl
    rw [none]
    rfl
  | some call =>
    obtain ⟨idx, fields⟩ := call
    dsimp only
    rw [recorded]
    by_cases same : idx = i
    · subst same
      have fields' : fieldsFor slccIndex idx line = some fields := by
        rw [fieldsFor, told]
        exact if_pos rfl
      rw [fields', record, Function.update_self]
      rfl
    · have none : fieldsFor slccIndex i line = none := by
        rw [fieldsFor, told]
        exact if_neg same
      rw [none, record, Function.update_of_ne (Ne.symm same)]
      rfl

/-- Fields that do not fit end the loop, and otherwise the table depends on what the lines tell of
each entry. -/
theorem readLines_eq (lines : List Octets) : ∀ calls,
    (¬LinesFit lines → readLines lines calls = .undefined) ∧
    (LinesFit lines → readLines lines calls =
      if Unexpected lines then .unexpected (recorded lines calls) else .done (recorded lines calls)) := by
  induction lines with
  | nil =>
    intro calls
    have none : ¬Unexpected [] := fun ⟨_, member, _⟩ => List.not_mem_nil member
    refine ⟨fun wide => absurd (fun line member => absurd member List.not_mem_nil) wide, fun _ => ?_⟩
    rw [if_neg none, recorded_nil rfl]
    rfl
  | cons line lines ih =>
    intro calls
    rw [readLines]
    by_cases last : line = okLine
    · subst last
      have none : looked (okLine :: lines) = [] := by rw [looked, entryLines_ok]; rfl
      have expected : ¬Unexpected (okLine :: lines) := by
        rintro ⟨line, member, _⟩
        rw [entryLines_ok] at member
        cases member
      rw [if_pos rfl, if_neg expected, recorded_nil none]
      refine ⟨fun wide => absurd ?_ wide, fun _ => rfl⟩
      intro line member
      rw [none] at member
      cases member
    · by_cases expected : slccPrefix <+: line
      · have fit_iff : LinesFit (line :: lines) ↔ FieldsFit slccTaken (line.drop slccPrefix.length) ∧ LinesFit lines := by
          rw [LinesFit, looked_cons last expected]
          exact List.forall_mem_cons
        rw [if_neg last, if_neg (not_not.mpr expected), fit_iff, ← parseSlcc_defined_iff,
          recorded_cons last expected, described]
        simp only [unexpected_cons last expected]
        cases parsed : parseSlcc slccIndex (line.drop slccPrefix.length) with
        | undefined => exact ⟨fun _ => rfl, fun fit => absurd rfl fit.1⟩
        | rejected =>
          refine ⟨fun wide => (ih calls).1 fun fit => wide ⟨nofun, fit⟩, fun fit => (ih calls).2 fit.2⟩
        | read call =>
          obtain ⟨idx, fields⟩ := call
          have further := ih (record calls idx fields)
          exact ⟨fun wide => further.1 fun fit => wide ⟨nofun, fit⟩, fun fit => further.2 fit.2⟩
      · rw [if_neg last, if_pos expected, if_pos (unexpected_here last expected),
          recorded_nil (looked_unexpected last expected)]
        refine ⟨fun wide => absurd ?_ wide, fun _ => rfl⟩
        intro line member
        rw [looked_unexpected last expected] at member
        cases member

/-! ## An entry -/

/-- The entry the handler never fills. -/
def lastCall : Fin callsSize := ⟨callsSize - 1, by decide⟩

theorem slccIndex_eq {idx : Int} (fits : IsInt idx) : slccIndex idx = (tableIndex idx).filter (· ≠ lastCall) := by
  obtain ⟨least, greatest⟩ := fits
  have size : (callsSize : Int) = 4 := rfl
  by_cases valid : 1 ≤ idx ∧ idx ≤ callsSize
  · obtain ⟨positive, small⟩ := valid
    have one : idx = 1 ∨ idx = 2 ∨ idx = 3 ∨ idx = 4 := by omega
    rcases one with rfl | rfl | rfl | rfl <;> rfl
  · have large : idx = 0 ∨ ¬(idx % 2 ^ 32).toNat < callsSize := by
      have bound : callsSize = 4 := rfl
      omega
    rw [tableIndex, dif_neg valid, slccIndex]
    split_ifs with zero small
    · rfl
    · exact absurd small (large.resolve_left zero)
    · rfl

/-- The index of a line is refused if it is the one of the last entry. -/
theorem slccField_index (pars : Octets) :
    slccField slccIndex pars =
      match slccField tableIndex pars with
      | .read (idx, rest) => if idx = lastCall then .rejected else .read (idx, rest)
      | reading => reading := by
  unfold slccField
  by_cases long : fieldSize < (getToken fieldSize pars).stored.length
  · rw [if_pos long, if_pos long]
  · rw [if_neg long, if_neg long]
    cases (getToken fieldSize pars).token with
    | none => rfl
    | some field =>
      dsimp only
      by_cases fits : IsInt (atoi field)
      · rw [if_neg (not_not.mpr fits), if_neg (not_not.mpr fits), slccIndex_eq fits]
        cases tableIndex (atoi field) with
        | none => rfl
        | some idx =>
          rw [Option.filter_some]
          by_cases last : idx = lastCall
          · simp [last]
          · simp [last]
      · rw [if_pos fits, if_pos fits]

/-- What a line tells of an entry if it is not the last one. -/
theorem fieldsFor_slccIndex (i : Fin callsSize) (line : Octets) :
    fieldsFor slccIndex i line = if i = lastCall then none else fieldsFor tableIndex i line := by
  unfold fieldsFor described parseSlcc
  generalize line.drop slccPrefix.length = pars
  rw [slccField_index]
  cases slccField tableIndex pars with
  | undefined => exact (ite_self none).symm
  | rejected => exact (ite_self none).symm
  | read pair =>
    obtain ⟨idx, rest⟩ := pair
    dsimp only
    by_cases last : idx = lastCall
    · rw [if_pos last]
      split_ifs with same
      · rfl
      · have other : idx ≠ i := fun equal => same (equal ▸ last)
        dsimp [bind, pure]
        cases parseFields rest with
        | undefined => rfl
        | rejected => rfl
        | read fields => exact (if_neg other).symm
    · rw [if_neg last]
      split_ifs with same
      · have other : idx ≠ i := fun equal => last (equal.trans same)
        dsimp [bind, pure]
        cases parseFields rest with
        | undefined => rfl
        | rejected => rfl
        | read fields => exact if_neg other
      · rfl

theorem callsFor_slccIndex (lines : List Octets) (i : Fin callsSize) :
    callsFor slccIndex lines i = if i = lastCall then [] else callsFor tableIndex lines i := by
  unfold callsFor
  rw [funext (fieldsFor_slccIndex i)]
  split_ifs
  · exact List.filterMap_none lines
  · rfl

theorem slccState_used {n : Int} {state : CallState} (known : slccState n = some state) : state ≠ .unused := by
  rintro rfl
  unfold slccState at known
  split at known <;> cases known

section Binds
variable {α β : Type} {reading : Reading α} {next : α → Reading β} {result : β}

theorem bind_read (got : (reading >>= next) = .read result) : ∃ value, reading = .read value ∧ next value = .read result := by
  cases reading with
  | undefined => cases got
  | rejected => cases got
  | read value => exact ⟨value, rfl, got⟩

end Binds

/-- No line tells of an unused entry. -/
theorem parseFields_used {pars : Octets} {fields : CallFields} (got : parseFields pars = .read fields) :
    fields.state ≠ .unused := by
  obtain ⟨⟨direction, pars₁⟩, -, got⟩ := bind_read got
  obtain ⟨⟨state, pars₂⟩, read, got⟩ := bind_read got
  obtain ⟨⟨bearer, pars₃⟩, -, got⟩ := bind_read got
  obtain ⟨⟨multiparty, pars₄⟩, -, got⟩ := bind_read got
  obtain ⟨⟨channelAssigned, pars₅⟩, -, got⟩ := bind_read got
  cases got
  obtain ⟨field, -, known, -⟩ := slccField_read read
  exact slccState_used known

theorem callsFor_used {index : Int → Option (Fin callsSize)} {lines : List Octets} {i : Fin callsSize} {fields : CallFields}
    (told : fields ∈ callsFor index lines i) : fields.state ≠ .unused := by
  obtain ⟨line, -, told⟩ := List.mem_filterMap.mp told
  obtain ⟨⟨idx, fields'⟩, told, same⟩ := Option.bind_eq_some_iff.mp told
  dsimp only at same
  split_ifs at same
  cases same
  unfold described at told
  split at told
  · next call parsed =>
    cases told
    obtain ⟨⟨idx', pars⟩, -, parsed⟩ := bind_read parsed
    obtain ⟨fields'', got, parsed⟩ := bind_read parsed
    cases parsed
    exact parseFields_used got
  · cases told

theorem foldl_store_fields (told : List CallFields) (call : Call) :
    (told.foldl Call.store call).toCallFields = told.getLast?.getD call.toCallFields := by
  rcases List.eq_nil_or_concat' told with rfl | ⟨earlier, last, rfl⟩
  · rfl
  · rw [List.foldl_concat, List.getLast?_concat]
    rfl

/-- What lines with some fields leave of an entry. -/
theorem foldl_store_concat (earlier : List CallFields) (last : CallFields) (call : Call) :
    (earlier ++ [last]).foldl Call.store call =
      { toCallFields := last, prevState := (earlier.getLast?.getD call.toCallFields).state, updated := true } := by
  rw [List.foldl_concat, Call.store, foldl_store_fields]

/-- The entry after an answer, as it was before the lines were read. -/
def entryAfter (told : List CallFields) (call : Call) : Call :=
  (told.foldl Call.store { call with updated := false }).sweep

theorem entryAfter_fields (told : List CallFields) (call : Call) :
    (entryAfter told call).toCallFields = told.getLast?.getD { call.toCallFields with state := .unused } := by
  rcases List.eq_nil_or_concat' told with rfl | ⟨earlier, last, rfl⟩
  · rfl
  · rw [entryAfter, foldl_store_concat, List.getLast?_concat]
    rfl

/-- An entry has the state of the last line but one in `prev_state`, and without such a line the
one before the answer. -/
theorem entryAfter_prevState (told : List CallFields) (call : Call) :
    (entryAfter told call).prevState = (told.dropLast.getLast?.getD call.toCallFields).state := by
  rcases List.eq_nil_or_concat' told with rfl | ⟨earlier, last, rfl⟩
  · rfl
  · rw [entryAfter, foldl_store_concat, List.dropLast_concat]
    rfl

/-! ## The whole -/

/-- The answers the handler reads. -/
def asked : List (Option Answer) → List Answer
  | some answer :: answers =>
    if answer.err ≠ respOk then [] else if Unexpected answer.lines then answer :: asked answers else [answer]
  | _ => []

/-- The answer it is content with, and how many it has read before. -/
def finishing : List (Option Answer) → Option (Nat × Answer)
  | some answer :: answers =>
    if answer.err ≠ respOk then none
    else if Unexpected answer.lines then (finishing answers).map fun (n, last) => (n + 1, last)
    else some (0, answer)
  | _ => none

/-- The table follows the lines: each entry has what the last line for it tells, or is unused and
otherwise as before; exactly the entries whose state is another one are handled, once and with the
state they had; and no request object is left. -/
structure Followed (before : Calls) (lines : List Octets) (result : Result) : Prop where
  fields : ∀ i, (result.calls i).toCallFields =
    (callsFor tableIndex lines i).getLast?.getD { (before i).toCallFields with state := .unused }
  updates : ∀ i, (result.updates.filter (·.1 = i)) =
    if (before i).state = (result.calls i).state then [] else [(i, result.calls i)]
  prevState : ∀ i, (before i).state ≠ (result.calls i).state → (result.calls i).prevState = (before i).state
  released : result.taken = result.released

/-- It does so whenever the handler finishes, and the handler does nothing undefined. -/
def Follows (chan : Fin callsSize → Option VgsmChan) (before : Calls) (answers : List (Option Answer)) : Prop :=
  match handleCall chan answers before 0 0 with
  | .undefined => False
  | .finished result => ∃ n answer, finishing answers = some (n, answer) ∧ Followed before (entryLines answer.lines) result
  | _ => True

/-- The lines tell of each entry once but for its state before, and of the last one not at all. -/
def Plain (before : Calls) (lines : List Octets) : Prop :=
  callsFor tableIndex lines lastCall = [] ∧
    ∀ i, ∀ fields ∈ (callsFor tableIndex lines i).dropLast.getLast?, fields.state = (before i).state

/-- The fields of the lines that are looked at fit, and if there is an answer the handler is content
with, it is the first one and its lines are plain. -/
def Straight (before : Calls) (answers : List (Option Answer)) : Prop :=
  (∀ answer ∈ asked answers, LinesFit answer.lines) ∧
    ∀ n answer, finishing answers = some (n, answer) → n = 0 ∧ Plain before (entryLines answer.lines)

section Conclusion
variable {chan : Fin callsSize → Option VgsmChan} {calls before : Calls} {taken released : Nat} {lines : List Octets}

theorem updates_filter (i : Fin callsSize) : ((conclude chan calls taken released).updates.filter (·.1 = i)) =
    if (calls i).sweep.prevState = (calls i).sweep.state then [] else [(i, (calls i).sweep)] := by
  have once : (List.finRange callsSize).filter (· = i) = [i] := by
    rw [List.filter_eq, List.count_eq_one_of_mem (List.nodup_finRange _) (List.mem_finRange i)]
    rfl
  have split : ((List.finRange callsSize).filter fun j => (calls j).sweep.prevState ≠ (calls j).sweep.state).filter (· = i) =
      [i].filter fun j => (calls j).sweep.prevState ≠ (calls j).sweep.state := by
    rw [List.filter_comm, once]
  dsimp only [conclude]
  rw [List.filter_map]
  have key : ((fun call : Fin callsSize × Call => decide (call.1 = i)) ∘ fun j => (j, (calls j).sweep)) = (· = i) := rfl
  rw [key, split]
  split_ifs with same
  · rw [List.filter_cons_of_neg (by simpa using same)]
    rfl
  · rw [List.filter_cons_of_pos (by simpa using same)]
    rfl

/-- The state before stands in `prev_state` of each entry exactly if the lines are plain, and that is
what the updates depend on. -/
theorem followed_conclude_iff (expected : ¬Unexpected lines) :
    Followed before (entryLines lines)
        (conclude chan (recorded lines fun i => { before i with updated := false }) 1 1) ↔
      Plain before (entryLines lines) := by
  have told (i : Fin callsSize) : callsFor slccIndex (looked lines) i =
      if i = lastCall then [] else callsFor tableIndex (entryLines lines) i := by
    rw [callsFor_slccIndex, looked_eq expected]
  have after (i : Fin callsSize) : (recorded lines (fun i => { before i with updated := false }) i).sweep =
      entryAfter (callsFor slccIndex (looked lines) i) (before i) := rfl
  have unused : (entryAfter (callsFor slccIndex (looked lines) lastCall) (before lastCall)).state = .unused := by
    rw [entryAfter_fields, told, if_pos rfl]
    rfl
  constructor
  · rintro ⟨fields, updates, prevState, -⟩
    have none : callsFor tableIndex (entryLines lines) lastCall = [] := by
      by_contra some
      obtain ⟨earlier, last, told'⟩ := (List.eq_nil_or_concat' _).resolve_left some
      have same := congrArg CallFields.state (fields lastCall)
      rw [told', List.getLast?_concat] at same
      refine callsFor_used (told' ▸ List.mem_append_right earlier List.mem_cons_self) ?_
      exact same.symm.trans unused
    refine ⟨none, fun i fields' member => ?_⟩
    by_cases last : i = lastCall
    · rw [last, none] at member
      cases member
    · have prev : (entryAfter (callsFor slccIndex (looked lines) i) (before i)).prevState = fields'.state := by
        rw [entryAfter_prevState, told, if_neg last, Option.mem_def.mp member]
        rfl
      rw [← prev]
      by_cases same : (before i).state = (entryAfter (callsFor slccIndex (looked lines) i) (before i)).state
      · have handled := updates i
        rw [updates_filter, after] at handled
        by_contra other
        have changed : ¬(entryAfter (callsFor slccIndex (looked lines) i) (before i)).prevState =
            (entryAfter (callsFor slccIndex (looked lines) i) (before i)).state := fun equal => other (equal.trans same.symm)
        rw [if_neg changed] at handled
        cases handled.trans (if_pos same)
      · exact prevState i same
  · rintro ⟨none, plain⟩
    have prev (i : Fin callsSize) : (entryAfter (callsFor slccIndex (looked lines) i) (before i)).prevState = (before i).state := by
      rw [entryAfter_prevState, told]
      split_ifs with last
      · rfl
      · cases earlier : (callsFor tableIndex (entryLines lines) i).dropLast.getLast? with
        | none => rfl
        | some fields => exact plain i fields earlier
    refine ⟨fun i => ?_, fun i => ?_, fun i _ => prev i, rfl⟩
    · refine (entryAfter_fields _ _).trans ?_
      rw [told]
      split_ifs with last
      · rw [last, none]
      · rfl
    · rw [updates_filter, after, prev]
      rfl

end Conclusion

/-- What comes of the answers: something undefined if fields do not fit, and otherwise the answer
the handler is content with decides. -/
theorem handleCall_eq (chan : Fin callsSize → Option VgsmChan) (answers : List (Option Answer)) : ∀ calls taken released,
    ((¬∀ answer ∈ asked answers, LinesFit answer.lines) → handleCall chan answers calls taken released = .undefined) ∧
    ((∀ answer ∈ asked answers, LinesFit answer.lines) →
      match finishing answers with
      | some (n, answer) => ∃ calls', (n = 0 → calls' = calls) ∧ handleCall chan answers calls taken released =
          .finished (conclude chan (recorded answer.lines fun i => { calls' i with updated := false })
            (taken + n + 1) (released + 1))
      | none => handleCall chan answers calls taken released ≠ .undefined ∧
          ∀ result, handleCall chan answers calls taken released ≠ .finished result) := by
  induction answers with
  | nil => exact fun calls taken released => ⟨fun wide => absurd nofun wide, fun _ => ⟨nofun, nofun⟩⟩
  | cons answer answers ih =>
    intro calls taken released
    cases answer with
    | none => exact ⟨fun wide => absurd nofun wide, fun _ => ⟨nofun, nofun⟩⟩
    | some answer =>
      rw [handleCall, asked, finishing]
      by_cases failed : answer.err ≠ respOk
      · rw [if_pos failed, if_pos failed, if_pos failed]
        exact ⟨fun wide => absurd nofun wide, fun _ => ⟨nofun, nofun⟩⟩
      · rw [if_neg failed, if_neg failed, if_neg failed]
        obtain ⟨wide, narrow⟩ := readLines_eq answer.lines fun i => { calls i with updated := false }
        by_cases fit : LinesFit answer.lines
        · rw [narrow fit]
          by_cases unexpected : Unexpected answer.lines
          · rw [if_pos unexpected, if_pos unexpected, if_pos unexpected]
            obtain ⟨further, rest⟩ := ih (recorded answer.lines fun i => { calls i with updated := false }) (taken + 1) released
            have fits_iff : (∀ a ∈ answer :: asked answers, LinesFit a.lines) ↔ ∀ a ∈ asked answers, LinesFit a.lines :=
              List.forall_mem_cons.trans (and_iff_right fit)
            rw [fits_iff]
            refine ⟨further, fun fits => ?_⟩
            have rest := rest fits
            cases last : finishing answers with
            | none =>
              rw [last] at rest
              exact rest
            | some found =>
              rw [last] at rest
              obtain ⟨n, final⟩ := found
              obtain ⟨calls', -, reached⟩ := rest
              refine ⟨calls', fun zero => absurd zero (Nat.succ_ne_zero n), reached.trans ?_⟩
              have count : taken + 1 + n + 1 = taken + (n + 1) + 1 := by omega
              rw [count]
          · rw [if_neg unexpected, if_neg unexpected, if_neg unexpected]
            have one : ∀ a ∈ [answer], LinesFit a.lines := by simpa using fit
            exact ⟨fun wide => absurd one wide, fun _ => ⟨calls, fun _ => rfl, rfl⟩⟩
        · rw [wide fit]
          have first : ¬∀ a ∈ (if Unexpected answer.lines then answer :: asked answers else [answer]), LinesFit a.lines := by
            intro fits
            refine fit (fits answer ?_)
            split_ifs
            · exact List.mem_cons_self
            · exact List.mem_cons_self
          exact ⟨fun _ => rfl, fun fits => absurd fits first⟩

/-- The answer the handler is content with has no unexpected line. -/
theorem finishing_expected {answers : List (Option Answer)} : ∀ {n : Nat} {answer : Answer},
    finishing answers = some (n, answer) → ¬Unexpected answer.lines := by
  induction answers with
  | nil => exact nofun
  | cons answer answers ih =>
    intro n last found
    cases answer with
    | none => cases found
    | some answer =>
      rw [finishing] at found
      split_ifs at found with failed unexpected
      · obtain ⟨⟨m, last'⟩, found', same⟩ := Option.map_eq_some_iff.mp found
        cases same
        exact ih found'
      · cases found
        exact unexpected

/-- The table follows the answers exactly if all fields fit, nothing is asked again, no line tells
of the last entry, and none tells of another state in front of the line that counts. -/
theorem follows_iff (chan : Fin callsSize → Option VgsmChan) (before : Calls) (answers : List (Option Answer)) :
    Follows chan before answers ↔ Straight before answers := by
  obtain ⟨wide, narrow⟩ := handleCall_eq chan answers before 0 0
  unfold Follows Straight
  by_cases fits : ∀ answer ∈ asked answers, LinesFit answer.lines
  · rw [and_iff_right fits]
    have outcome := narrow fits
    cases last : finishing answers with
    | none =>
      rw [last] at outcome
      refine iff_of_true ?_ nofun
      obtain ⟨defined, unfinished⟩ := outcome
      cases reached : handleCall chan answers before 0 0 with
      | waiting calls taken released => trivial
      | failed err calls taken released => trivial
      | undefined => exact defined reached
      | finished result => exact absurd reached (unfinished result)
    | some found =>
      obtain ⟨n, answer⟩ := found
      rw [last] at outcome
      obtain ⟨calls', same, reached⟩ := outcome
      rw [reached]
      have followed_iff : Followed before (entryLines answer.lines) (conclude chan _ 1 1) ↔ _ :=
        followed_conclude_iff (finishing_expected last)
      constructor
      · rintro ⟨n', answer', same', followed⟩ m answer'' found
        cases same'
        cases found
        have zero : n = 0 := by
          have balance := followed.released
          dsimp only [conclude] at balance
          omega
        subst zero
        rw [same rfl] at followed
        exact ⟨rfl, followed_iff.mp followed⟩
      · intro straight
        obtain ⟨rfl, plain⟩ := straight n answer rfl
        refine ⟨0, answer, rfl, ?_⟩
        rw [same rfl]
        exact followed_iff.mpr plain
  · rw [wide fits]
    exact iff_of_false id fun straight => fits straight.1

/-- No call yet. -/
def noCalls : Calls := fun _ =>
  { direction := .mobileOriginated, state := .unused, bearer := .voice, multiparty := false, channelAssigned := false,
    prevState := .unused, updated := false }

/-- The fourth call is told of, and it gets no entry. -/
theorem fourth_call_is_left : ¬Follows (fun _ => none) noCalls [some { lines := [ascii "^SLCC: 4,1,4,0,0,1", ascii "OK"] }] := by
  rintro ⟨n, answer, found, followed⟩
  cases found
  exact absurd (congrArg CallFields.state (followed.fields lastCall)) (by decide +kernel)

end Vstuff.Vgsm.CallTable
