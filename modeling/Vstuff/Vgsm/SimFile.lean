import Vstuff.Vgsm.Comm
import Vstuff.Vgsm.Pdu
import Vstuff.Vgsm.Token

/-! Reading a file of the SIM (`vgsm_sim_file_read` of `chan_vgsm/sim_file.c`): what is asked for,
and what is made of the answer. -/
namespace Vstuff.Vgsm
open Lapd (Octets)
set_option linter.all false

/-- `AT+CRSM=176`, with its parameters. -/
structure CrsmRequest where
  id : Nat
  p1 : Nat
  p2 : Nat
  len : Nat
  deriving DecidableEq, Repr

/-- What a request that was waited for has come to: its status and its lines. -/
structure CrsmAnswer where
  status : Int
  lines : List Octets
  deriving DecidableEq, Repr

/-- `field_len`. -/
def fieldLen (len : UInt8) : Nat := max 32 (32 + len.toNat * 2)

/-- A call of `get_token` for `field`, where a token is needed: the token, what is left, and the
memory at `field`, which keeps what is behind the token. -/
def nextField (len : UInt8) (s : Octets) (field : Nat → UInt8) : Except Stop (Octets × Octets × (Nat → UInt8)) :=
  let call := getToken (fieldLen len) s
  if call.stored.length > fieldLen len then .error .undefined
  else
    match call.token with
    | some token => .ok (token, call.s, fun i => call.stored.getD i (field i))
    | none => .error .refused

/-- What `vgsm_sim_file_read` asks for. The shift binds closer than the mask. -/
def simFileRequest (id : Nat) (offset : UInt16) (len : UInt8) : CrsmRequest where
  id := id
  p1 := (offset &&& (0xff00 : UInt16) >>> 8).toNat
  p2 := (offset &&& 0x00ff).toNat
  len := len.toNat

/-- The octets `vgsm_sim_file_read` takes from an answer. There has to be a line, and in it as many
characters as in front of the first field; what is at `field` before is not known. -/
def simFileOctets (len : UInt8) (answer : CrsmAnswer) (field : Nat → UInt8) : Except Stop Octets := do
  if answer.status ≠ respOk then .error .refused
  else
    match answer.lines with
    | [] => .error .undefined
    | line :: _ =>
      if line.length < 7 then .error .undefined
      else
        let (sw1, s, field) ← nextField len (line.drop 7) field
        let (_, s, field) ← nextField len s field
        let (response, _, field) ← nextField len s field
        if response.length % 2 ≠ 0 then .error .refused
        else if atoi sw1 ≠ 0x90 then .error .refused
        else
          return (List.range len.toNat).map fun i =>
            charToHexdigit (field (i * 2)) <<< 4 ||| charToHexdigit (field (i * 2 + 1))

/-- What `vgsm_sim_file_read` has asked for, what it returns, and `data` behind it. -/
structure SimFileRead where
  request : CrsmRequest
  result : Except Stop Unit
  data : Octets

/-- `vgsm_sim_file_read`. -/
def simFileRead (id : Nat) (offset : UInt16) (len : UInt8) (answer : CrsmAnswer) (field : Nat → UInt8) (data : Octets) :
    SimFileRead where
  request := simFileRequest id offset len
  result := (simFileOctets len answer field).map fun _ => ()
  data :=
    match simFileOctets len answer field with
    | .ok octets => octets ++ data.drop octets.length
    | .error _ => data

/-! ## What it should do -/

/-- The fields of an answer, as `get_token` takes them apart. -/
def CrsmAnswer.fields (answer : CrsmAnswer) (len : UInt8) : List Octets :=
  match answer.lines with
  | [] => []
  | line :: _ => tokens (fieldLen len) (line.drop 7)

/-- A field begins with as many octets in hexadecimal. -/
def Hexadecimal (len : UInt8) (response : Octets) : Prop :=
  2 * len.toNat ≤ response.length ∧ ∀ c ∈ response.take (2 * len.toNat), charToHexdigit c ≠ 0xff

/-- It asks for the octets at the offset, and succeeds only with that many octets of the answer,
which are then the data; otherwise the data stays as it was. -/
def ReadsFile (id : Nat) (offset : UInt16) (len : UInt8) (answer : CrsmAnswer) (field : Nat → UInt8) (data : Octets) : Prop :=
  let read := simFileRead id offset len answer field data
  read.request.p1 * 256 + read.request.p2 = offset.toNat ∧
    match read.result with
    | .ok () => ∃ response, (answer.fields len)[2]? = some response ∧ Hexadecimal len response ∧
        read.data = hexOctets (response.take (2 * len.toNat)) ++ data.drop len.toNat
    | .error .refused => read.data = data
    | .error .undefined => False

/-- The calls of `get_token` up to one that returns NULL have the room they need. -/
def FieldsHaveRoom (len : UInt8) : Nat → Octets → Prop
  | 0, _ => True
  | calls + 1, s => HasRoom (fieldLen len) s ∧
      ((getToken (fieldLen len) s).token ≠ none → FieldsHaveRoom len calls (getToken (fieldLen len) s).s)

/-- The offset is the same in both halves; and an answer that is right has a line with room for its
fields, of which the third one is hexadecimal and long enough if the first one tells success and
nothing is odd. -/
def Readable (offset : UInt16) (len : UInt8) (answer : CrsmAnswer) : Prop :=
  offset.toNat / 256 = offset.toNat % 256 ∧
    (answer.status = respOk → ∃ line more, answer.lines = line :: more ∧ 7 ≤ line.length ∧
      FieldsHaveRoom len 3 (line.drop 7) ∧
      ∀ sw1 sw2 response rest, answer.fields len = sw1 :: sw2 :: response :: rest →
        response.length % 2 = 0 → atoi sw1 = 0x90 → Hexadecimal len response)

/-! ## The request -/

theorem request_offset_iff (id : Nat) (offset : UInt16) (len : UInt8) :
    (simFileRequest id offset len).p1 * 256 + (simFileRequest id offset len).p2 = offset.toNat ↔
      offset.toNat / 256 = offset.toNat % 256 := by
  have low : (offset &&& 0x00ff).toNat = offset.toNat % 256 := by
    rw [UInt16.toNat_and]
    exact Nat.and_two_pow_sub_one_eq_mod offset.toNat 8
  have shifted : (0xff00 : UInt16) >>> 8 = 0x00ff := by decide
  unfold simFileRequest
  dsimp only
  rw [shifted, low]
  omega

/-! ## The fields -/

section Fields
variable {len : UInt8} {s : Octets} {field : Nat → UInt8}

theorem large_field (len : UInt8) : 2 < fieldLen len := by
  unfold fieldLen
  omega

theorem nextField_crowded (crowded : ¬HasRoom (fieldLen len) s) : nextField len s field = .error .undefined := by
  rw [← stored_le_iff (large_field len) s] at crowded
  unfold nextField
  dsimp only
  rw [if_pos (Nat.not_le.mp crowded)]

theorem nextField_none (room : HasRoom (fieldLen len) s) (none : (getToken (fieldLen len) s).token = none) :
    nextField len s field = .error .refused := by
  rw [← stored_le_iff (large_field len) s] at room
  unfold nextField
  dsimp only
  rw [if_neg (Nat.not_lt.mpr room), none]

/-- A token stands at the beginning of the memory. -/
theorem nextField_some {token : Octets} (field : Nat → UInt8) (room : HasRoom (fieldLen len) s)
    (some : (getToken (fieldLen len) s).token = some token) :
    ∃ field', nextField len s field = .ok (token, (getToken (fieldLen len) s).s, field') ∧
      ∀ i < token.length, field' i = token.getD i 0 := by
  rw [← stored_le_iff (large_field len) s] at room
  unfold nextField
  dsimp only
  rw [if_neg (Nat.not_lt.mpr room), some]
  refine ⟨_, rfl, fun i inside => ?_⟩
  rw [getToken_stored some, List.getD_eq_getElem?_getD, List.getElem?_append_left inside, List.getD_eq_getElem?_getD,
    List.getElem?_eq_getElem inside]
  rfl

/-- Some calls of `get_token` one after the other. -/
def nextFields (len : UInt8) : Nat → Octets → (Nat → UInt8) → Except Stop (List Octets × (Nat → UInt8))
  | 0, _, field => .ok ([], field)
  | calls + 1, s, field => do
    let (token, s, field) ← nextField len s field
    let (more, field) ← nextFields len calls s field
    return (token :: more, field)

theorem nextFields_crowded {calls : Nat} (crowded : ¬FieldsHaveRoom len calls s) :
    nextFields len calls s field = .error .undefined := by
  induction calls generalizing s field with
  | zero => exact absurd trivial crowded
  | succ calls ih =>
    rw [nextFields]
    by_cases room : HasRoom (fieldLen len) s
    · cases got : (getToken (fieldLen len) s).token with
      | none => exact absurd ⟨room, fun some => absurd got some⟩ crowded
      | some token =>
        obtain ⟨field', taken, -⟩ := nextField_some field room got
        rw [taken]
        change (nextFields len calls (getToken (fieldLen len) s).s field' >>= _) = _
        rw [ih fun further => crowded ⟨room, fun _ => further⟩]
        rfl
    · rw [nextField_crowded room]
      rfl

theorem nextFields_short {calls : Nat} (room : FieldsHaveRoom len calls s) (few : (tokens (fieldLen len) s).length < calls) :
    nextFields len calls s field = .error .refused := by
  induction calls generalizing s field with
  | zero => cases few
  | succ calls ih =>
    obtain ⟨room, further⟩ := room
    rw [nextFields]
    cases got : (getToken (fieldLen len) s).token with
    | none =>
      rw [nextField_none room got]
      rfl
    | some token =>
      obtain ⟨field', taken, -⟩ := nextField_some field room got
      rw [tokens_some got] at few
      rw [taken]
      change (nextFields len calls (getToken (fieldLen len) s).s field' >>= _) = _
      rw [ih (further (by rw [got]; nofun)) (Nat.lt_of_succ_lt_succ few)]
      rfl

/-- With room for all of them the tokens are taken, and the last one stands in the memory. -/
theorem nextFields_enough {calls : Nat} (field : Nat → UInt8) (room : FieldsHaveRoom len calls s) (enough : calls ≤ (tokens (fieldLen len) s).length) :
    ∃ field', nextFields len calls s field = .ok ((tokens (fieldLen len) s).take calls, field') ∧
      ∀ last ∈ ((tokens (fieldLen len) s).take calls).getLast?, ∀ i < last.length, field' i = last.getD i 0 := by
  induction calls generalizing s field with
  | zero => exact ⟨field, rfl, nofun⟩
  | succ calls ih =>
    obtain ⟨room, further⟩ := room
    cases got : (getToken (fieldLen len) s).token with
    | none =>
      rw [tokens_none got] at enough
      cases enough
    | some token =>
      obtain ⟨field₁, taken, first⟩ := nextField_some field room got
      rw [tokens_some got] at enough ⊢
      obtain ⟨field', more, stands⟩ := ih field₁ (further (by rw [got]; nofun)) (Nat.le_of_succ_le_succ enough)
      refine ⟨field', ?_, ?_⟩
      · rw [nextFields, taken]
        change (nextFields len calls (getToken (fieldLen len) s).s field₁ >>= _) = _
        rw [more]
        rfl
      · rw [List.take_succ_cons]
        cases calls with
        | zero =>
          cases more
          intro last isLast
          cases isLast
          exact first
        | succ calls =>
          obtain ⟨next, rest, isRest⟩ : ∃ next rest, (tokens (fieldLen len) (getToken (fieldLen len) s).s).take (calls + 1) =
              next :: rest := by
            apply List.exists_cons_of_ne_nil
            intro none
            have length := congrArg List.length none
            rw [List.length_take, List.length_nil] at length
            rw [List.length_cons] at enough
            omega
          rw [isRest] at stands ⊢
          rw [List.getLast?_cons_cons]
          exact stands

end Fields

/-- The octets of a text, pair by pair. -/
theorem hexOctets_take (len : Nat) : ∀ text : Octets, 2 * len ≤ text.length →
    hexOctets (text.take (2 * len)) =
      (List.range len).map fun i => charToHexdigit (text.getD (i * 2) 0) <<< 4 ||| charToHexdigit (text.getD (i * 2 + 1) 0) := by
  induction len with
  | zero => exact fun text _ => rfl
  | succ len ih =>
    intro text enough
    match text with
    | [] => exact absurd enough (by simp)
    | [_] =>
      rw [List.length_singleton] at enough
      omega
    | high :: low :: rest =>
      simp only [List.length_cons] at enough
      have two : 2 * (len + 1) = 2 * len + 1 + 1 := by omega
      rw [two, List.take_succ_cons, List.take_succ_cons, hexOctets, ih rest (by omega), List.range_succ_eq_map,
        List.map_cons, List.map_map]
      refine congrArg₂ List.cons rfl (List.map_congr_left fun i _ => ?_)
      have place : (i + 1) * 2 = i * 2 + 1 + 1 := by omega
      simp only [Function.comp_apply, Nat.succ_eq_add_one, place, List.getD_cons_succ]

/-! ## The answer -/

section Answer
variable {len : UInt8} {answer : CrsmAnswer} {field : Nat → UInt8} {line : Octets} {more : List Octets}

/-- What is done with the three fields. -/
def response (len : UInt8) (taken : List Octets × (Nat → UInt8)) : Except Stop Octets :=
  match taken with
  | ([sw1, _, response], field) =>
    if response.length % 2 ≠ 0 then .error .refused
    else if atoi sw1 ≠ 0x90 then .error .refused
    else .ok ((List.range len.toNat).map fun i =>
      charToHexdigit (field (i * 2)) <<< 4 ||| charToHexdigit (field (i * 2 + 1)))
  | _ => .error .undefined

theorem simFileOctets_eq (right : answer.status = respOk) (lines : answer.lines = line :: more) (long : 7 ≤ line.length) :
    simFileOctets len answer field = nextFields len 3 (line.drop 7) field >>= response len := by
  unfold simFileOctets
  rw [if_neg (not_not.mpr right), lines]
  dsimp only
  rw [if_neg (Nat.not_lt.mpr long)]
  simp only [nextFields, bind_assoc, pure_bind]
  rfl

/-- Three fields, the first of which tells success, are converted from the memory. -/
theorem simFileOctets_fields (right : answer.status = respOk) (lines : answer.lines = line :: more) (long : 7 ≤ line.length)
    (room : FieldsHaveRoom len 3 (line.drop 7)) {sw1 sw2 text : Octets} {rest : List Octets}
    (fields : answer.fields len = sw1 :: sw2 :: text :: rest) (even : text.length % 2 = 0) (success : atoi sw1 = 0x90) :
    ∃ field' : Nat → UInt8, simFileOctets len answer field = .ok ((List.range len.toNat).map fun i =>
        charToHexdigit (field' (i * 2)) <<< 4 ||| charToHexdigit (field' (i * 2 + 1))) ∧
      ∀ i < text.length, field' i = text.getD i 0 := by
  have all : tokens (fieldLen len) (line.drop 7) = sw1 :: sw2 :: text :: rest := by
    rw [← fields, CrsmAnswer.fields, lines]
  obtain ⟨field', taken, stands⟩ := nextFields_enough field room (by rw [all]; simp)
  rw [all] at taken stands
  refine ⟨field', ?_, stands text rfl⟩
  rw [simFileOctets_eq right lines long, taken]
  change response len ([sw1, sw2, text], field') = _
  unfold response
  dsimp only
  rw [if_neg (not_not.mpr even), if_neg (not_not.mpr success)]

/-- From a field that is long enough the memory gives its octets. -/
theorem converted_eq {text : Octets} {field' : Nat → UInt8} (stands : ∀ i < text.length, field' i = text.getD i 0)
    (enough : 2 * len.toNat ≤ text.length) :
    ((List.range len.toNat).map fun i => charToHexdigit (field' (i * 2)) <<< 4 ||| charToHexdigit (field' (i * 2 + 1))) =
      hexOctets (text.take (2 * len.toNat)) := by
  rw [hexOctets_take len.toNat text enough]
  refine List.map_congr_left fun i member => ?_
  have inside := List.mem_range.mp member
  rw [stands _ (by omega), stands _ (by omega)]

/-- Whatever else the fields are, they are refused. -/
theorem simFileOctets_refused (right : answer.status = respOk) (lines : answer.lines = line :: more) (long : 7 ≤ line.length)
    (room : FieldsHaveRoom len 3 (line.drop 7))
    (other : ¬∃ sw1 sw2 text rest, answer.fields len = sw1 :: sw2 :: text :: rest ∧ text.length % 2 = 0 ∧ atoi sw1 = 0x90) :
    simFileOctets len answer field = .error .refused := by
  have isFields : answer.fields len = tokens (fieldLen len) (line.drop 7) := by
    rw [CrsmAnswer.fields, lines]
  rw [simFileOctets_eq right lines long]
  by_cases enough : 3 ≤ (tokens (fieldLen len) (line.drop 7)).length
  · obtain ⟨field', taken, -⟩ := nextFields_enough field room enough
    rw [taken]
    match all : tokens (fieldLen len) (line.drop 7) with
    | [] | [_] | [_, _] =>
      rw [all] at enough
      simp at enough
    | sw1 :: sw2 :: text :: rest =>
      change response len ([sw1, sw2, text], field') = _
      unfold response
      dsimp only
      by_cases even : text.length % 2 = 0
      · have failure : atoi sw1 ≠ 0x90 := fun success =>
          other ⟨sw1, sw2, text, rest, isFields.trans all, even, success⟩
        rw [if_neg (not_not.mpr even), if_pos failure]
      · rw [if_pos even]
  · rw [nextFields_short room (Nat.not_le.mp enough)]
    rfl

end Answer

/-- A file is read as it should be exactly if its offset is the same in both halves and the answer
is readable. -/
theorem sim_file_read_iff (id : Nat) (offset : UInt16) (len : UInt8) (answer : CrsmAnswer) (field : Nat → UInt8)
    (data : Octets) : ReadsFile id offset len answer field data ↔ Readable offset len answer := by
  unfold ReadsFile Readable
  refine and_congr (request_offset_iff id offset len) ?_
  unfold simFileRead
  dsimp only
  by_cases right : answer.status = respOk
  · simp only [right, forall_const]
    match lines : answer.lines with
    | [] =>
      have stuck : simFileOctets len answer field = .error .undefined := by
        unfold simFileOctets
        rw [if_neg (not_not.mpr right), lines]
      rw [stuck]
      exact iff_of_false (fun never => never) (by rintro ⟨line, more, none, -⟩; cases none)
    | line :: more =>
      by_cases long : 7 ≤ line.length
      · by_cases room : FieldsHaveRoom len 3 (line.drop 7)
        · by_cases accepted : ∃ sw1 sw2 text rest, answer.fields len = sw1 :: sw2 :: text :: rest ∧
            text.length % 2 = 0 ∧ atoi sw1 = 0x90
          · obtain ⟨sw1, sw2, text, rest, fields, even, success⟩ := accepted
            obtain ⟨field', octets, stands⟩ := simFileOctets_fields right lines long room fields even success
            rw [octets]
            constructor
            · rintro ⟨text', third, hexadecimal, -⟩
              rw [fields] at third
              cases third
              refine ⟨line, more, rfl, long, room, fun sw1' sw2' text' rest' fields' _ _ => ?_⟩
              rw [fields] at fields'
              cases fields'
              exact hexadecimal
            · rintro ⟨line', more', same, -, -, readable⟩
              have hexadecimal := readable sw1 sw2 text rest fields even success
              have third : (answer.fields len)[2]? = some text := by
                rw [fields]
                rfl
              refine ⟨text, third, hexadecimal, ?_⟩
              dsimp only
              rw [List.length_map, List.length_range, converted_eq stands hexadecimal.1]
          · rw [simFileOctets_refused right lines long room accepted]
            refine iff_of_true rfl ⟨line, more, rfl, long, room, fun sw1 sw2 text rest fields even success => ?_⟩
            exact absurd ⟨sw1, sw2, text, rest, fields, even, success⟩ accepted
        · rw [simFileOctets_eq right lines long, nextFields_crowded room]
          refine iff_of_false (fun never => never) ?_
          rintro ⟨line', more', same, -, room', -⟩
          cases same
          exact room room'
      · have stuck : simFileOctets len answer field = .error .undefined := by
          unfold simFileOctets
          rw [if_neg (not_not.mpr right), lines]
          dsimp only
          rw [if_pos (Nat.not_le.mp long)]
        rw [stuck]
        refine iff_of_false (fun never => never) ?_
        rintro ⟨line', more', same, long', -⟩
        cases same
        exact long long'
  · have refused : simFileOctets len answer field = .error .refused := by
      unfold simFileOctets
      rw [if_pos right]
    rw [refused]
    exact iff_of_true rfl fun isRight => absurd isRight right

/-- Offset 1 is asked for as 257. -/
theorem offset_one_is_missed : ¬ReadsFile 0x6f3a 1 1 ⟨respError, []⟩ (fun _ => 0) [0] := by
  rintro ⟨offset, -⟩
  exact absurd offset (by decide)

end Vstuff.Vgsm
