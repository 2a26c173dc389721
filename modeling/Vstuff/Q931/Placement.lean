import Mathlib.Data.List.Nodup
import Vstuff.Q931.Codings

/-! Where each element of a message stands and in which codeset. A message is a row of
shifts and elements, whatever has been decoded before; decoding is done one element
after the other along this row. -/
namespace Vstuff.Q931
open Lapd (Octets IntfRole)
open Peek (cell)
set_option linter.all false

/-! ## The row of a message -/

/-- An element of a message: its identifier octet, where its content begins and how long
it is. The last one may end behind the message. -/
structure Item where
  octet : UInt8
  start : Nat
  len : Nat
  whole : Bool
  deriving DecidableEq, Repr

/-- The identifier, without the value that some single octet elements have beside it. -/
def Item.id (item : Item) : UInt8 := if isSoIe item.octet then getSoIeId item.octet else item.octet

/-- A shift, by its octet, or an element. -/
inductive Token where
  | shift (octet : UInt8)
  | element (item : Item)
  deriving DecidableEq, Repr

/-- The codeset of a shift. -/
def shiftCodeset (octet : UInt8) : UInt8 := octet &&& 0x07

/-- A shift locks unless this bit is set. -/
def isNonLocking (octet : UInt8) : Bool := octet &&& 0x08 != 0

/-- The codeset of a locking shift. -/
def Token.locks : Token → Option UInt8
  | .shift octet => if isNonLocking octet then none else some (shiftCodeset octet)
  | .element _ => none

/-- The codeset of a non-locking shift. -/
def Token.shiftsOnce : Token → Option UInt8
  | .shift octet => if isNonLocking octet then some (shiftCodeset octet) else none
  | .element _ => none

/-- The codeset of the last locking shift, or 0. -/
def locked (before : List Token) : UInt8 := (before.filterMap Token.locks).getLast?.getD 0

/-- The codeset of an element: the one of a non-locking shift directly before it, or else
the one of the last locking shift. -/
def codesetAt (before : List Token) : UInt8 :=
  (before.getLast?.bind Token.shiftsOnce).getD (locked before)

/-- The row from an octet on, for as many turns as are left. -/
def tokens (m : Nat → UInt8) (rawiesLen : Nat) : Nat → Nat → List Token
  | 0, _ => []
  | turns + 1, pos =>
    if pos < rawiesLen then
      if isSoIe (m pos) then
        (if getSoIeId (m pos) = IeId.shift.code then .shift (m pos)
          else .element { octet := m pos, start := pos, len := 1, whole := true }) ::
          tokens m rawiesLen turns (pos + 1)
      else
        let len := (m (pos + 1)).toNat
        .element { octet := m pos, start := pos + 2, len := len, whole := pos + len + 2 ≤ rawiesLen } ::
          if pos + len + 2 ≤ rawiesLen then tokens m rawiesLen turns (pos + len + 2) else []
    else []

/-- The elements of a row, each with its codeset, after some tokens. -/
def placed (before : List Token) : List Token → List (UInt8 × Item)
  | [] => []
  | .shift octet :: row => placed (before ++ [.shift octet]) row
  | .element item :: row => (codesetAt before, item) :: placed (before ++ [.element item]) row

/-- The elements of a message. -/
def elements (area : Octets) (behind : Nat → UInt8) : List (UInt8 × Item) :=
  placed [] (tokens (memory area behind) area.length area.length 0)

section Decoding
variable {γ : Type} (codecs : Codecs γ) (messageType : UInt8) (m : Nat → UInt8)

/-- Decoding elements one after the other, each in its codeset, and recording under some
octet that they are there, until an assertion fails. -/
def decodeAll (record : Item → UInt8) (ds : DecoderStatus γ) : List (UInt8 × Item) → DecoderStatus γ
  | [] => ds
  | (codeset, item) :: row =>
    let ds := (decodeIe codecs ds messageType codeset item.id item.start item.len).value m
    if ds.aborted then ds
    else decodeAll record (if item.whole then present ds codeset (record item) else ds) row

/-! ## Codesets along the row -/

theorem locked_shift (before : List Token) (octet : UInt8) :
    locked (before ++ [.shift octet]) =
      if isNonLocking octet then locked before else shiftCodeset octet := by
  unfold locked
  cases kind : isNonLocking octet <;> simp [Token.locks, kind]

theorem locked_element (before : List Token) (item : Item) :
    locked (before ++ [.element item]) = locked before := by
  simp [locked, Token.locks]

theorem codesetAt_shift (before : List Token) (octet : UInt8) :
    codesetAt (before ++ [.shift octet]) = shiftCodeset octet := by
  rw [codesetAt, locked_shift]
  cases kind : isNonLocking octet <;> simp [Token.shiftsOnce, kind]

theorem codesetAt_element (before : List Token) (item : Item) :
    codesetAt (before ++ [.element item]) = locked before := by
  rw [codesetAt, locked_element]
  simp [Token.shiftsOnce]

theorem shiftCodeset_lt (octet : UInt8) : shiftCodeset octet < 8 := by
  have small : shiftCodeset octet ≤ 7 := UInt8.and_le_right
  exact UInt8.lt_of_le_of_lt small (by decide)

variable {codecs messageType m}

theorem decodeShiftIe_fst (ds : DecoderStatus γ) (octet : UInt8) :
    (decodeShiftIe ds octet).1 = shiftCodeset octet := by
  rw [decodeShiftIe_codeset, getSoIeType2Value, UInt8.and_assoc]
  rfl

theorem decodeShiftIe_snd (ds : DecoderStatus γ) (octet : UInt8) :
    (decodeShiftIe ds octet).2 =
      { ds with activeCodeset := if isNonLocking octet then ds.activeCodeset else shiftCodeset octet } := by
  have low : getSoIeType2Value octet &&& 0x07 = shiftCodeset octet := by
    rw [getSoIeType2Value, UInt8.and_assoc]
    rfl
  have kind : isNonLocking octet = (getSoIeType2Value octet &&& 0x08 != 0) := by
    rw [getSoIeType2Value, UInt8.and_assoc]
    rfl
  unfold decodeShiftIe
  rw [low, kind]
  by_cases once : getSoIeType2Value octet &&& 0x08 = 0 <;> simp [once]

/-! ## What the decoder of an element leaves alone -/

/-- The status with the active codeset and the missing elements changed. -/
def DecoderStatus.altered (ds : DecoderStatus γ) (f : UInt8 → UInt8)
    (g : List IeidEntry → List IeidEntry) : DecoderStatus γ :=
  { ds with activeCodeset := f ds.activeCodeset, mandatoryIes := g ds.mandatoryIes }

variable {f : UInt8 → UInt8} {g : List IeidEntry → List IeidEntry}

theorem unrecognized_altered (ds : DecoderStatus γ) (ieId : UInt8) (entry : IeidEntry) :
    unrecognized (ds.altered f g) ieId entry = (unrecognized ds ieId entry).altered f g := by
  unfold unrecognized
  split <;> rfl

theorem contentErrors_altered (ds : DecoderStatus γ) (cls : IeClass) (usage : IeUsage) :
    ieHasContentErrors (ds.altered f g) cls usage = (ieHasContentErrors ds cls usage).altered f g := by
  unfold ieHasContentErrors
  split <;> rfl

theorem judged_altered (ds : DecoderStatus γ) {cls : IeClass} {usage : IeUsage} {start admitted len : Nat}
    (verdict : Verdict γ) :
    judged (ds.altered f g) cls usage start admitted len verdict =
      (judged ds cls usage start admitted len verdict).altered f g := by
  cases verdict with
  | reject => exact contentErrors_altered ds cls usage
  | abort => rfl
  | accept content =>
    by_cases room : ds.ies.length < iesNumIes
    · have room' : (ds.altered f g).ies.length < iesNumIes := room
      rw [judged, judged, iesAddPut, iesAddPut, if_pos room, if_pos room']
      rfl
    · have room' : ¬(ds.altered f g).ies.length < iesNumIes := room
      rw [judged, judged, iesAddPut, iesAddPut, if_neg room, if_neg room']
      rfl

/-- What is admitted does not depend on them. -/
theorem admitIe_altered (ds : DecoderStatus γ) (codeset ieId : UInt8) (len : Nat) :
    admitIe (ds.altered f g) messageType codeset ieId len =
      match admitIe ds messageType codeset ieId len with
      | .error after => .error (after.altered f g)
      | .ok admitted => .ok admitted := by
  have same (cls : IeClass) : repeated (ds.altered f g) cls ↔ repeated ds cls := Iff.rfl
  unfold admitIe
  cases getIeClass codeset ieId with
  | none => simp only [unrecognized_altered]
  | some cls =>
    cases getIeUsage messageType codeset ieId with
    | none => simp only [unrecognized_altered]
    | some usage =>
      simp only [same, unrecognized_altered, contentErrors_altered]
      split_ifs <;> rfl

theorem decodeIe_altered (ds : DecoderStatus γ) (codeset ieId : UInt8) (start len : Nat) :
    (decodeIe codecs (ds.altered f g) messageType codeset ieId start len).value m =
      ((decodeIe codecs ds messageType codeset ieId start len).value m).altered f g := by
  unfold decodeIe
  rw [admitIe_altered]
  cases admitIe ds messageType codeset ieId len with
  | error after => rfl
  | ok admitted =>
    dsimp only
    rw [readIe_value, readIe_value]
    exact judged_altered ds _

/-! ## The loop follows the row -/

/-- The status without the active codeset, which only the loop needs. -/
def DecoderStatus.found (ds : DecoderStatus γ) : DecoderStatus γ := ds.altered (fun _ => 0) id

/-- One element, and then whatever decodes the rest of the row. -/
theorem decodeAll_element (codecs : Codecs γ) (messageType : UInt8) (m : Nat → UInt8) {before : List Token}
    (item : Item) (row : List (UInt8 × Item)) (ds : DecoderStatus γ) (active : ds.activeCodeset = locked before)
    (rest : DecoderStatus γ → Option (DecoderStatus γ))
    (further : ∀ after : DecoderStatus γ, after.activeCodeset = locked before →
      (rest after).map DecoderStatus.found =
        some (decodeAll codecs messageType m Item.octet
          (if item.whole then present after.found (codesetAt before) item.octet else after.found) row)) :
    (let after := (decodeIe codecs ds messageType (codesetAt before) item.id item.start item.len).value m
      if after.aborted then some after else rest after).map DecoderStatus.found =
      some (decodeAll codecs messageType m Item.octet ds.found ((codesetAt before, item) :: row)) := by
  have kept : ((decodeIe codecs ds messageType (codesetAt before) item.id item.start item.len).value
      m).activeCodeset = ds.activeCodeset := decodeIe_active
  rw [decodeAll, DecoderStatus.found, decodeIe_altered]
  generalize (decodeIe codecs ds messageType (codesetAt before) item.id item.start item.len).value m = after
    at kept ⊢
  have same : (after.altered (fun _ => 0) id).aborted = after.aborted := rfl
  dsimp only
  rw [same]
  by_cases stopped : after.aborted = true
  · rw [if_pos stopped, if_pos stopped]
    rfl
  · rw [if_neg stopped, if_neg stopped]
    exact further after (kept.trans active)

/-- The loop decodes the elements of the row one after the other, each in its codeset,
and records their identifier octets. -/
theorem decodeLoop_follows (codecs : Codecs γ) (messageType : UInt8) (m : Nat → UInt8) (rawiesLen turns : Nat) :
    ∀ (pos : Nat) (before : List Token) (ds : DecoderStatus γ), rawiesLen ≤ pos + turns →
      ds.activeCodeset = locked before →
      ((decodeLoop codecs messageType rawiesLen turns pos (codesetAt before) ds).value m).map
          DecoderStatus.found =
        some (decodeAll codecs messageType m Item.octet ds.found
          (placed before (tokens m rawiesLen turns pos))) := by
  induction turns with
  | zero =>
    intro pos before ds enough active
    have done : ¬pos < rawiesLen := by omega
    simp [decodeLoop, tokens, placed, decodeAll, done]
  | succ turns further =>
    intro pos before ds enough active
    unfold decodeLoop tokens
    by_cases inside : pos < rawiesLen
    · rw [if_pos inside, if_pos inside, Peek.value_cell_bind]
      by_cases single : isSoIe (m pos) = true
      · rw [if_pos single, if_pos single]
        by_cases shift : getSoIeId (m pos) = IeId.shift.code
        · rw [if_pos shift, if_pos shift, placed]
          have next := further (pos + 1) (before ++ [.shift (m pos)]) (decodeShiftIe ds (m pos)).2 (by omega)
            (by rw [decodeShiftIe_snd, locked_shift, active])
          rw [codesetAt_shift, ← decodeShiftIe_fst ds] at next
          have found : (decodeShiftIe ds (m pos)).2.found = ds.found := by
            rw [decodeShiftIe_snd]
            rfl
          rw [found] at next
          exact next
        · rw [if_neg shift, if_neg shift, placed]
          have id : (⟨m pos, pos, 1, true⟩ : Item).id = getSoIeId (m pos) := if_pos single
          rw [Peek.value_bind, apply_ite fun x : Reader (Option (DecoderStatus γ)) => x.value m, ← id]
          refine decodeAll_element codecs messageType m ⟨m pos, pos, 1, true⟩ _ ds active
            (fun after => (decodeLoop codecs messageType rawiesLen turns (pos + 1)
              (present after (codesetAt before) (m pos)).activeCodeset
              (present after (codesetAt before) (m pos))).value m) fun after kept => ?_
          have next := further (pos + 1) (before ++ [.element ⟨m pos, pos, 1, true⟩])
            (present after (codesetAt before) (m pos)) (by omega) (kept.trans (locked_element ..).symm)
          rw [codesetAt_element, ← kept] at next
          exact next
      · rw [if_neg single, if_neg single, Peek.value_cell_bind, Peek.value_bind]
        dsimp only
        generalize (m (pos + 1)).toNat = len
        by_cases whole : pos + len + 2 ≤ rawiesLen
        · rw [if_neg (Nat.not_lt.mpr whole), if_pos whole, decide_eq_true whole, placed,
            apply_ite fun x : Reader (Option (DecoderStatus γ)) => x.value m]
          have id : (⟨m pos, pos + 2, len, true⟩ : Item).id = m pos := if_neg single
          have step := decodeAll_element codecs messageType m ⟨m pos, pos + 2, len, true⟩
            (placed (before ++ [.element ⟨m pos, pos + 2, len, true⟩])
              (tokens m rawiesLen turns (pos + len + 2))) ds active
            (fun after => (decodeLoop codecs messageType rawiesLen turns (pos + len + 2)
              (present after (codesetAt before) (m pos)).activeCodeset
              (present after (codesetAt before) (m pos))).value m) fun after kept => by
                have next := further (pos + len + 2) (before ++ [.element ⟨m pos, pos + 2, len, true⟩])
                  (present after (codesetAt before) (m pos)) (by omega) (kept.trans (locked_element ..).symm)
                rw [codesetAt_element, ← kept] at next
                exact next
          rw [id] at step
          exact step
        · rw [if_pos (Nat.lt_of_not_le whole), if_neg whole, decide_eq_false whole, placed, placed,
            apply_ite fun x : Reader (Option (DecoderStatus γ)) => x.value m]
          have id : (⟨m pos, pos + 2, len, false⟩ : Item).id = m pos := if_neg single
          have step := decodeAll_element codecs messageType m ⟨m pos, pos + 2, len, false⟩ [] ds active some
            fun after kept => rfl
          rw [id] at step
          exact step
    · simp [inside, placed, decodeAll]

theorem decodeIes_follows {role : IntfRole} {area : Octets} {behind : Nat → UInt8} {ds : DecoderStatus γ}
    (decodes : (decodeIes codecs messageType role area.length).value (memory area behind) = some ds) :
    ds.found = decodeAll codecs messageType (memory area behind) Item.octet
      { mandatoryIes := mandatoryIes messageType role } (elements area behind) := by
  have follows := decodeLoop_follows codecs messageType (memory area behind) area.length area.length 0 []
    { mandatoryIes := mandatoryIes messageType role } (Nat.le_add_left ..) rfl
  rw [decodeIes] at decodes
  have started : codesetAt [] = 0 := rfl
  rw [started, decodes] at follows
  exact Option.some.inj follows

/-! ## What is recorded -/

/-- The entries under which the elements that end inside the message are recorded. -/
def recorded (record : Item → UInt8) (row : List (UInt8 × Item)) : List IeidEntry :=
  (row.filter fun placed => placed.2.whole).map fun placed =>
    { codeset := placed.1, id := record placed.2 }

/-- The status but for the missing elements. -/
def DecoderStatus.unmissed (ds : DecoderStatus γ) : DecoderStatus γ := ds.altered id fun _ => []

theorem decodeIe_mandatory (codecs : Codecs γ) (messageType : UInt8) (m : Nat → UInt8) (ds : DecoderStatus γ)
    (codeset ieId : UInt8) (start len : Nat) :
    ((decodeIe codecs ds messageType codeset ieId start len).value m).mandatoryIes = ds.mandatoryIes := by
  have same : ds.altered id (fun _ => ds.mandatoryIes) = ds := rfl
  rw [← same, decodeIe_altered, same]
  rfl

/-- Under which entries elements are recorded is a matter of the missing ones only. -/
theorem decodeAll_unmissed (record record' : Item → UInt8) (row : List (UInt8 × Item)) :
    ∀ ds ds' : DecoderStatus γ, ds.unmissed = ds'.unmissed →
      (decodeAll codecs messageType m record ds row).unmissed =
        (decodeAll codecs messageType m record' ds' row).unmissed := by
  induction row with
  | nil => exact fun _ _ same => same
  | cons placed row further =>
    intro ds ds' same
    obtain ⟨codeset, item⟩ := placed
    have after : ((decodeIe codecs ds messageType codeset item.id item.start item.len).value m).unmissed =
        ((decodeIe codecs ds' messageType codeset item.id item.start item.len).value m).unmissed := by
      rw [DecoderStatus.unmissed, ← decodeIe_altered, ← DecoderStatus.unmissed, same, DecoderStatus.unmissed,
        decodeIe_altered]
      rfl
    rw [decodeAll, decodeAll]
    generalize (decodeIe codecs ds messageType codeset item.id item.start item.len).value m = one at after ⊢
    generalize (decodeIe codecs ds' messageType codeset item.id item.start item.len).value m = other at after ⊢
    have stop : one.unmissed.aborted = other.unmissed.aborted := congrArg DecoderStatus.aborted after
    rw [show one.aborted = other.aborted from stop]
    by_cases stopped : other.aborted = true
    · rw [if_pos stopped, if_pos stopped]
      exact after
    · rw [if_neg stopped, if_neg stopped]
      refine further _ _ ?_
      cases item.whole
      · exact after
      · exact after

/-- What is missing in the end. -/
theorem decodeAll_mandatory (record : Item → UInt8) (row : List (UInt8 × Item)) :
    ∀ ds : DecoderStatus γ, (decodeAll codecs messageType m record ds row).aborted = false →
      (decodeAll codecs messageType m record ds row).mandatoryIes =
        ds.mandatoryIes.diff (recorded record row) := by
  induction row with
  | nil => exact fun _ _ => rfl
  | cons placed row further =>
    intro ds returns
    obtain ⟨codeset, item⟩ := placed
    have kept := decodeIe_mandatory codecs messageType m ds codeset item.id item.start item.len
    rw [decodeAll] at returns ⊢
    generalize (decodeIe codecs ds messageType codeset item.id item.start item.len).value m = after
      at kept returns ⊢
    by_cases stopped : after.aborted = true
    · rw [if_pos stopped] at returns
      exact absurd stopped (by simp [returns])
    · rw [if_neg stopped] at returns ⊢
      rw [further _ returns, ← kept]
      cases whole : item.whole
      · simp [recorded, whole]
      · simp [recorded, whole, List.diff_cons, present]

end Decoding

/-! ## Codeset shifts -/

theorem locked_lt (before : List Token) : locked before < 8 := by
  unfold locked
  cases last : (before.filterMap Token.locks).getLast? with
  | none => decide
  | some codeset =>
    obtain ⟨token, -, locks⟩ := List.mem_filterMap.mp (List.mem_of_getLast? last)
    cases token with
    | element item => cases locks
    | shift octet =>
      rw [Token.locks] at locks
      split at locks
      · cases locks
      · cases locks
        exact shiftCodeset_lt octet

-- A non-locking shift counts for the element behind it alone.
example : codesetAt [.shift 0x95, .shift 0x9E] = 6 ∧ locked [.shift 0x95, .shift 0x9E] = 5 := by decide +kernel

theorem codesetAt_lt (before : List Token) : codesetAt before < 8 := by
  unfold codesetAt
  cases last : before.getLast? with
  | none => exact locked_lt before
  | some token =>
    cases token with
    | element item => exact locked_lt before
    | shift octet =>
      rw [Option.bind_some, Token.shiftsOnce]
      split
      · exact shiftCodeset_lt octet
      · exact locked_lt before

theorem placed_lt (row : List Token) :
    ∀ (before : List Token), ∀ item ∈ placed before row, item.1 < 8 := by
  induction row with
  | nil => exact fun _ _ member => absurd member List.not_mem_nil
  | cons token row further =>
    intro before item member
    cases token with
    | shift octet => exact further _ item member
    | element next =>
      rcases List.mem_cons.mp member with rfl | later
      · exact codesetAt_lt before
      · exact further _ item later

/-- Every element of a message has been decoded in its codeset, and recorded there as
present if it ends inside the message. -/
def InCodesets {γ : Type} (codecs : Codecs γ) (messageType : UInt8) (role : IntfRole) (area : Octets)
    (behind : Nat → UInt8) (ds : DecoderStatus γ) : Prop :=
  ds.found = decodeAll codecs messageType (memory area behind) Item.id
      { mandatoryIes := mandatoryIes messageType role } (elements area behind) ∧
    ∀ placed ∈ elements area behind, placed.1 < 8

/-- A mandatory element of a message is there with its bare identifier. -/
def BareMandatory (messageType : UInt8) (role : IntfRole) (area : Octets) (behind : Nat → UInt8) : Prop :=
  ∀ placed ∈ elements area behind, placed.2.whole = true →
    { codeset := placed.1, id := placed.2.id } ∈ mandatoryIes messageType role →
    ∃ bare ∈ elements area behind, bare.2.whole = true ∧ bare.1 = placed.1 ∧ bare.2.octet = placed.2.id

set_option maxRecDepth 4000 in
/-- No mandatory element has an identifier with a value. -/
theorem mandatory_bare {messageType : UInt8} {role : IntfRole} {entry : IeidEntry}
    (mandatory : entry ∈ mandatoryIes messageType role) (single : isSoIe entry.id = true) :
    getSoIeId entry.id = entry.id := by
  have all : ∀ usage ∈ ieUsages, isSoIe usage.ieId.code = true →
      getSoIeId usage.ieId.code = usage.ieId.code := by
    decide
  rcases List.mem_append.mp mandatory with listed | added
  · obtain ⟨usage, member, rfl⟩ := List.mem_map.mp listed
    exact all usage (List.mem_filter.mp member).1 single
  · split at added
    · rw [List.mem_singleton] at added
      subst added
      exact absurd single (by decide)
    · cases added

theorem mem_recorded {record : Item → UInt8} {row : List (UInt8 × Item)} {entry : IeidEntry} :
    entry ∈ recorded record row ↔
      ∃ placed ∈ row, placed.2.whole = true ∧ placed.1 = entry.codeset ∧ record placed.2 = entry.id := by
  obtain ⟨codeset, id⟩ := entry
  simp only [recorded, List.mem_map, List.mem_filter, IeidEntry.mk.injEq, and_assoc]

/-- Elements are decoded in the codesets of their shifts, and recorded there unless a
mandatory element has a value beside its identifier. -/
theorem elements_decoded_in_codesets_iff {γ : Type} (codecs : Codecs γ) {messageType : UInt8}
    {role : IntfRole} {area : Octets} {behind : Nat → UInt8} {ds : DecoderStatus γ}
    (decodes : (decodeIes codecs messageType role area.length).value (memory area behind) = some ds)
    (returns : ds.aborted = false) :
    InCodesets codecs messageType role area behind ds ↔ BareMandatory messageType role area behind := by
  have follows := decodeIes_follows decodes
  have small : ∀ placed ∈ elements area behind, placed.1 < 8 :=
    placed_lt _ []
  have nodup := mandatoryIes_nodup messageType role
  set start : DecoderStatus γ := { mandatoryIes := mandatoryIes messageType role }
  set octets := decodeAll codecs messageType (memory area behind) Item.octet start (elements area behind)
  set ids := decodeAll codecs messageType (memory area behind) Item.id start (elements area behind) with ids_eq
  have others : octets.unmissed = ids.unmissed :=
    decodeAll_unmissed Item.octet Item.id (elements area behind) start start rfl
  have octetsReturn : octets.aborted = false := by
    rw [← follows]
    exact returns
  have idsReturn : ids.aborted = false := by
    have stop : octets.unmissed.aborted = ids.unmissed.aborted := congrArg DecoderStatus.aborted others
    exact stop.symm.trans octetsReturn
  have byOctets := decodeAll_mandatory Item.octet (elements area behind) start octetsReturn
  have byIds := decodeAll_mandatory Item.id (elements area behind) start idsReturn
  have decided : InCodesets codecs messageType role area behind ds ↔
      octets.mandatoryIes = ids.mandatoryIes := by
    rw [InCodesets, and_iff_left small, follows, ← ids_eq]
    constructor
    · exact congrArg DecoderStatus.mandatoryIes
    · intro missing
      have back : ∀ ds : DecoderStatus γ, ds = ds.unmissed.altered id fun _ => ds.mandatoryIes := fun _ => rfl
      rw [back octets, back ids, others, missing]
  rw [decided, byOctets, byIds, nodup.sdiff_eq_filter, nodup.sdiff_eq_filter]
  constructor
  · intro same placed member whole mandatory
    have there : ⟨placed.1, placed.2.id⟩ ∈ recorded Item.id (elements area behind) :=
      mem_recorded.mpr ⟨placed, member, whole, rfl, rfl⟩
    by_contra missing
    have kept : (⟨placed.1, placed.2.id⟩ : IeidEntry) ∈ (mandatoryIes messageType role).filter
        (· ∉ recorded Item.octet (elements area behind)) := by
      refine List.mem_filter.mpr ⟨mandatory, decide_eq_true fun bare => missing ?_⟩
      exact mem_recorded.mp bare
    rw [same] at kept
    exact absurd there (of_decide_eq_true (List.mem_filter.mp kept).2)
  · intro bare
    refine List.filter_congr fun entry mandatory => decide_eq_decide.mpr (not_congr ?_)
    rw [mem_recorded, mem_recorded]
    constructor
    · rintro ⟨placed, member, whole, codeset, octet⟩
      refine ⟨placed, member, whole, codeset, ?_⟩
      rw [Item.id, octet]
      split
      · next single => exact mandatory_bare mandatory single
      · rfl
    · rintro ⟨placed, member, whole, codeset, id⟩
      obtain ⟨other, there, otherWhole, otherCodeset, octet⟩ := bare placed member whole (by
        rw [codeset, id]
        exact mandatory)
      exact ⟨other, there, otherWhole, otherCodeset.trans codeset, octet.trans id⟩

/-- A display in codeset 5, behind a non-locking shift, and a bearer capability in codeset 0. -/
theorem display_of_other_codeset :
    let area : Octets := [0x9d, 0x28, 0x01, 0x41, 0x04, 0x03, 0x80, 0x90, 0xa3]
    ∃ ds, (decodeIes (codecs utc ⟨.bra, .nt, 2⟩) 0x05 .nt area.length).value (memory area fun _ => 0) = some ds ∧
      InCodesets (codecs utc ⟨.bra, .nt, 2⟩) 0x05 .nt area (fun _ => 0) ds := by
  intro area
  have returns : ((decodeIes (codecs utc ⟨.bra, .nt, 2⟩) 0x05 .nt area.length).value
      (memory area fun _ => 0)).any (fun ds => !ds.aborted) = true := by
    decide +kernel
  obtain ⟨ds, decodes, running⟩ := Option.any_eq_true _ _ |>.mp returns
  refine ⟨ds, decodes, (elements_decoded_in_codesets_iff _ decodes (by simpa using running)).mpr ?_⟩
  unfold BareMandatory
  decide +kernel

/-- A congestion level of 1 is not recorded as present. -/
theorem congestion_level_is_missing :
    let area : Octets := [0xb1]
    ∃ ds, (decodeIes (codecs utc ⟨.bra, .nt, 2⟩) 0x79 .nt area.length).value (memory area fun _ => 0) = some ds ∧
      ds.aborted = false ∧ ¬InCodesets (codecs utc ⟨.bra, .nt, 2⟩) 0x79 .nt area (fun _ => 0) ds := by
  intro area
  have missing : ((decodeIes (codecs utc ⟨.bra, .nt, 2⟩) 0x79 .nt area.length).value
      (memory area fun _ => 0)).any (fun ds => !ds.aborted && !ds.mandatoryIes.isEmpty) = true := by
    decide +kernel
  obtain ⟨ds, decodes, found⟩ := Option.any_eq_true _ _ |>.mp missing
  rw [Bool.and_eq_true] at found
  refine ⟨ds, decodes, by simpa using found.1, fun inCodesets => ?_⟩
  have none : ds.mandatoryIes = [] := by
    have same : ds.found.mandatoryIes = _ := congrArg DecoderStatus.mandatoryIes inCodesets.1
    exact same.trans (by decide +kernel)
  rw [none] at found
  exact absurd found.2 (by decide)

end Vstuff.Q931
