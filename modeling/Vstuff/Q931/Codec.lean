import Vstuff.Q931.Ie
import Vstuff.Lib.Peek
import Mathlib.Algebra.GroupWithZero.Nat

/-! The `read_from_buf` and `write_to_buf` functions of the information elements
(`ie_*.c`). A decoder is given an address and a length, and may look at octets
behind that length; an encoder returns the octets it writes. Fields are the bit
fields of the on-wire structures. What a decoder leaves alone stays 0, as the
element was allocated. -/
namespace Vstuff.Q931
open Lapd (Octets IntfRole)
set_option linter.all false

/-- What becomes of a decoder: `TRUE` with the element filled in, `FALSE`, or a
failed assertion or a copy of negative length, which ends the program. -/
inductive Verdict (γ : Type) where
  | accept (content : γ)
  | reject
  | abort
  deriving DecidableEq, Repr

def Verdict.map {γ δ : Type} (f : γ → δ) : Verdict γ → Verdict δ
  | .accept content => .accept (f content)
  | .reject => .reject
  | .abort => .abort

abbrev Reader := Peek UInt8

open Peek (cell block touch)

/-- The bit field of `width` bits from bit `low` on. -/
def bits (o : UInt8) (low width : Nat) : Nat := o.toNat / 2 ^ low % 2 ^ width

/-- The extension bit of an octet: set on the last octet of a group. -/
def ext (o : UInt8) : Bool := bits o 7 1 == 1

/-- An octet from its bit fields, highest first: each with its width, cut to it. -/
def pack (fields : List (Nat × Nat)) : UInt8 :=
  UInt8.ofNat (fields.foldl (fun o field => o * 2 ^ field.1 + field.2 % 2 ^ field.1) 0)

/-- The characters of a C string. -/
def cString (text : Octets) : Octets := text.takeWhile (· != 0)

/-- `memcpy` of `len - from` octets; a negative length is a huge one. -/
def memcpy {γ : Type} (start len : Nat) (content : Octets → γ) : Reader (Verdict γ) :=
  if start ≤ len then do
    let octets ← block start (len - start)
    pure (.accept (content octets))
  else do
    touch (start + 2 ^ 64 - (start - len))
    pure .abort

/-! ## Short elements -/

/-- `q931_ie_call_identity_read_from_buf`. -/
def readCallIdentity (len : Nat) : Reader (Verdict Octets) :=
  if len < 1 ∨ len > 10 then pure .reject else memcpy 0 len id

/-- `struct q931_ie_call_state`. -/
structure CallState where
  codingStandard : Nat
  value : Nat
  deriving DecidableEq, Repr

/-- `q931_ie_call_state_read_from_buf`. -/
def readCallState (len : Nat) : Reader (Verdict CallState) :=
  if len < 1 then pure .reject
  else do
    let oct3 ← cell 0
    if bits oct3 6 2 ≠ 0 then pure .reject
    else pure (.accept { codingStandard := bits oct3 6 2, value := bits oct3 0 6 })

/-- `q931_ie_call_state_write_to_buf`. -/
def writeCallState (ie : CallState) : Octets := [pack [(2, ie.codingStandard), (6, ie.value)]]

/-- `q931_ie_display_read_from_buf`. -/
def readDisplay (len : Nat) : Reader (Verdict Octets) :=
  if len < 1 ∨ len > 82 then pure .reject else memcpy 0 len id

/-- `q931_ie_notification_indicator_read_from_buf`. -/
def readNotificationIndicator (len : Nat) : Reader (Verdict Nat) :=
  if len ≠ 1 then pure .reject
  else do
    let oct3 ← cell 0
    if ext oct3 then pure (.accept (bits oct3 0 7)) else pure .reject

/-- `q931_ie_notification_indicator_write_to_buf`. -/
def writeNotificationIndicator (description : Nat) : Octets := [pack [(1, 1), (7, description)]]

/-- `q931_ie_restart_indicator_read_from_buf`: indicated channels, a single
interface or all interfaces. -/
def readRestartIndicator (len : Nat) : Reader (Verdict Nat) :=
  if len < 1 then pure .reject
  else do
    let oct3 ← cell 0
    if ext oct3 ∧ bits oct3 0 3 ∈ [0, 6, 7] then pure (.accept (bits oct3 0 3)) else pure .reject

/-- `q931_ie_restart_indicator_write_to_buf`. -/
def writeRestartIndicator (restartClass : Nat) : Octets := [pack [(1, 1), (4, 0), (3, restartClass)]]

/-- `struct q931_ie_progress_indicator`. -/
structure ProgressIndicator where
  codingStandard : Nat
  location : Nat
  progressDescription : Nat
  deriving DecidableEq, Repr

/-- `q931_ie_progress_indicator_read_from_buf`. -/
def readProgressIndicator (len : Nat) : Reader (Verdict ProgressIndicator) :=
  if len < 2 then pure .reject
  else do
    let oct3 ← cell 0
    if ext oct3 then
      let oct4 ← cell 1
      if ext oct4 then
        pure (.accept {
          codingStandard := bits oct3 5 2
          location := bits oct3 0 4
          progressDescription := bits oct4 0 7 })
      else pure .reject
    else pure .reject

/-- `q931_ie_progress_indicator_write_to_buf`. The spare bit of the first octet
is not set: it is what the buffer held, which is 0. -/
def writeProgressIndicator (ie : ProgressIndicator) : Octets :=
  [pack [(1, 1), (2, ie.codingStandard), (1, 0), (4, ie.location)],
    pack [(1, 1), (7, ie.progressDescription)]]

/-! ## Date and time -/

/-- The fields of `struct tm` that are used. -/
structure Tm where
  year : Nat := 0
  mon : Nat := 0
  mday : Nat := 1
  hour : Nat := 0
  min : Nat := 0
  sec : Nat := 0
  deriving DecidableEq, Repr

/-- The functions of the C library. -/
structure Libc where
  mktime : Tm → Int
  localtime : Int → Tm

/-- A field that is looked at only when the element is long enough, and then
must lie between two values. -/
def readField {γ : Type} (present : Bool) (i : Nat) (low high default : UInt8)
    (next : Nat → Reader (Verdict γ)) : Reader (Verdict γ) :=
  if present then do
    let o ← cell i
    if low ≤ o ∧ o ≤ high then next o.toNat else pure .reject
  else next default.toNat

/-- `q931_ie_datetime_read_from_buf`. -/
def readDatetime (libc : Libc) (len : Nat) : Reader (Verdict Int) :=
  if len < 2 ∨ len > 8 then pure .reject
  else
    readField true 0 0 99 0 fun year =>
    readField (len ≥ 4) 1 1 12 1 fun month =>
    readField (len ≥ 5) 2 1 31 1 fun day =>
    readField (len ≥ 6) 3 0 24 0 fun hour =>
    readField (len ≥ 7) 4 0 59 0 fun minute =>
    readField (len ≥ 8) 5 0 61 0 fun second =>
      pure (.accept (libc.mktime {
        year := year, mon := month - 1, mday := day, hour := hour, min := minute, sec := second }))

/-- `q931_ie_datetime_write_to_buf`. -/
def writeDatetime (libc : Libc) (time : Int) : Octets :=
  let tm := libc.localtime time
  [tm.year % 100, tm.mon + 1, tm.mday, tm.hour, tm.min, tm.sec].map UInt8.ofNat

/-! ## Numbers -/

/-- `struct q931_ie_called_party_number`, `q931_ie_calling_party_number` and
`q931_ie_connected_number`; the first has no presentation and screening. -/
structure PartyNumber where
  typeOfNumber : Nat := 0
  numberingPlanIdentificator : Nat := 0
  presentationIndicator : Nat := 0
  screeningIndicator : Nat := 0
  number : Octets := []
  deriving DecidableEq, Repr

/-- `q931_ie_called_party_number_read_from_buf`. -/
def readCalledPartyNumber (len : Nat) : Reader (Verdict PartyNumber) :=
  if len < 1 then pure .reject
  else do
    let oct3 ← cell 0
    memcpy 1 len fun number => {
      typeOfNumber := bits oct3 4 3
      numberingPlanIdentificator := bits oct3 0 4
      number := number }

/-- `q931_ie_called_party_number_write_to_buf`. -/
def writeCalledPartyNumber (ie : PartyNumber) : Octets :=
  pack [(1, 1), (3, ie.typeOfNumber), (4, ie.numberingPlanIdentificator)] :: cString ie.number

/-- The part of the calling and of the connected number that is the same: an
octet 3a follows octet 3 unless its extension bit is set. -/
def readNumberWithIndicators (len : Nat) : Reader (Verdict PartyNumber) := do
  let oct3 ← cell 0
  if ext oct3 then
    memcpy 1 len fun number => {
      typeOfNumber := bits oct3 4 3
      numberingPlanIdentificator := bits oct3 0 4
      number := number }
  else
    let oct3a ← cell 1
    memcpy 2 len fun number => {
      typeOfNumber := bits oct3 4 3
      numberingPlanIdentificator := bits oct3 0 4
      presentationIndicator := bits oct3a 5 2
      screeningIndicator := bits oct3a 0 2
      number := number }

/-- `q931_ie_calling_party_number_read_from_buf`: an empty one is accepted. -/
def readCallingPartyNumber (len : Nat) : Reader (Verdict PartyNumber) :=
  if len = 0 then pure (.accept {}) else readNumberWithIndicators len

/-- `q931_ie_connected_number_read_from_buf`. -/
def readConnectedNumber (len : Nat) : Reader (Verdict PartyNumber) :=
  if len < 1 then pure .reject else readNumberWithIndicators len

/-- `q931_ie_calling_party_number_write_to_buf` and
`q931_ie_connected_number_write_to_buf`. -/
def writeNumberWithIndicators (ie : PartyNumber) : Octets :=
  pack [(1, 0), (3, ie.typeOfNumber), (4, ie.numberingPlanIdentificator)] ::
    pack [(1, 1), (2, ie.presentationIndicator), (3, 0), (2, ie.screeningIndicator)] ::
    cString ie.number

/-! ## Cause -/

/-- `struct q931_ie_cause`; `recommendation` is always `Q931_IE_C_R_Q931`. -/
structure Cause where
  codingStandard : Nat
  location : Nat := 0
  value : Nat
  diagnostics : Octets := []
  deriving DecidableEq, Repr

/-- `q931_ie_cause_read_from_buf`. The location and the diagnostics are not
read. -/
def readCause (len : Nat) : Reader (Verdict Cause) :=
  if len < 2 then pure .reject
  else do
    let oct3 ← cell 0
    if ext oct3 then
      let oct4 ← cell 1
      pure (.accept { codingStandard := bits oct3 5 2, value := bits oct4 0 7 })
    else
      let oct3a ← cell 1
      if ext oct3a ∧ bits oct3a 0 7 = 0 then
        let oct4 ← cell 2
        pure (.accept { codingStandard := bits oct3 5 2, value := bits oct4 0 7 })
      else pure .reject

/-- `q931_ie_cause_write_to_buf`. -/
def writeCause (ie : Cause) : Octets :=
  pack [(1, 1), (2, ie.codingStandard), (1, 0), (4, ie.location)] :: pack [(1, 1), (7, ie.value)] ::
    ie.diagnostics

end Vstuff.Q931
