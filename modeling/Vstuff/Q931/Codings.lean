import Mathlib.Data.List.TakeWhile
import Vstuff.Lib.Fields
import Vstuff.Q931.RoundTrip
import Vstuff.Q931.Targets

/-! Which elements come back as they were sent: what the `write_to_buf` of an element
writes, given to its `read_from_buf`. -/
namespace Vstuff.Q931
open Lapd (Octets IntfRole)
open Peek (cell)
open Fields
set_option linter.all false

/-! ## Bit fields -/

theorem toNat_pack {fields : List (Nat × Nat)} (fits : width fields ≤ 8) :
    (pack fields).toNat = packed fields := by
  have small : packed fields < 2 ^ 8 :=
    Nat.lt_of_lt_of_le (packed_lt fields) (Nat.pow_le_pow_right (by decide) fits)
  exact (UInt8.toNat_ofNat' ..).trans (Nat.mod_eq_of_lt small)

/-- A field of an octet is found where the fields behind it end. -/
theorem bits_pack (front : List (Nat × Nat)) (w v : Nat) (back : List (Nat × Nat))
    (fits : width (front ++ (w, v) :: back) ≤ 8) (small : v < 2 ^ w) :
    bits (pack (front ++ (w, v) :: back)) (width back) w = v := by
  rw [bits, toNat_pack fits, packed_field, Nat.mod_eq_of_lt small]

/-- The extension bit is the first field. -/
theorem ext_pack (b : Nat) (back : List (Nat × Nat)) (fits : width back = 7) (small : b < 2) :
    ext (pack ((1, b) :: back)) = (b == 1) := by
  have whole : width ([] ++ (1, b) :: back) ≤ 8 := by
    have wider : width ((1, b) :: back) = 1 + width back := by simp [width]
    rw [List.nil_append, wider]
    omega
  have here := bits_pack [] 1 b back whole small
  rw [List.nil_append, fits] at here
  rw [ext, here]

/-! ## What comes back -/

/-- Decoding what was encoded gives the same content, whatever follows in memory. -/
def RoundTrips (libc : Libc) (intf : Intf) (id : IeId) (content : Content) : Prop :=
  ∃ octets, (codecs libc intf).write id content = some octets ∧
    ∀ m, Holds m 0 octets → ((codecs libc intf).read id octets.length).value m = .accept content

section Elements
variable {libc : Libc} {intf : Intf}

/-- An element whose encoder does not fail comes back if its decoder gives it. -/
theorem roundTrips_iff {id : IeId} {content : Content} {octets : Octets}
    (written : writeToBuf libc content = some octets) :
    RoundTrips libc intf id content ↔ ∀ m, Holds m 0 octets →
      (readFromBuf libc intf id octets.length).value m = .accept content := by
  constructor
  · rintro ⟨octets', written', back⟩
    obtain rfl : octets' = octets := Option.some.inj (written'.symm.trans written)
    exact back
  · exact fun back => ⟨octets, written, back⟩

/-- If all that a decoder finds is the same, the content comes back or it does not. -/
theorem roundTrips_iff_eq {id : IeId} {content : Content} {octets : Octets} (found : Verdict Content)
    (written : writeToBuf libc content = some octets)
    (finds : ∀ m, Holds m 0 octets → (readFromBuf libc intf id octets.length).value m = found) :
    RoundTrips libc intf id content ↔ found = .accept content := by
  rw [roundTrips_iff written]
  constructor
  · intro back
    have holds := memory_holds octets fun _ => 0
    exact (finds _ holds).symm.trans (back _ holds)
  · intro same m holds
    exact (finds m holds).trans same

/-! ## Date and time -/

/-- The fields of a time, each in its range; the month need not have the day. -/
structure Tm.InRange (tm : Tm) : Prop where
  mon : tm.mon < 12
  mday : 1 ≤ tm.mday ∧ tm.mday ≤ 31
  hour : tm.hour < 24
  min : tm.min < 60
  sec : tm.sec ≤ 60

/-- `mktime` takes fields that name no local time, such as 29 February 1900 or an hour
skipped in spring, for one shortly after, which may be in the next year. -/
def Libc.Normalises (libc : Libc) : Prop :=
  ∀ tm : Tm, tm.InRange → (libc.localtime (libc.mktime tm)).year ≤ tm.year + 1

/-- A date and time comes back as one with the same fields. -/
def RestoresTime (libc : Libc) (intf : Intf) (time : Int) : Prop :=
  ∃ octets, (codecs libc intf).write .datetime (.datetime time) = some octets ∧
    ∀ m, Holds m 0 octets → ∃ back, ((codecs libc intf).read .datetime octets.length).value m =
      .accept (.datetime back) ∧ libc.localtime back = libc.localtime time

theorem readField_accepts {γ : Type} {i n : Nat} {low high default : UInt8}
    {next : Nat → Reader (Verdict γ)} {m : Nat → UInt8} (octet : m i = UInt8.ofNat n)
    (lower : low.toNat ≤ n) (upper : n ≤ high.toNat) :
    (readField true i low high default next).value m = (next n).value m := by
  have small : (m i).toNat = n := by
    have limit := high.toNat_lt
    rw [octet, UInt8.toNat_ofNat', Nat.mod_eq_of_lt (by omega)]
  have inside : low ≤ m i ∧ m i ≤ high := by
    rw [UInt8.le_iff_toNat_le, UInt8.le_iff_toNat_le, small]
    exact ⟨lower, upper⟩
  rw [readField, if_pos rfl, Peek.value_cell_bind, if_pos inside, small]

/-- What is left of a time on the way: the century is lost, and so are the minute and
the second, since six octets are fewer than the decoder wants for these. -/
def Tm.reduced (tm : Tm) : Tm := { tm with year := tm.year % 100, min := 0, sec := 0 }

theorem Tm.reduced_year (tm : Tm) : tm.reduced.year = tm.year % 100 := rfl

theorem Tm.InRange.reduced {tm : Tm} (range : tm.InRange) : tm.reduced.InRange :=
  ⟨range.mon, range.mday, range.hour, Nat.zero_lt_succ _, Nat.zero_le _⟩

theorem datetime_found {libc : Libc} {time : Int} (range : (libc.localtime time).InRange)
    {m : Nat → UInt8} (holds : Holds m 0 (writeDatetime libc time)) :
    (readDatetime libc (writeDatetime libc time).length).value m =
      .accept (libc.mktime (libc.localtime time).reduced) := by
  obtain ⟨mon, mday, hour, -, -⟩ := range
  have length : (writeDatetime libc time).length = 6 := rfl
  rw [writeDatetime] at holds
  rw [length, readDatetime, if_neg (by decide)]
  generalize libc.localtime time = tm at *
  have centuryless : tm.year % 100 ≤ 99 := by omega
  have hours : tm.hour ≤ 24 := by omega
  simp only [ge_iff_le, Nat.reduceLeDiff, decide_true, decide_false]
  refine Eq.trans (readField_accepts holds.head (Nat.zero_le _) centuryless) ?_
  refine Eq.trans (readField_accepts holds.tail.head (Nat.le_add_left ..) mon) ?_
  refine Eq.trans (readField_accepts holds.tail.tail.head mday.1 mday.2) ?_
  exact readField_accepts holds.tail.tail.tail.head (Nat.zero_le _) hours

theorem restoresTime_iff {libc : Libc} {intf : Intf} {time : Int} (range : (libc.localtime time).InRange) :
    RestoresTime libc intf time ↔
      libc.localtime (libc.mktime (libc.localtime time).reduced) = libc.localtime time := by
  have reads (m : Nat → UInt8) (holds : Holds m 0 (writeDatetime libc time)) :
      ((codecs libc intf).read .datetime (writeDatetime libc time).length).value m =
        .accept (.datetime (libc.mktime (libc.localtime time).reduced)) :=
    congrArg (Verdict.map Content.datetime) (datetime_found range holds)
  constructor
  · rintro ⟨octets, written, back⟩
    obtain rfl : writeDatetime libc time = octets := Option.some.inj written
    have holds := memory_holds (writeDatetime libc time) fun _ => 0
    obtain ⟨time', found, same⟩ := back _ holds
    have decoded := Content.datetime.inj (Verdict.accept.inj ((reads _ holds).symm.trans found))
    rwa [decoded]
  · intro same
    exact ⟨_, rfl, fun m holds => ⟨_, reads m holds, same⟩⟩

/-- No time of this century comes back. -/
theorem datetime_is_never_restored {libc : Libc} (normalises : libc.Normalises) (intf : Intf) {time : Int}
    (range : (libc.localtime time).InRange)
    (century : 100 ≤ (libc.localtime time).year ∧ (libc.localtime time).year < 200) :
    ¬RestoresTime libc intf time := by
  rw [restoresTime_iff range]
  intro same
  have early := normalises (libc.localtime time).reduced range.reduced
  rw [same, Tm.reduced_year] at early
  omega

/-- The days from 1900 to the first of January of a year after it. -/
def daysBefore (year : Nat) : Nat :=
  365 * year + ((1899 + year) / 4 - (1899 + year) / 100 + (1899 + year) / 400 - 460)

/-- The days from the first of January to the first of a month. -/
def daysBeforeMonth (year mon : Nat) : Nat :=
  [0, 31, 59, 90, 120, 151, 181, 212, 243, 273, 304, 334].getD mon 0 +
    if 2 ≤ mon ∧ daysBefore (year + 1) - daysBefore year = 366 then 1 else 0

/-- The year of a day, counted from 1900. -/
def yearOf (day : Nat) : Nat := Nat.findGreatest (fun year => daysBefore year ≤ day) (day / 365)

/-- The month of a day of a year. -/
def monthOf (year day : Nat) : Nat := Nat.findGreatest (fun mon => daysBeforeMonth year mon ≤ day) 11

/-- The fields of the seconds since 1900. -/
def fieldsOf (seconds : Nat) : Tm :=
  let year := yearOf (seconds / 86400)
  let day := seconds / 86400 - daysBefore year
  { year := year, mon := monthOf year day, mday := day - daysBeforeMonth year (monthOf year day) + 1,
    hour := seconds / 3600 % 24, min := seconds / 60 % 60, sec := seconds % 60 }

/-- The seconds since 1900. -/
def secondsOf (tm : Tm) : Nat :=
  (((daysBefore tm.year + daysBeforeMonth tm.year tm.mon + (tm.mday - 1)) * 24 + tm.hour) * 60 + tm.min) * 60 +
    tm.sec

/-- The C library in coordinated universal time. -/
def utc : Libc where
  mktime tm := secondsOf tm - 2208988800
  localtime time := fieldsOf (time + 2208988800).toNat

theorem yearOf_le {day year : Nat} (before : day < daysBefore (year + 2)) : yearOf day ≤ year + 1 := by
  by_contra! late
  have found : daysBefore (yearOf day) ≤ day :=
    Nat.findGreatest_of_ne_zero (m := yearOf day) rfl (by omega)
  have monotone : daysBefore (year + 2) ≤ daysBefore (yearOf day) := by
    unfold daysBefore
    omega
  omega

theorem utc_normalises : utc.Normalises := by
  intro tm ⟨monLt, mdayIn, hourLt, minLt, secLt⟩
  have month : daysBeforeMonth tm.year tm.mon ≤ 335 := by
    have table : ∀ mon < 12, [0, 31, 59, 90, 120, 151, 181, 212, 243, 273, 304, 334].getD mon 0 ≤ 334 := by
      decide
    have start := table tm.mon monLt
    rw [daysBeforeMonth]
    split <;> omega
  have later : daysBefore tm.year + 730 ≤ daysBefore (tm.year + 2) := by
    unfold daysBefore
    omega
  have seconds : (utc.mktime tm + 2208988800).toNat = secondsOf tm := by
    have back : utc.mktime tm + 2208988800 = secondsOf tm := Int.sub_add_cancel ..
    rw [back, Int.toNat_natCast]
  have day : secondsOf tm / 86400 < daysBefore (tm.year + 2) := by
    rw [secondsOf]
    omega
  have fields : utc.localtime (utc.mktime tm) = fieldsOf (secondsOf tm) := congrArg fieldsOf seconds
  rw [fields]
  exact yearOf_le day

/-- The first second of 2000 does not come back. -/
theorem millennium_is_not_restored : ¬RestoresTime utc ⟨.bra, .te, 2⟩ 946684800 := by
  have fields : utc.localtime 946684800 = { year := 100 } := by decide
  refine datetime_is_never_restored utc_normalises ⟨.bra, .te, 2⟩ ?_ ?_
  · rw [fields]
    exact ⟨by decide, by decide, by decide, by decide, by decide⟩
  · rw [fields]
    decide

/-- The last second of 2000 comes back as the last hour of 1900, on the hour. -/
theorem last_second_is_not_restored :
    ¬∀ time : Int, 946684800 ≤ time ∧ time < 4102444800 → RestoresTime utc ⟨.bra, .te, 2⟩ time := by
  intro restores
  have fields : utc.localtime 978307199 = ⟨100, 11, 31, 23, 59, 59⟩ := by decide
  have range : (utc.localtime 978307199).InRange := by
    rw [fields]
    exact ⟨by decide, by decide, by decide, by decide, by decide⟩
  have same := (restoresTime_iff range).mp (restores 978307199 (by decide))
  rw [fields] at same
  revert same
  decide

/-! ## Numbers -/

/-- A number whose fields are in range, with at most the digits its array holds
besides the terminator. -/
structure PartyNumber.InRange (ie : PartyNumber) : Prop where
  type : ie.typeOfNumber < 8
  plan : ie.numberingPlanIdentificator < 16
  presentation : ie.presentationIndicator < 4
  screening : ie.screeningIndicator < 4
  digits : 0 ∉ ie.number
  short : ie.number.length < numberSize

theorem PartyNumber.InRange.cString_number {ie : PartyNumber} (range : ie.InRange) :
    cString ie.number = ie.number := by
  refine List.takeWhile_eq_self_iff.mpr fun o member => bne_iff_ne.mpr ?_
  rintro rfl
  exact range.digits member

/-- The octets at some place are what a copy from there gives. -/
theorem Holds.memcpy {γ : Type} {m : Nat → UInt8} {start : Nat} {octets : Octets}
    (holds : Holds m start octets) (content : Octets → γ) :
    (memcpy start (start + octets.length) content).value m = .accept (content octets) := by
  have copied : (List.range octets.length).map (fun i => m (start + i)) = octets := by
    refine List.ext_getElem (by simp) fun i below _ => ?_
    simpa using holds i (by simpa using below)
  rw [Vstuff.Q931.memcpy, if_pos (Nat.le_add_right ..), Nat.add_sub_cancel_left]
  simp only [Peek.value_bind, Peek.value_block, Peek.value_pure, copied]

theorem calledPartyNumber_found {ie : PartyNumber} (range : ie.InRange) {m : Nat → UInt8}
    (holds : Holds m 0 (writeCalledPartyNumber ie)) :
    (readCalledPartyNumber (writeCalledPartyNumber ie).length).value m =
      .accept { ie with presentationIndicator := 0, screeningIndicator := 0 } := by
  rw [writeCalledPartyNumber, range.cString_number] at holds ⊢
  have type : bits (m 0) 4 3 = ie.typeOfNumber :=
    holds.head ▸ bits_pack [(1, 1)] 3 _ [(4, ie.numberingPlanIdentificator)] (by simp [width]) range.type
  have plan : bits (m 0) 0 4 = ie.numberingPlanIdentificator :=
    holds.head ▸ bits_pack [(1, 1), (3, ie.typeOfNumber)] 4 _ [] (by simp [width]) range.plan
  have digits := holds.tail.memcpy (fun number => ({
    typeOfNumber := bits (m 0) 4 3
    numberingPlanIdentificator := bits (m 0) 0 4
    number := number } : PartyNumber))
  rw [List.length_cons, Nat.add_comm, readCalledPartyNumber, if_neg (by omega), Peek.value_cell_bind]
  rw [digits, type, plan]

theorem numberWithIndicators_found {ie : PartyNumber} (range : ie.InRange) {m : Nat → UInt8}
    (holds : Holds m 0 (writeNumberWithIndicators ie)) :
    (readNumberWithIndicators (writeNumberWithIndicators ie).length).value m = .accept ie := by
  rw [writeNumberWithIndicators, range.cString_number] at holds ⊢
  have first := holds.head
  have second := holds.tail.head
  have extended : ext (m 0) = false := first ▸ ext_pack 0 _ (by simp [width]) (by decide)
  have type : bits (m 0) 4 3 = ie.typeOfNumber :=
    first ▸ bits_pack [(1, 0)] 3 _ [(4, ie.numberingPlanIdentificator)] (by simp [width]) range.type
  have plan : bits (m 0) 0 4 = ie.numberingPlanIdentificator :=
    first ▸ bits_pack [(1, 0), (3, ie.typeOfNumber)] 4 _ [] (by simp [width]) range.plan
  have presentation : bits (m 1) 5 2 = ie.presentationIndicator :=
    second ▸ bits_pack [(1, 1)] 2 _ [(3, 0), (2, ie.screeningIndicator)] (by simp [width]) range.presentation
  have screening : bits (m 1) 0 2 = ie.screeningIndicator :=
    second ▸ bits_pack [(1, 1), (2, ie.presentationIndicator), (3, 0)] 2 _ [] (by simp [width])
      range.screening
  have digits := holds.tail.tail.memcpy (fun number => ({
    typeOfNumber := bits (m 0) 4 3
    numberingPlanIdentificator := bits (m 0) 0 4
    presentationIndicator := bits (m 1) 5 2
    screeningIndicator := bits (m 1) 0 2
    number := number } : PartyNumber))
  rw [List.length_cons, List.length_cons, Nat.add_assoc, Nat.add_comm, readNumberWithIndicators,
    Peek.value_cell_bind, extended, if_neg Bool.false_ne_true, Peek.value_cell_bind]
  rw [digits, type, plan, presentation, screening]

/-! ## Causes -/

/-- A cause whose fields are in range, with the diagnostics its array holds. -/
structure Cause.InRange (ie : Cause) : Prop where
  standard : ie.codingStandard < 4
  location : ie.location < 16
  value : ie.value < 128
  short : ie.diagnostics.length ≤ 27

/-- A cause comes back without its location and its diagnostics. -/
theorem cause_found {ie : Cause} (range : ie.InRange) {m : Nat → UInt8}
    (holds : Holds m 0 (writeCause ie)) :
    (readCause (writeCause ie).length).value m =
      .accept { codingStandard := ie.codingStandard, value := ie.value } := by
  rw [writeCause] at holds ⊢
  have first := holds.head
  have second := holds.tail.head
  have last : ext (m 0) = true := first ▸ ext_pack 1 _ (by simp [width]) (by decide)
  have standard : bits (m 0) 5 2 = ie.codingStandard :=
    first ▸ bits_pack [(1, 1)] 2 _ [(1, 0), (4, ie.location)] (by simp [width]) range.standard
  have value : bits (m 1) 0 7 = ie.value :=
    second ▸ bits_pack [(1, 1)] 7 _ [] (by simp [width]) range.value
  rw [List.length_cons, List.length_cons, readCause, if_neg (by omega), Peek.value_cell_bind, if_pos last,
    Peek.value_cell_bind, standard, value]
  rfl

/-- A number or a cause as the library keeps it. A called number has no
presentation and no screening indicator. -/
inductive NumberOrCause : IeId → Content → Prop where
  | called {ie : PartyNumber} (range : ie.InRange) (presentation : ie.presentationIndicator = 0)
      (screening : ie.screeningIndicator = 0) : NumberOrCause .calledPartyNumber (.calledPartyNumber ie)
  | calling {ie : PartyNumber} (range : ie.InRange) :
      NumberOrCause .callingPartyNumber (.callingPartyNumber ie)
  | connected {ie : PartyNumber} (range : ie.InRange) :
      NumberOrCause .connectedNumber (.connectedNumber ie)
  | cause {ie : Cause} (range : ie.InRange) : NumberOrCause .cause (.cause ie)

/-- Numbers come back, and so do the causes that have nothing but a coding standard
and a value. -/
theorem number_or_cause_round_trips_iff (libc : Libc) (intf : Intf) {id : IeId} {content : Content}
    (given : NumberOrCause id content) :
    RoundTrips libc intf id content ↔
      ∀ ie, content = .cause ie → ie.location = 0 ∧ ie.diagnostics = [] := by
  cases given with
  | @called ie range presentation screening =>
    have same : { ie with presentationIndicator := 0, screeningIndicator := 0 } = ie := by
      cases ie
      cases presentation
      cases screening
      rfl
    refine iff_of_true ((roundTrips_iff rfl).mpr fun m holds => ?_) fun _ same => by cases same
    simp only [readFromBuf, readAs, Peek.value_bind, Peek.value_pure, calledPartyNumber_found range holds,
      same, Verdict.map]
  | @calling ie range =>
    refine iff_of_true ((roundTrips_iff rfl).mpr fun m holds => ?_) fun _ same => by cases same
    have long : ¬(writeNumberWithIndicators ie).length = 0 := by simp [writeNumberWithIndicators]
    simp only [readFromBuf, readAs, Peek.value_bind, Peek.value_pure, readCallingPartyNumber, if_neg long,
      numberWithIndicators_found range holds, Verdict.map]
  | @connected ie range =>
    refine iff_of_true ((roundTrips_iff rfl).mpr fun m holds => ?_) fun _ same => by cases same
    have long : ¬(writeNumberWithIndicators ie).length < 1 := by simp [writeNumberWithIndicators]
    simp only [readFromBuf, readAs, Peek.value_bind, Peek.value_pure, readConnectedNumber, if_neg long,
      numberWithIndicators_found range holds, Verdict.map]
  | @cause ie range =>
    rw [roundTrips_iff_eq (.accept (.cause { codingStandard := ie.codingStandard, value := ie.value }))
      rfl fun m holds => ?_]
    · constructor
      · intro same other equal
        cases equal
        have stripped := Content.cause.inj (Verdict.accept.inj same)
        exact ⟨(congrArg Cause.location stripped).symm, (congrArg Cause.diagnostics stripped).symm⟩
      · intro nothing
        obtain ⟨location, diagnostics⟩ := nothing ie rfl
        cases ie
        cases location
        cases diagnostics
        rfl
    · simp only [readFromBuf, readAs, Peek.value_bind, Peek.value_pure, cause_found range holds, Verdict.map]

/-- The number `12` comes back. -/
theorem called_number_round_trips :
    RoundTrips utc ⟨.bra, .te, 2⟩ .calledPartyNumber (.calledPartyNumber ⟨2, 1, 0, 0, [0x31, 0x32]⟩) :=
  (number_or_cause_round_trips_iff utc ⟨.bra, .te, 2⟩
    (.called ⟨by decide, by decide, by decide, by decide, by decide, by decide⟩ rfl rfl)).mpr nofun

/-- The location of a normal clearing by the local network is lost. -/
theorem location_is_lost :
    let ie : Cause := { codingStandard := 0, location := 2, value := 16 }
    NumberOrCause .cause (.cause ie) ∧ ¬RoundTrips utc ⟨.bra, .te, 2⟩ .cause (.cause ie) := by
  intro ie
  have range : ie.InRange := ⟨by decide, by decide, by decide, by decide⟩
  refine ⟨.cause range, fun back => ?_⟩
  have holds := memory_holds (writeCause ie) fun _ => 0
  have same := (roundTrips_iff rfl).mp back _ holds
  simp only [readFromBuf, readAs, Peek.value_bind, Peek.value_pure, cause_found range holds, Verdict.map] at same
  revert same
  decide

/-! ## Channel identification -/

/-- A channel identification of some channels of an interface: at most one on a basic
rate interface, neither any channel nor the D channel. -/
structure Intf.Identifies (intf : Intf) (ie : ChannelIdentification) : Prop where
  primary : ie.interfacePrimary = (intf.type == .pra)
  preferred : ie.preferredExclusive < 2
  dChannel : ie.dChannelIndicator = 0
  chosen : ie.anyChannel = false
  known : ∀ channel ∈ ie.chanset, channel < intf.nChannels
  distinct : ie.chanset.Nodup
  single : intf.type = .bra → ie.chanset.length ≤ 1

/-- The fields of the first octet. -/
theorem channelOctet3_bits {ie : ChannelIdentification} {primary selection : Nat}
    (preferred : ie.preferredExclusive < 2) (dChannel : ie.dChannelIndicator = 0) (type : primary < 2)
    (selected : selection < 4) :
    bits (channelOctet3 ie primary selection) 6 1 = 0 ∧
      bits (channelOctet3 ie primary selection) 5 1 = primary ∧
      bits (channelOctet3 ie primary selection) 3 1 = ie.preferredExclusive ∧
      bits (channelOctet3 ie primary selection) 2 1 = 0 ∧
      bits (channelOctet3 ie primary selection) 0 2 = selection := by
  rw [channelOctet3, dChannel]
  exact ⟨bits_pack [(1, 1)] 1 0 [(1, primary), (1, 0), (1, ie.preferredExclusive), (1, 0), (2, selection)]
      (by simp [width]) (by decide),
    bits_pack [(1, 1), (1, 0)] 1 primary [(1, 0), (1, ie.preferredExclusive), (1, 0), (2, selection)]
      (by simp [width]) type,
    bits_pack [(1, 1), (1, 0), (1, primary), (1, 0)] 1 _ [(1, 0), (2, selection)] (by simp [width]) preferred,
    bits_pack [(1, 1), (1, 0), (1, primary), (1, 0), (1, ie.preferredExclusive)] 1 0 [(2, selection)]
      (by simp [width]) (by decide),
    bits_pack [(1, 1), (1, 0), (1, primary), (1, 0), (1, ie.preferredExclusive), (1, 0)] 2 selection []
      (by simp [width]) selected⟩

/-- What a decoder leaves alone is as the channel identification had it. -/
theorem Intf.Identifies.restored {ie : ChannelIdentification} (identifies : intf.Identifies ie)
    (chanset : List Nat) :
    ({ interfacePrimary := ie.interfacePrimary, preferredExclusive := ie.preferredExclusive,
       chanset := chanset } : ChannelIdentification) = { ie with chanset := chanset } := by
  rw [← identifies.dChannel, ← identifies.chosen]

/-- The decoder of a basic rate interface, by the channel selection. -/
theorem readChannelIdentification_basic {ie : ChannelIdentification} {selection : Nat} {m : Nat → UInt8}
    (basic : intf.type = .bra) (identifies : intf.Identifies ie) (selected : selection < 3)
    (octet : m 0 = channelOctet3 ie 0 selection) :
    (readChannelIdentification intf 1).value m = .accept { ie with
      chanset := if selection = 1 then [0] else if selection = 2 then [1] else [] } := by
  obtain ⟨explicit, type, preference, notD, selects⟩ :=
    channelOctet3_bits identifies.preferred identifies.dChannel (by decide : 0 < 2) (by omega : selection < 4)
  have notPrimary : ie.interfacePrimary = false := by rw [identifies.primary, basic]; rfl
  rw [← octet] at explicit type preference notD selects
  rw [← identifies.restored, notPrimary]
  have cases : selection = 0 ∨ selection = 1 ∨ selection = 2 := by omega
  rcases cases with rfl | rfl | rfl <;>
    simp [readChannelIdentification, explicit, type, preference, notD, selects, basic]

/-- The loop over the octets 3d ends with the first one whose extension bit is set. -/
theorem readChannels_last (len turns : Nat) {n channel : Nat} {m : Nat → UInt8} (small : channel < 128)
    (octet : m n = pack [(1, 1), (7, channel)]) :
    (readChannels len (turns + 1) n []).value m = some [channel] := by
  have last : ext (m n) = true := octet ▸ ext_pack 1 _ (by simp [width]) (by decide)
  have number : bits (m n) 0 7 = channel := octet ▸ bits_pack [(1, 1)] 7 _ [] (by simp [width]) small
  simp [readChannels, last, number, chansetAdd, chansetMaxSize]

/-- The decoder of a primary rate interface: of indicated channels it takes the first. -/
theorem readChannelIdentification_primary {ie : ChannelIdentification} {m : Nat → UInt8}
    (primary : intf.type = .pra) (identifies : intf.Identifies ie)
    (small : ∀ channel ∈ ie.chanset, channel < 128) (holds : Holds m 0 (writeChannelIdentificationPra ie)) :
    (readChannelIdentification intf (writeChannelIdentificationPra ie).length).value m =
      .accept { ie with chanset := ie.chanset.take 1 } := by
  have fields (selection : Nat) (selected : selection < 4) :=
    channelOctet3_bits identifies.preferred identifies.dChannel (by decide : 1 < 2) selected
  have isPrimary : ie.interfacePrimary = true := by rw [identifies.primary, primary]; rfl
  rw [← identifies.restored, isPrimary]
  rw [writeChannelIdentificationPra, if_neg (by simp [identifies.chosen])] at holds ⊢
  cases chanset : ie.chanset with
  | nil =>
    rw [chanset, if_pos rfl] at holds
    obtain ⟨explicit, type, preference, notD, selects⟩ := fields 0 (by decide)
    rw [← holds.head] at explicit type preference notD selects
    have number : bits (m 1) 5 2 = 0 ∧ bits (m 1) 4 1 = 0 := by
      rw [holds.tail.head]
      decide
    simp [readChannelIdentification, readPrimaryChannels, explicit, type, preference, notD, selects, primary,
      number]
  | cons channel channels =>
    rw [chanset, if_neg (List.cons_ne_nil _ _)] at holds
    obtain ⟨explicit, type, preference, notD, selects⟩ := fields 1 (by decide)
    rw [← holds.head] at explicit type preference notD selects
    have number : bits (m 1) 5 2 = 0 ∧ bits (m 1) 4 1 = 0 := by
      rw [holds.tail.head]
      decide
    have long : ¬channels.length + 1 + 1 + 1 < 2 := by omega
    have first := readChannels_last (channels.length + 3) (channels.length + 2)
      (small channel (chanset ▸ List.mem_cons_self)) holds.tail.tail.head
    simp [readChannelIdentification, readPrimaryChannels, explicit, type, preference, notD, selects, primary,
      long, number, first]

/-- The octet of a channel identification of no channel or of one of two. -/
theorem writeChannelIdentification_basic (libc : Libc) {ie : ChannelIdentification} (basic : intf.type = .bra)
    (channels : intf.nChannels = 2) (identifies : intf.Identifies ie) :
    ∃ selection < 3, writeToBuf libc (.channelIdentification ie) = some [channelOctet3 ie 0 selection] ∧
      ie.chanset = if selection = 1 then [0] else if selection = 2 then [1] else [] := by
  have notPrimary : ie.interfacePrimary = false := by rw [identifies.primary, basic]; rfl
  have known := identifies.known
  have few := identifies.single basic
  rw [writeToBuf, writeChannelIdentification, if_neg (by simp [notPrimary]), writeChannelIdentificationBra,
    if_neg (by simp [identifies.chosen])]
  rcases chanset : ie.chanset with - | ⟨channel, - | ⟨second, rest⟩⟩
  · exact ⟨0, by decide, rfl, rfl⟩
  · have small : channel < 2 := channels ▸ known channel (chanset ▸ List.mem_cons_self)
    rcases (by omega : channel = 0 ∨ channel = 1) with rfl | rfl
    · exact ⟨1, by decide, rfl, rfl⟩
    · exact ⟨2, by decide, rfl, rfl⟩
  · simp [chanset] at few

/-- A channel identification comes back on a basic rate interface, and on a primary
rate interface if it has no more than one channel. -/
theorem channel_identification_round_trips_iff (libc : Libc) {intf : Intf} (opened : intf.opened)
    {ie : ChannelIdentification} (identifies : intf.Identifies ie) :
    RoundTrips libc intf .channelIdentification (.channelIdentification ie) ↔
      (intf.type = .pra → ie.chanset.length ≤ 1) := by
  rcases opened with ⟨basic, channels⟩ | ⟨primary, channels⟩
  · obtain ⟨selection, selected, written, chanset⟩ :=
      writeChannelIdentification_basic libc basic channels identifies
    refine iff_of_true ((roundTrips_iff written).mpr fun m holds => ?_) (by simp [basic])
    have found := readChannelIdentification_basic basic identifies selected holds.head
    rw [← chanset] at found
    simp only [readFromBuf, readAs, Peek.value_bind, Peek.value_pure, List.length_singleton, found,
      Verdict.map]
  · have small : ∀ channel ∈ ie.chanset, channel < 128 := by
      intro channel member
      have known := identifies.known channel member
      omega
    have isPrimary : ie.interfacePrimary = true := by rw [identifies.primary, primary]; rfl
    have written : writeToBuf libc (.channelIdentification ie) =
        some (writeChannelIdentificationPra ie) := by
      rw [writeToBuf, writeChannelIdentification, if_pos isPrimary]
    rw [roundTrips_iff_eq (.accept (.channelIdentification { ie with chanset := ie.chanset.take 1 })) written
      fun m holds => ?_]
    · rw [← List.take_eq_self_iff]
      constructor
      · intro same _
        have first := Content.channelIdentification.inj (Verdict.accept.inj same)
        exact congrArg ChannelIdentification.chanset first
      · intro one
        rw [one primary]
    · simp only [readFromBuf, readAs, Peek.value_bind, Peek.value_pure,
        readChannelIdentification_primary primary identifies small holds, Verdict.map]

/-- The thirtieth channel comes back. -/
theorem thirtieth_channel_round_trips :
    RoundTrips utc ⟨.pra, .nt, 30⟩ .channelIdentification
      (.channelIdentification ⟨true, 1, 0, false, [29]⟩) :=
  (channel_identification_round_trips_iff utc (by decide)
    ⟨by decide, by decide, rfl, rfl, by decide, by decide, by decide⟩).mpr fun _ => by decide

/-- Of two channels only the first comes back. -/
theorem second_channel_is_lost :
    let intf : Intf := ⟨.pra, .nt, 30⟩
    let ie : ChannelIdentification := ⟨true, 1, 0, false, [0, 1]⟩
    intf.opened ∧ intf.Identifies ie ∧
      ¬RoundTrips utc intf .channelIdentification (.channelIdentification ie) := by
  intro intf ie
  have identifies : intf.Identifies ie :=
    ⟨by decide, by decide, rfl, rfl, by decide, by decide, by decide⟩
  refine ⟨by decide, identifies, fun back => ?_⟩
  have holds := memory_holds (writeChannelIdentificationPra ie) fun _ => 0
  have same := (roundTrips_iff rfl).mp back _ holds
  have found := readChannelIdentification_primary rfl identifies (by decide) holds
  simp only [readFromBuf, readAs, Peek.value_bind, Peek.value_pure, found, Verdict.map] at same
  revert same
  decide

end Elements

end Vstuff.Q931
