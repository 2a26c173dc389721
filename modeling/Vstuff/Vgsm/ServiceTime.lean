import Vstuff.Vgsm.Comm
import Vstuff.Vgsm.Pdu

/-! The timestamps of the service centre: a local time and its zone, which is a number of quarters
of an hour. The decoders take it for seconds, so that no instant is the same in two zones. -/
namespace Vstuff.Vgsm
open Lapd (Octets)
set_option linter.all false

/-- The seconds of a date of the Gregorian calendar since the start of 1970. Years begin with March
here, and months may be any number. -/
def calendar (tm : Tm) : Int :=
  let months := (tm.year + 1900) * 12 + tm.mon - 2
  let year := months / 12
  let days := 365 * year + year / 4 - year / 100 + year / 400 + (153 * (months % 12) + 2) / 5 + tm.mday - 1 - 719468
  days * 86400 + tm.hour * 3600 + tm.min * 60 + tm.sec

/-- The start of 2020. -/
example : calendar ⟨120, 0, 1, 0, 0, 0⟩ = 1577836800 := by decide +kernel

/-- `mktime`, some seconds west of Greenwich. -/
def mktime (west : Int) (tm : Tm) : Int := calendar tm + west

/-- The local time of a timestamp. -/
def stampTime (pdu : Octets) (pos : Nat) : Tm where
  year := nibblesToDecimal (pdu.getD pos 0) + 100
  mon := nibblesToDecimal (pdu.getD (pos + 1) 0) - 1
  mday := nibblesToDecimal (pdu.getD (pos + 2) 0)
  hour := nibblesToDecimal (pdu.getD (pos + 3) 0)
  min := nibblesToDecimal (pdu.getD (pos + 4) 0)
  sec := nibblesToDecimal (pdu.getD (pos + 5) 0)

/-- The zone of a timestamp, in quarters of an hour, with its sign in bit 3. -/
def stampZone (pdu : Octets) (pos : Nat) : Int :=
  let zone := pdu.getD (pos + 6) 0
  let quarters : Int := zone.toNat % 8 * 10 + zone.toNat / 16
  if flag zone 3 then -quarters else quarters

/-- The instant a timestamp denotes. -/
def instant (pdu : Octets) (pos : Nat) : Int := calendar (stampTime pdu pos) - 900 * stampZone pdu pos

/-- Two timestamps of one instant in different zones. -/
def SameInstant (pdu : Octets) (pos : Nat) (other : Octets) (otherPos : Nat) : Prop :=
  instant pdu pos = instant other otherPos ∧ stampZone pdu pos ≠ stampZone other otherPos

/-- Where a PDU begins behind the address of the service centre. -/
def tpduPos (pdu : Octets) : Nat := (pdu.getD 0 0).toNat + 1

/-- What is behind an address. -/
def behindAddress (pdu : Octets) (pos : Nat) : Nat := pos + 2 + ((pdu.getD pos 0).toNat + 1) / 2

/-- Where the timestamp of a short message is: behind the originating address, the protocol
identifier and the data coding scheme. -/
def deliverStampPos (pdu : Octets) : Nat := behindAddress pdu (tpduPos pdu + 1) + 2

/-- Where the first timestamp of a status report is; the second follows. -/
def reportStampPos (pdu : Octets) : Nat := behindAddress pdu (tpduPos pdu + 2)

/-! ## What is decoded -/

theorem octetAt_getD {pdu : Octets} {pos : Nat} {octet : UInt8} (read : octetAt pdu pos = .ok octet) :
    pdu.getD pos 0 = octet := by
  unfold octetAt at read
  split at read
  · next found =>
    cases read
    rw [List.getD_eq_getElem?_getD, found]
    rfl
  · cases read

/-- A timestamp is off its local time by some seconds, which are far less than a quarter of an hour. -/
theorem timestamp_near {pdu : Octets} {pos : Nat} {west time timezone : Int}
    (read : timestamp (mktime west) pdu pos = .ok (time, timezone)) :
    time = calendar (stampTime pdu pos) + west - timezone ∧ -157 ≤ timezone ∧ timezone ≤ 157 := by
  unfold timestamp at read
  obtain ⟨year, isYear, read⟩ := Transition.bind_ok read
  obtain ⟨mon, isMon, read⟩ := Transition.bind_ok read
  obtain ⟨mday, isMday, read⟩ := Transition.bind_ok read
  obtain ⟨hour, isHour, read⟩ := Transition.bind_ok read
  obtain ⟨min, isMin, read⟩ := Transition.bind_ok read
  obtain ⟨sec, isSec, read⟩ := Transition.bind_ok read
  dsimp only at read
  split at read
  · cases read
  obtain ⟨zone, -, read⟩ := Transition.bind_ok read
  cases read
  have same : stampTime pdu pos = {
      year := nibblesToDecimal year + 100
      mon := nibblesToDecimal mon - 1
      mday := nibblesToDecimal mday
      hour := nibblesToDecimal hour
      min := nibblesToDecimal min
      sec := nibblesToDecimal sec } := by
    unfold stampTime
    rw [octetAt_getD isYear, octetAt_getD isMon, octetAt_getD isMday, octetAt_getD isHour, octetAt_getD isMin,
      octetAt_getD isSec]
  have small := (zone &&& 0x7f).toNat_lt
  have low : (zone &&& 0x7f).toNat < 128 := by
    rw [UInt8.toNat_and]
    exact Nat.and_lt_two_pow _ (by decide : (0x7f : UInt8).toNat < 2 ^ 7)
  have bound : nibblesToDecimal (zone &&& 0x7f) ≤ 157 := by
    unfold nibblesToDecimal
    omega
  rw [same]
  refine ⟨rfl, ?_⟩
  split <;> omega

/-- Timestamps of one instant that are decoded differ if their zones do. -/
theorem timestamps_differ {pdu other : Octets} {pos otherPos : Nat} {west time timezone time' timezone' : Int}
    (read : timestamp (mktime west) pdu pos = .ok (time, timezone))
    (read' : timestamp (mktime west) other otherPos = .ok (time', timezone'))
    (same : SameInstant pdu pos other otherPos) : time ≠ time' := by
  obtain ⟨isTime, least, most⟩ := timestamp_near read
  obtain ⟨isTime', least', most'⟩ := timestamp_near read'
  obtain ⟨instants, zones⟩ := same
  unfold instant at instants
  intro equal
  -- a difference of zones is worth at least 900 seconds
  omega

theorem serviceCentre_pos {pdu : Octets} {smcc : Number} {pos : Nat} (read : serviceCentre pdu = .ok (smcc, pos)) :
    pos = tpduPos pdu := by
  unfold serviceCentre at read
  obtain ⟨smccLen, isLen, read⟩ := Transition.bind_ok read
  split at read
  · cases read
  split at read
  · cases read
  obtain ⟨number, -, read⟩ := Transition.bind_ok read
  cases read
  unfold tpduPos
  rw [octetAt_getD isLen]

theorem address_pos {pdu : Octets} {pos behind : Nat} {number : Number} (read : address pdu pos = .ok (number, behind)) :
    behind = behindAddress pdu pos := by
  unfold address at read
  obtain ⟨len, isLen, read⟩ := Transition.bind_ok read
  obtain ⟨digits, -, read⟩ := Transition.bind_ok read
  cases read
  unfold behindAddress
  rw [octetAt_getD isLen]

/-- The timestamp of a short message is read at its place. -/
theorem deliver_timestamp {mktime : Tm → Int} {textPdu : Octets} {sms : SmsDeliver}
    (decoded : smsDeliverInitFromPdu mktime textPdu = .ok sms) :
    timestamp mktime (hexOctets textPdu) (deliverStampPos (hexOctets textPdu)) = .ok (sms.timestamp, sms.timezone) := by
  unfold smsDeliverInitFromPdu at decoded
  split at decoded
  · cases decoded
  obtain ⟨⟨smcc, pos⟩, isSmcc, decoded⟩ := Transition.bind_ok decoded
  obtain ⟨sdp, -, decoded⟩ := Transition.bind_ok decoded
  obtain ⟨⟨originating, pos'⟩, isAddress, decoded⟩ := Transition.bind_ok decoded
  obtain ⟨⟨time, timezone⟩, isTime, decoded⟩ := Transition.bind_ok decoded
  obtain ⟨⟨concatenation, content⟩, -, decoded⟩ := Transition.bind_ok decoded
  cases decoded
  obtain rfl := serviceCentre_pos isSmcc
  obtain rfl := address_pos isAddress
  exact isTime

/-- So are the two of a status report. -/
theorem report_timestamps {mktime : Tm → Int} {textPdu : Octets} {report : SmsStatusReport}
    (decoded : smsStatusReportInitFromPdu mktime textPdu = .ok report) :
    timestamp mktime (hexOctets textPdu) (reportStampPos (hexOctets textPdu)) =
        .ok (report.smccTimestamp, report.smccTimestampTz) ∧
      timestamp mktime (hexOctets textPdu) (reportStampPos (hexOctets textPdu) + 7) =
        .ok (report.dischargeTime, report.dischargeTimeTz) := by
  unfold smsStatusReportInitFromPdu at decoded
  split at decoded
  · cases decoded
  obtain ⟨⟨smcc, pos⟩, isSmcc, decoded⟩ := Transition.bind_ok decoded
  obtain ⟨sdp, -, decoded⟩ := Transition.bind_ok decoded
  obtain ⟨reference, -, decoded⟩ := Transition.bind_ok decoded
  obtain ⟨⟨recipient, pos'⟩, isAddress, decoded⟩ := Transition.bind_ok decoded
  obtain ⟨⟨time, timezone⟩, isTime, decoded⟩ := Transition.bind_ok decoded
  obtain ⟨⟨discharge, dischargeTz⟩, isDischarge, decoded⟩ := Transition.bind_ok decoded
  obtain ⟨status, -, decoded⟩ := Transition.bind_ok decoded
  obtain ⟨⟨indicator, content⟩, -, decoded⟩ := Transition.bind_ok decoded
  cases decoded
  obtain rfl := serviceCentre_pos isSmcc
  obtain rfl := address_pos isAddress
  exact ⟨isTime, isDischarge⟩

/-- Two PDUs never give the same timestamp for one instant in different zones. -/
theorem never_zone_independent (west : Int) (pdu other : Octets) :
    (∀ sms sms', smsDeliverInitFromPdu (mktime west) pdu = .ok sms → smsDeliverInitFromPdu (mktime west) other = .ok sms' →
      SameInstant (hexOctets pdu) (deliverStampPos (hexOctets pdu)) (hexOctets other) (deliverStampPos (hexOctets other)) →
      sms.timestamp ≠ sms'.timestamp) ∧
    ∀ report report', smsStatusReportInitFromPdu (mktime west) pdu = .ok report →
      smsStatusReportInitFromPdu (mktime west) other = .ok report' →
      (SameInstant (hexOctets pdu) (reportStampPos (hexOctets pdu)) (hexOctets other) (reportStampPos (hexOctets other)) →
        report.smccTimestamp ≠ report'.smccTimestamp) ∧
      (SameInstant (hexOctets pdu) (reportStampPos (hexOctets pdu) + 7) (hexOctets other)
          (reportStampPos (hexOctets other) + 7) →
        report.dischargeTime ≠ report'.dischargeTime) := by
  refine ⟨fun sms sms' decoded decoded' same => ?_, fun report report' decoded decoded' => ⟨fun same => ?_, fun same => ?_⟩⟩
  · exact timestamps_differ (deliver_timestamp decoded) (deliver_timestamp decoded') same
  · exact timestamps_differ (report_timestamps decoded).1 (report_timestamps decoded').1 same
  · exact timestamps_differ (report_timestamps decoded).2 (report_timestamps decoded').2 same

/-- The start of 2020 in Greenwich. -/
def newYear : Octets := [0x02, 0x10, 0x10, 0, 0, 0, 0]

/-- The same instant one hour further east. -/
def newYearEast : Octets := [0x02, 0x10, 0x10, 0x10, 0, 0, 0x40]

/-- An empty message without an originating address. -/
def emptyDeliver (stamp : Octets) : Octets := hexText ([1, 0x91, 0, 0, 0x91, 0, 0] ++ stamp ++ [0])

/-- A status report without a recipient address, of a message discharged at once. -/
def emptyReport (stamp : Octets) : Octets := hexText ([1, 0x91, 2, 0, 0, 0x91] ++ stamp ++ stamp ++ [0])

theorem isOk_iff {α : Type} {r : Except Stop α} : r.isOk = true ↔ ∃ a, r = .ok a := by
  cases r with
  | ok a => exact iff_of_true rfl ⟨a, rfl⟩
  | error stop => exact iff_of_false Bool.false_ne_true nofun

/-- The two reports of the new year differ in both times. -/
theorem reports_differ : ∃ report report', smsStatusReportInitFromPdu (mktime 0) (emptyReport newYear) = .ok report ∧
    smsStatusReportInitFromPdu (mktime 0) (emptyReport newYearEast) = .ok report' ∧
    report.smccTimestamp ≠ report'.smccTimestamp ∧ report.dischargeTime ≠ report'.dischargeTime := by
  obtain ⟨report, decoded⟩ := isOk_iff.mp
    (by decide +kernel : (smsStatusReportInitFromPdu (mktime 0) (emptyReport newYear)).isOk = true)
  obtain ⟨report', decoded'⟩ := isOk_iff.mp
    (by decide +kernel : (smsStatusReportInitFromPdu (mktime 0) (emptyReport newYearEast)).isOk = true)
  obtain ⟨first, second⟩ :=
    (never_zone_independent 0 (emptyReport newYear) (emptyReport newYearEast)).2 report report' decoded decoded'
  exact ⟨report, report', decoded, decoded', first ⟨by decide +kernel, by decide +kernel⟩,
    second ⟨by decide +kernel, by decide +kernel⟩⟩

/-- The two messages of the new year are taken for messages of different times. -/
theorem new_year_comes_twice : ∃ sms sms', smsDeliverInitFromPdu (mktime 0) (emptyDeliver newYear) = .ok sms ∧
    smsDeliverInitFromPdu (mktime 0) (emptyDeliver newYearEast) = .ok sms' ∧
    SameInstant (hexOctets (emptyDeliver newYear)) (deliverStampPos (hexOctets (emptyDeliver newYear)))
      (hexOctets (emptyDeliver newYearEast)) (deliverStampPos (hexOctets (emptyDeliver newYearEast))) ∧
    sms.timestamp ≠ sms'.timestamp := by
  obtain ⟨sms, decoded⟩ := isOk_iff.mp
    (by decide +kernel : (smsDeliverInitFromPdu (mktime 0) (emptyDeliver newYear)).isOk = true)
  obtain ⟨sms', decoded'⟩ := isOk_iff.mp
    (by decide +kernel : (smsDeliverInitFromPdu (mktime 0) (emptyDeliver newYearEast)).isOk = true)
  have same : SameInstant (hexOctets (emptyDeliver newYear)) (deliverStampPos (hexOctets (emptyDeliver newYear)))
      (hexOctets (emptyDeliver newYearEast)) (deliverStampPos (hexOctets (emptyDeliver newYearEast))) :=
    ⟨by decide +kernel, by decide +kernel⟩
  exact ⟨sms, sms', decoded, decoded', same,
    timestamps_differ (deliver_timestamp decoded) (deliver_timestamp decoded') same⟩

end Vstuff.Vgsm
