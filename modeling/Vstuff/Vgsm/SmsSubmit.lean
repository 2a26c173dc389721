import Vstuff.Vgsm.Pdu

/-! The PDU of a short message to be sent (`chan_vgsm/sms_submit.c`). -/
namespace Vstuff.Vgsm
open Lapd (Octets)
set_option linter.all false

/-- VGSM_SMS_DCS_ALPHABET_DEFAULT -/
def alphabetDefault : Nat := 0

/-- VGSM_SMS_DCS_ALPHABET_UCS2 -/
def alphabetUcs2 : Nat := 2

/-- `vgsm_char_to_bcd`. -/
def charToBcd (c : UInt8) : UInt8 :=
  if c = 42 then 0xa
  else if c = 35 then 0xb
  else if 97 ≤ c ∧ c ≤ 100 then c - 85
  else c - 48

/-- `vgsm_text_to_bcd`. -/
def textToBcd : Octets → Octets
  | [] => []
  | [digit] => [charToBcd digit ||| 0xf0]
  | low :: high :: rest => (charToBcd low ||| charToBcd high <<< 4) :: textToBcd rest

/-- A number whose digits fit in their array. -/
structure Address where
  digits : Octets
  np : Nat
  ton : Nat
  fits : digits.length < digitsSize
  deriving DecidableEq, Repr

/-- `struct vgsm_sms_submit` as `vgsm_sms_submit_prepare` finds it. -/
structure SmsSubmit where
  smccAddress : Address
  rejectDuplicates : Bool
  replyPath : Bool
  userDataHeaderIndicator : Bool
  statusReportRequest : Bool
  messageReference : UInt8
  dest : Address
  validityPeriod : Int
  messageClass : Int
  concatenation : Concatenation
  text : List Nat
  deriving DecidableEq, Repr

namespace SmsSubmit

/-- Every character of the text is in the alphabet of GSM. -/
def translatable (sms : SmsSubmit) : Bool := sms.text.all fun wc => wcToGsm wc ≠ []

def alphabet (sms : SmsSubmit) : Nat := if sms.translatable then alphabetDefault else alphabetUcs2

/-- A message of several gets a header, if it does not have one anyway. -/
def header (sms : SmsSubmit) : Bool := sms.userDataHeaderIndicator || decide (sms.concatenation.maxmsg > 1)

/-- The octets of an address behind its length. -/
def addressOctets (address : Address) : Octets :=
  UInt8.ofNat (address.np % 16 + 16 * (address.ton % 8) + 128) :: textToBcd address.digits

def smccOctets (sms : SmsSubmit) : Octets :=
  UInt8.ofNat ((sms.smccAddress.digits.length + 1) / 2 + 1) :: addressOctets sms.smccAddress

/-- The first octet of an SMS-SUBMIT, with a relative validity period. -/
def firstOctet (sms : SmsSubmit) : UInt8 :=
  UInt8.ofNat (1 + 4 * sms.rejectDuplicates.toNat + 8 * 2 + 32 * sms.statusReportRequest.toNat +
    64 * sms.header.toNat + 128 * sms.replyPath.toNat)

def dcs (sms : SmsSubmit) : UInt8 := UInt8.ofNat ((sms.messageClass % 4).toNat + 4 * sms.alphabet + 16)

/-- The validity period, in the units of its relative format. -/
def validity (sms : SmsSubmit) : UInt8 :=
  let period := sms.validityPeriod
  if period < 300 then 1
  else if period ≤ 43200 then UInt8.ofNat (period / 300 - 1).toNat
  else if period ≤ 86400 then UInt8.ofNat (period / 1800 - 24 + 144).toNat
  else if period ≤ 30 * 86400 then UInt8.ofNat (period / 86400 - 1 + 168).toNat
  else if period ≤ 63 * 7 * 86400 then UInt8.ofNat (period / (7 * 86400) - 1 + 197).toNat
  else 0xff

/-- What is written in front of the length of the user data. -/
def front (sms : SmsSubmit) : Octets :=
  sms.smccOctets ++ [sms.firstOctet, sms.messageReference, UInt8.ofNat sms.dest.digits.length] ++
    addressOctets sms.dest ++ [0, sms.dcs, sms.validity]

/-- The user data header. -/
def udh (sms : SmsSubmit) : Octets :=
  if sms.header then
    [5, concatenatedSms, 3, sms.concatenation.refnum, sms.concatenation.maxmsg, sms.concatenation.seqnum]
  else []

/-- `max_len`. -/
def maxLen (sms : SmsSubmit) : Nat := 2 + (sms.smccAddress.digits.length + 1) / 2 + 160

end SmsSubmit

/-- `iconv` from WCHAR_T to UCS-2BE: it stops at a character for which there is no room or that is
too large. Its result is compared with 0 as a number without sign, which never shows an error. -/
def iconvUcs2be : Nat → List Nat → Octets
  | room + 2, wc :: rest =>
    if wc < 65536 then UInt8.ofNat (wc / 256) :: UInt8.ofNat wc :: iconvUcs2be room rest else []
  | _, _ => []

/-- What `vgsm_sms_submit_prepare` leaves: the PDU, its length without the service centre, and the
fields it has set. -/
structure Prepared where
  pdu : Octets
  pduTpLen : Nat
  alphabet : Nat
  userDataHeaderIndicator : Bool
  deriving DecidableEq, Repr

/-- `vgsm_sms_submit_prepare`. -/
def smsSubmitPrepare (sms : SmsSubmit) : Except Stop Prepared := do
  let room := sms.maxLen - (sms.front.length + 1)
  let udhLen := sms.udh.length
  if room < udhLen + 1 then .error .undefined
  else
    let ready (tpUdl : Nat) (data : Octets) : Prepared := {
      pdu := sms.front ++ UInt8.ofNat tpUdl :: data
      pduTpLen := sms.front.length + 1 + data.length - sms.smccOctets.length
      alphabet := sms.alphabet
      userDataHeaderIndicator := sms.header }
    if sms.translatable then
      let udhLenSeptets := octetsToSeptets udhLen
      let (usedSeptets, out) ← wcTo7bit (160 - udhLenSeptets) udhLenSeptets sms.text 0
        (sms.udh ++ List.replicate (room - udhLen) 0)
      let octets := septetsToOctets (udhLenSeptets + usedSeptets)
      -- the length is asserted at the end
      if octets > room then .error .undefined
      else return ready (udhLenSeptets + usedSeptets) (out.take octets)
    else
      let written := iconvUcs2be (room - udhLen - 1) sms.text
      return ready (udhLen + written.length) (sms.udh ++ written)

end Vstuff.Vgsm
