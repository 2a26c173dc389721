import Vstuff.Vgsm.Alphabet

/-! The decoders of the PDUs a GSM module hands over as text: short messages
(`chan_vgsm/sms_deliver.c`), status reports (`chan_vgsm/sms_status_report.c`) and cell broadcast
messages (`chan_vgsm/cbm.c`). Memory for a text of negative length is undefined here, whatever
`malloc` would make of it. -/
namespace Vstuff.Vgsm
open Lapd (Octets)
set_option linter.all false

/-! ## Parts that the PDUs share -/

/-- `char_to_hexdigit`, as what is left of it in an octet. -/
def charToHexdigit (c : UInt8) : UInt8 :=
  if 48 ≤ c ∧ c ≤ 57 then c - 48
  else if 97 ≤ c ∧ c ≤ 102 then c - 87
  else if 65 ≤ c ∧ c ≤ 70 then c - 55
  else 0xff

/-- The octets of a PDU that comes as text. -/
def hexOctets : Octets → Octets
  | high :: low :: rest => (charToHexdigit high <<< 4 ||| charToHexdigit low) :: hexOctets rest
  | _ => []

/-- A bit of a bit field. -/
def flag (octet : UInt8) (bit : Nat) : Bool := octet.toNat.testBit bit

/-- `vgsm_nibbles_to_decimal`. -/
def nibblesToDecimal (val : UInt8) : Nat := val.toNat % 16 * 10 + val.toNat / 16

/-- `vgsm_bcd_to_char`. -/
def bcdToChar (bcd : Nat) : UInt8 :=
  if bcd = 0xa then 42
  else if bcd = 0xb then 35
  else if 0xc ≤ bcd then UInt8.ofNat (bcd + 85)
  else UInt8.ofNat (48 + bcd)

/-- `vgsm_bcd_to_text` with some nibbles left, the first of them the `i`-th. -/
def bcdToText (pdu : Octets) (pos strLen : Nat) : Nat → Nat → Octets → Except Stop Octets
  | 0, _, str => .ok str
  | left + 1, i, str => do
    let octet ← octetAt pdu (pos + i / 2)
    let bcd := if i % 2 ≠ 0 then octet.toNat / 16 else octet.toNat % 16
    if bcd ≠ 0xf then
      if str.length ≥ strLen - 1 then .error .refused
      else bcdToText pdu pos strLen left (i + 1) (str ++ [bcdToChar bcd])
    else bcdToText pdu pos strLen left (i + 1) str

/-- `struct vgsm_number`. -/
structure Number where
  digits : Octets
  np : Nat
  ton : Nat
  deriving DecidableEq, Repr

/-- `sizeof(number->digits)`. -/
def digitsSize : Nat := 32

/-- An address whose type is at a place of the PDU and whose digits follow. -/
def number (pdu : Octets) (pos nibbles : Nat) : Except Stop Number := do
  let toa ← octetAt pdu pos
  let digits ← bcdToText pdu (pos + 1) digitsSize nibbles 0 []
  return { digits, np := toa.toNat % 16, ton := toa.toNat / 16 % 8 }

/-- The address of the service centre, and where the rest of the PDU begins. Without any digits
that is where the type of the address was looked for. -/
def serviceCentre (pdu : Octets) : Except Stop (Number × Nat) := do
  let smccLen ← octetAt pdu 0
  if smccLen.toNat > pdu.length - 1 then .error .refused
  else if smccLen.toNat > digitsSize - 1 then .error .refused
  else
    let smcc ← number pdu 1 ((smccLen.toNat - 1) * 2)
    return (smcc, smccLen.toNat + 1)

/-- An address that begins with the number of its digits, and what is behind it. -/
def address (pdu : Octets) (pos : Nat) : Except Stop (Number × Nat) := do
  let len ← octetAt pdu pos
  let number ← number pdu (pos + 1) len.toNat
  return (number, pos + 2 + (len.toNat + 1) / 2)

/-- `struct tm`, as far as it is filled in. -/
structure Tm where
  year : Int
  mon : Int
  mday : Int
  hour : Int
  min : Int
  sec : Int
  deriving DecidableEq, Repr

/-- A timestamp and its time zone. `mktime` knows which dates there are. -/
def timestamp (mktime : Tm → Int) (pdu : Octets) (pos : Nat) : Except Stop (Int × Int) := do
  let year ← octetAt pdu pos
  let mon ← octetAt pdu (pos + 1)
  let mday ← octetAt pdu (pos + 2)
  let hour ← octetAt pdu (pos + 3)
  let min ← octetAt pdu (pos + 4)
  let sec ← octetAt pdu (pos + 5)
  let time := mktime {
    year := nibblesToDecimal year + 100
    mon := nibblesToDecimal mon - 1
    mday := nibblesToDecimal mday
    hour := nibblesToDecimal hour
    min := nibblesToDecimal min
    sec := nibblesToDecimal sec }
  if time = -1 then .error .refused
  else
    let zone ← octetAt pdu (pos + 6)
    let offset : Int := nibblesToDecimal (zone &&& 0x7f)
    let timezone := if flag zone 7 then offset else -offset
    return (time - timezone, timezone)

/-! ## Texts -/

/-- A text in septets, of which a header may have taken some. -/
def septetText (pdu : Octets) (pos septets taken : Nat) : Except Stop (List Nat) :=
  if septets < taken then .error .undefined
  else sevenBitToWc (pdu.drop pos) (septets - taken) taken (septets - taken + 1)

/-- A text in UCS-2. -/
def ucs2Text (pdu : Octets) (pos count : Nat) : Except Stop (List Nat) :=
  (List.range count).mapM fun i => do
    let high ← octetAt pdu (pos + i * 2)
    let low ← octetAt pdu (pos + i * 2 + 1)
    return high.toNat * 256 + low.toNat

/-- What the user data of a message gives. -/
structure Content where
  codingGroup : Nat
  compressed : Bool
  messageClass : Int
  alphabet : Nat
  text : Option (List Nat)
  deriving DecidableEq, Repr

/-- `tp_udl` septets or octets of user data, behind a header of as many octets and septets. -/
def content (pdu : Octets) (pos : Nat) (dcs : UInt8) (tpUdl udhl udhlSeptets : Nat) : Except Stop Content := do
  let codingGroup := dcs.toNat / 16
  if codingGroup ≤ 3 then
    let alphabet := dcs.toNat / 4 % 4
    let messageClass := if flag dcs 4 then (dcs.toNat % 4 : Int) else -1
    if flag dcs 5 then .error .refused
    else if alphabet = 0 then
      let text ← septetText pdu pos tpUdl udhlSeptets
      return { codingGroup, compressed := false, messageClass, alphabet, text := some text }
    else if alphabet = 2 then
      -- an odd octet is rounded to zero from below as well
      if tpUdl + 1 < udhl then .error .undefined
      else
        let text ← ucs2Text pdu pos ((tpUdl - udhl) / 2)
        return { codingGroup, compressed := false, messageClass, alphabet, text := some text }
    else return { codingGroup, compressed := false, messageClass, alphabet, text := none }
  else if codingGroup = 0xc ∨ codingGroup = 0xe then
    return { codingGroup, compressed := false, messageClass := -1, alphabet := 0, text := none }
  else if codingGroup = 0xf then
    if flag dcs 2 then
      return { codingGroup, compressed := false, messageClass := -1, alphabet := 0, text := none }
    else
      let text ← septetText pdu pos tpUdl udhlSeptets
      return { codingGroup, compressed := false, messageClass := -1, alphabet := 0, text := some text }
  else .error .refused

/-! ## Short messages -/

/-- `udh_concatenate_refnum`, `udh_concatenate_maxmsg` and `udh_concatenate_seqnum`. -/
structure Concatenation where
  refnum : UInt8
  maxmsg : UInt8
  seqnum : UInt8
  deriving DecidableEq, Repr

/-- The fields of a message without a header, as they are allocated. -/
def Concatenation.unset : Concatenation := ⟨0, 0, 0⟩

/-- VGSM_SMS_UDH_IEI_CONCATENATED_SMS -/
def concatenatedSms : UInt8 := 0

/-- The loop over the elements of the user data header. -/
def headerElements (pdu : Octets) (stop udhPos : Nat) (concatenation : Concatenation) : Except Stop Concatenation := do
  if udhPos < stop then
    let ieiId ← octetAt pdu udhPos
    let ieiLen ← octetAt pdu (udhPos + 1)
    if ieiId = concatenatedSms ∧ ieiLen ≥ 3 then
      let refnum ← octetAt pdu (udhPos + 2)
      let maxmsg ← octetAt pdu (udhPos + 3)
      let seqnum ← octetAt pdu (udhPos + 4)
      headerElements pdu stop (udhPos + 2 + ieiLen.toNat) { refnum, maxmsg, seqnum }
    else headerElements pdu stop (udhPos + 2 + ieiLen.toNat) concatenation
  else return concatenation
termination_by stop - udhPos

/-- The user data, with its data coding scheme and its length at two places of the PDU. -/
def userData (pdu : Octets) (headerIndicator : Bool) (dcsPos udlPos : Nat) : Except Stop (Concatenation × Content) := do
  let tpUdl ← octetAt pdu udlPos
  let pos := udlPos + 1
  if headerIndicator then
    let udhl ← octetAt pdu pos
    let concatenation ← headerElements pdu (pos + udhl.toNat) (pos + 1) .unset
    let dcs ← octetAt pdu dcsPos
    let content ← content pdu pos dcs tpUdl.toNat udhl.toNat (octetsToSeptets (udhl.toNat + 1))
    return (concatenation, content)
  else
    let dcs ← octetAt pdu dcsPos
    let content ← content pdu pos dcs tpUdl.toNat 0 0
    return (.unset, content)

/-- `struct vgsm_sms_deliver`. -/
structure SmsDeliver where
  smccAddress : Number
  moreMessagesToSend : Bool
  userDataHeaderIndicator : Bool
  statusReportIndication : Bool
  originatingAddress : Number
  timestamp : Int
  timezone : Int
  concatenation : Concatenation
  content : Content
  pdu : Octets
  deriving DecidableEq, Repr

/-- `vgsm_sms_deliver_init_from_pdu`. -/
def smsDeliverInitFromPdu (mktime : Tm → Int) (textPdu : Octets) : Except Stop SmsDeliver := do
  if textPdu.length % 2 ≠ 0 then .error .refused
  else
    let pdu := hexOctets textPdu
    let (smccAddress, pos) ← serviceCentre pdu
    let sdp ← octetAt pdu pos
    let (originatingAddress, pos) ← address pdu (pos + 1)
    -- the protocol identifier is not looked at, and the data coding scheme only later
    let (timestamp, timezone) ← timestamp mktime pdu (pos + 2)
    let (concatenation, content) ← userData pdu (flag sdp 6) (pos + 1) (pos + 9)
    return {
      smccAddress
      moreMessagesToSend := flag sdp 2
      userDataHeaderIndicator := flag sdp 6
      statusReportIndication := flag sdp 5
      originatingAddress
      timestamp
      timezone
      concatenation
      content
      pdu }

/-! ## Status reports -/

/-- `struct vgsm_sms_status_report`. -/
structure SmsStatusReport where
  smccAddress : Number
  userDataHeaderIndicator : Bool
  moreMessagesToSend : Bool
  statusReportQualifier : Bool
  messageReference : UInt8
  recipientAddress : Number
  smccTimestamp : Int
  smccTimestampTz : Int
  dischargeTime : Int
  dischargeTimeTz : Int
  status : UInt8
  parameterIndicator : UInt8
  content : Option Content
  pdu : Octets
  deriving DecidableEq, Repr

/-- The coding groups of which something is known. In a status report any other one is passed over. -/
def knownGroup (dcs : UInt8) : Bool :=
  let codingGroup := dcs.toNat / 16
  codingGroup ≤ 3 || codingGroup = 0xc || codingGroup = 0xe || codingGroup = 0xf

/-- The user data of a status report, whose data coding scheme stands before the length. -/
def reportContent (pdu : Octets) (dcsPos : Nat) : Except Stop Content := do
  let tpUdl ← octetAt pdu (dcsPos + 1)
  let dcs ← octetAt pdu dcsPos
  if knownGroup dcs then content pdu (dcsPos + 2) dcs tpUdl.toNat 0 0
  else return { codingGroup := dcs.toNat / 16, compressed := false, messageClass := -1, alphabet := 0, text := none }

/-- The optional part of a status report: the parameter indicator tells how much of it there is. -/
def reportParameters (pdu : Octets) (pos : Nat) : Except Stop (UInt8 × Option Content) := do
  if pos = pdu.length then return (0, none)
  else
    let parameterIndicator ← octetAt pdu pos
    if flag parameterIndicator 0 ∧ flag parameterIndicator 1 ∧ flag parameterIndicator 2 then
      let content ← reportContent pdu (pos + 2)
      return (parameterIndicator, some content)
    else return (parameterIndicator, none)

/-- `vgsm_sms_status_report_init_from_pdu`. -/
def smsStatusReportInitFromPdu (mktime : Tm → Int) (textPdu : Octets) : Except Stop SmsStatusReport := do
  if textPdu.length % 2 ≠ 0 then .error .refused
  else
    let pdu := hexOctets textPdu
    let (smccAddress, pos) ← serviceCentre pdu
    let sdp ← octetAt pdu pos
    let messageReference ← octetAt pdu (pos + 1)
    let (recipientAddress, pos) ← address pdu (pos + 2)
    let (smccTimestamp, smccTimestampTz) ← timestamp mktime pdu pos
    let (dischargeTime, dischargeTimeTz) ← timestamp mktime pdu (pos + 7)
    let status ← octetAt pdu (pos + 14)
    let (parameterIndicator, content) ← reportParameters pdu (pos + 15)
    return {
      smccAddress
      userDataHeaderIndicator := flag sdp 2
      moreMessagesToSend := flag sdp 3
      statusReportQualifier := flag sdp 4
      messageReference
      recipientAddress
      smccTimestamp
      smccTimestampTz
      dischargeTime
      dischargeTimeTz
      status
      parameterIndicator
      content
      pdu }

/-! ## Cell broadcast messages -/

/-- `struct vgsm_cbm`. A text whose memory is left as it was is none. -/
structure Cbm where
  geoscope : Nat
  messageCode : Nat
  updateNumber : Nat
  messageId : Nat
  page : Nat
  pages : Nat
  codingGroup : Nat
  language : Nat
  compressed : Bool
  messageClass : Int
  alphabet : Nat
  text : Option (List Nat)
  pdu : Octets
  deriving DecidableEq, Repr

/-- VGSM_CBM_DCS_LANG_UNSPECIFIED -/
def langUnspecified : Nat := 0xf

/-- What the data coding scheme of a broadcast tells: the language, the class, the alphabet and the
text. Of a text in UCS-2 the characters are read but not kept. -/
def cbmContent (pdu : Octets) (pos : Nat) (dcs : UInt8) : Except Stop (Nat × Int × Nat × Option (List Nat)) := do
  let codingGroup := dcs.toNat / 16
  if codingGroup = 0 then
    let text ← sevenBitToWc (pdu.drop pos) 93 0 (93 + 1)
    return (dcs.toNat % 16, -1, 0, some text)
  else if 4 ≤ codingGroup ∧ codingGroup ≤ 7 then
    let messageClass : Int := if flag dcs 4 then dcs.toNat % 4 else -1
    let alphabet := dcs.toNat / 4 % 4
    if flag dcs 5 then .error .refused
    else if alphabet = 0 then
      let text ← sevenBitToWc (pdu.drop pos) 93 0 (93 + 1)
      return (langUnspecified, messageClass, alphabet, some text)
    else if alphabet = 2 then
      let _ ← ucs2Text pdu pos 41
      return (langUnspecified, messageClass, alphabet, none)
    else return (langUnspecified, messageClass, alphabet, none)
  else if codingGroup = 0xf then
    if flag dcs 2 then return (langUnspecified, dcs.toNat % 4, 0, none)
    else
      let text ← sevenBitToWc (pdu.drop pos) 82 0 (82 + 1)
      return (langUnspecified, dcs.toNat % 4, 0, some text)
  else .error .refused

/-- `vgsm_decode_cbm_pdu`. -/
def decodeCbmPdu (textPdu : Octets) : Except Stop Cbm := do
  if textPdu.length % 2 ≠ 0 then .error .refused
  else
    let pdu := hexOctets textPdu
    let low ← octetAt pdu 0
    let high ← octetAt pdu 1
    let serial := low.toNat + 256 * high.toNat
    let idHigh ← octetAt pdu 2
    let idLow ← octetAt pdu 3
    let pp ← octetAt pdu 5
    let dcs ← octetAt pdu 4
    let single : Bool := pp.toNat / 16 = 0 || pp.toNat % 16 = 0
    let (language, messageClass, alphabet, text) ← cbmContent pdu 6 dcs
    return {
      geoscope := serial / 16384
      messageCode := serial / 16 % 1024
      updateNumber := serial % 16
      messageId := idHigh.toNat * 256 + idLow.toNat
      page := if single then 1 else pp.toNat / 16
      pages := if single then 1 else pp.toNat % 16
      codingGroup := dcs.toNat / 16
      language
      compressed := false
      messageClass
      alphabet
      text
      pdu }

end Vstuff.Vgsm
