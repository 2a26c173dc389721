import Vstuff.Vgsm.SmsSubmit

/-! The user data of a short message as it is sent, decoded as it would be received. The two sides
share the alphabet and the packing of septets, but not the escape to the extension table, nor where
a text in UCS-2 begins. -/
namespace Vstuff.Vgsm
open Lapd (Octets)
set_option linter.all false

namespace SmsSubmit

/-- The user data of a prepared message as `vgsm_sms_deliver_init_from_pdu` decodes it. -/
def decoded (sms : SmsSubmit) (prepared : Prepared) : Except Stop (Concatenation × Content) :=
  userData prepared.pdu (flag (prepared.pdu.getD sms.smccOctets.length 0) 6) (sms.front.length - 2) sms.front.length

/-- The text comes back, and with a header what it says about the message as a part of several. -/
def RoundTrips (sms : SmsSubmit) (prepared : Prepared) : Prop :=
  ∃ concatenation content, sms.decoded prepared = .ok (concatenation, content) ∧
    content.text = some sms.text ∧ (sms.header = true → concatenation = sms.concatenation)

/-- The header, taken for characters of UCS-2. -/
def headerCharacters (sms : SmsSubmit) : List Nat :=
  if sms.header then
    [0x500, 0x300 + sms.concatenation.refnum.toNat,
      sms.concatenation.maxmsg.toNat * 256 + sms.concatenation.seqnum.toNat]
  else []

/-- No character of the extension table; or a text in UCS-2 for which there is room, without a
header unless it reads like it, again and again. -/
def Survives (sms : SmsSubmit) : Prop :=
  if sms.translatable then ∀ wc ∈ sms.text, (wcToGsm wc).length = 1
  else 2 * sms.text.length + sms.udh.length + (sms.dest.digits.length + 1) / 2 ≤ 151 ∧
    sms.text <+: sms.headerCharacters ++ sms.text

/-! ## The places in the PDU -/

theorem length_textToBcd (digits : Octets) : (textToBcd digits).length = (digits.length + 1) / 2 := by
  induction digits using textToBcd.induct with
  | case1 => rfl
  | case2 digit => simp [textToBcd]
  | case3 low high rest ih =>
    rw [textToBcd, List.length_cons, ih]
    simp only [List.length_cons]
    omega

theorem length_addressOctets (address : Address) : (addressOctets address).length = 1 + (address.digits.length + 1) / 2 := by
  rw [addressOctets, List.length_cons, length_textToBcd]
  omega

theorem length_front (sms : SmsSubmit) :
    sms.front.length = 9 + (sms.smccAddress.digits.length + 1) / 2 + (sms.dest.digits.length + 1) / 2 := by
  unfold front smccOctets
  simp only [List.length_append, List.length_cons, List.length_nil, length_addressOctets]
  omega

/-- The octets that are left for the user data. -/
theorem room_eq (sms : SmsSubmit) :
    sms.maxLen - (sms.front.length + 1) = 152 - (sms.dest.digits.length + 1) / 2 := by
  rw [length_front]
  unfold maxLen
  omega

theorem front_dcs (sms : SmsSubmit) (behind : Octets) : (sms.front ++ behind)[sms.front.length - 2]? = some sms.dcs := by
  obtain ⟨before, isBefore⟩ : ∃ before, sms.front = before ++ [0, sms.dcs, sms.validity] := ⟨_, rfl⟩
  rw [isBefore]
  simp

theorem front_firstOctet (sms : SmsSubmit) (behind : Octets) :
    (sms.front ++ behind).getD sms.smccOctets.length 0 = sms.firstOctet := by
  unfold front
  rw [List.append_assoc, List.append_assoc, List.append_assoc, List.getD_eq_getElem?_getD,
    List.getElem?_append_right (Nat.le_refl _), Nat.sub_self]
  rfl

/-- The header indicator is the seventh bit of the first octet. -/
theorem flag_firstOctet (sms : SmsSubmit) : flag sms.firstOctet 6 = sms.header := by
  unfold flag firstOctet
  cases sms.header <;> cases sms.rejectDuplicates <;> cases sms.statusReportRequest <;> cases sms.replyPath <;> decide

theorem dcs_toNat (sms : SmsSubmit) : sms.dcs.toNat = (sms.messageClass % 4).toNat + 4 * sms.alphabet + 16 := by
  have known : sms.alphabet = 0 ∨ sms.alphabet = 2 := by
    unfold alphabet alphabetDefault alphabetUcs2
    split
    · exact .inl rfl
    · exact .inr rfl
  unfold dcs
  rw [UInt8.toNat_ofNat']
  omega

end SmsSubmit

theorem octetAt_eq {pdu : Octets} {pos : Nat} {octet : UInt8} (there : pdu[pos]? = some octet) :
    octetAt pdu pos = .ok octet := by
  unfold octetAt
  rw [there]

theorem ok_bind {α β : Type} (a : α) (f : α → Except Stop β) : (Except.ok a >>= f) = f a := rfl

/-! ## What the decoder makes of it -/

section Decoder
variable {pdu : Octets} {pos tpUdl udhl udhlSeptets : Nat} {dcs : UInt8} {text : List Nat}

/-- Coding group 1 is the one that tells a class; the text is not compressed. -/
theorem uncompressed (group : dcs.toNat / 16 = 1) : flag dcs 5 = false :=
  Nat.testBit_lt_two_pow (by omega)

theorem content_default (udhl : Nat) (group : dcs.toNat / 16 = 1) (alphabet : dcs.toNat / 4 % 4 = 0)
    (read : septetText pdu pos tpUdl udhlSeptets = .ok text) :
    ∃ c, content pdu pos dcs tpUdl udhl udhlSeptets = .ok c ∧ c.text = some text := by
  unfold content
  dsimp only
  rw [group, if_pos (by decide), uncompressed group, if_neg (by decide), alphabet, if_pos rfl, read]
  exact ⟨_, rfl, rfl⟩

theorem content_ucs2 (udhlSeptets : Nat) (group : dcs.toNat / 16 = 1) (alphabet : dcs.toNat / 4 % 4 = 2) (enough : udhl ≤ tpUdl)
    (read : ucs2Text pdu pos ((tpUdl - udhl) / 2) = .ok text) :
    ∃ c, content pdu pos dcs tpUdl udhl udhlSeptets = .ok c ∧ c.text = some text := by
  unfold content
  dsimp only
  rw [group, if_pos (by decide), uncompressed group, if_neg (by decide), alphabet, if_neg (by decide), if_pos rfl,
    if_neg (by omega), read]
  exact ⟨_, rfl, rfl⟩

/-- The one element of a header that announces a part of several. -/
theorem headerElements_one {udhPos : Nat} {none concatenation : Concatenation}
    (iei : octetAt pdu udhPos = .ok concatenatedSms) (len : octetAt pdu (udhPos + 1) = .ok 3)
    (refnum : octetAt pdu (udhPos + 2) = .ok concatenation.refnum)
    (maxmsg : octetAt pdu (udhPos + 3) = .ok concatenation.maxmsg)
    (seqnum : octetAt pdu (udhPos + 4) = .ok concatenation.seqnum) :
    headerElements pdu (udhPos + 4) udhPos none = .ok concatenation := by
  have last : headerElements pdu (udhPos + 4) (udhPos + 5) concatenation = .ok concatenation := by
    rw [headerElements, if_neg (by omega)]
    rfl
  rw [headerElements, if_pos (by omega), iei, len, refnum, maxmsg, seqnum]
  exact last

/-- The user data, when the header in front of it is the one that has been written. -/
theorem userData_eq {sms : SmsSubmit} {data : Octets} {content' : Content} (starts : sms.udh <+: data) (small : tpUdl < 256)
    (read : content (sms.front ++ UInt8.ofNat tpUdl :: data) (sms.front.length + 1) sms.dcs tpUdl
      (if sms.header then 5 else 0) (if sms.header then 7 else 0) = .ok content') :
    userData (sms.front ++ UInt8.ofNat tpUdl :: data) sms.header (sms.front.length - 2) sms.front.length =
      .ok (if sms.header then sms.concatenation else .unset, content') := by
  have udl : octetAt (sms.front ++ UInt8.ofNat tpUdl :: data) sms.front.length = .ok (UInt8.ofNat tpUdl) := by
    apply octetAt_eq
    rw [List.getElem?_append_right (Nat.le_refl _), Nat.sub_self]
    rfl
  have dcs : octetAt (sms.front ++ UInt8.ofNat tpUdl :: data) (sms.front.length - 2) = .ok sms.dcs :=
    octetAt_eq (sms.front_dcs _)
  have whole : (UInt8.ofNat tpUdl).toNat = tpUdl := by
    rw [UInt8.toNat_ofNat']
    omega
  cases header : sms.header with
  | false =>
    rw [header, if_neg Bool.false_ne_true, if_neg Bool.false_ne_true] at read
    simp only [userData, udl, dcs, ok_bind, Bool.false_eq_true, if_false, whole, read]
    rfl
  | true =>
    rw [header, if_pos rfl, if_pos rfl] at read
    obtain ⟨more, isData⟩ := starts
    rw [SmsSubmit.udh, header, if_pos rfl] at isData
    have there {i : Nat} {octet : UInt8} (inside : (UInt8.ofNat tpUdl :: data)[i]? = some octet) :
        octetAt (sms.front ++ UInt8.ofNat tpUdl :: data) (sms.front.length + i) = .ok octet := by
      apply octetAt_eq
      rw [List.getElem?_append_right (by omega), Nat.add_sub_cancel_left]
      exact inside
    have udhl : octetAt (sms.front ++ UInt8.ofNat tpUdl :: data) (sms.front.length + 1) = .ok 5 :=
      there (by rw [← isData]; rfl)
    have elements : headerElements (sms.front ++ UInt8.ofNat tpUdl :: data) (sms.front.length + 2 + 4)
        (sms.front.length + 2) .unset = .ok sms.concatenation := by
      apply headerElements_one
      · exact there (by rw [← isData]; rfl)
      · exact there (i := 3) (by rw [← isData]; rfl)
      · exact there (i := 4) (by rw [← isData]; rfl)
      · exact there (i := 5) (by rw [← isData]; rfl)
      · exact there (i := 6) (by rw [← isData]; rfl)
    have five : (5 : UInt8).toNat = 5 := rfl
    have seven : octetsToSeptets (5 + 1) = 7 := rfl
    simp only [userData, udl, udhl, dcs, ok_bind, if_true, whole, five, seven]
    rw [elements, ok_bind, read]
    rfl

end Decoder

/-! ## Septets -/

namespace SmsSubmit
variable {sms : SmsSubmit} {p : Prepared}

theorem length_udh (sms : SmsSubmit) : sms.udh.length = if sms.header then 6 else 0 := by
  unfold udh
  split <;> rfl

/-- The septets a header takes. -/
theorem septets_udh (sms : SmsSubmit) : octetsToSeptets sms.udh.length = if sms.header then 7 else 0 := by
  rw [length_udh]
  split <;> rfl

theorem prepare_default (plain : sms.translatable = true) (prepared : smsSubmitPrepare sms = .ok p) :
    ∃ used out, wcTo7bit (160 - octetsToSeptets sms.udh.length) (octetsToSeptets sms.udh.length) sms.text 0
        (sms.udh ++ List.replicate (152 - (sms.dest.digits.length + 1) / 2 - sms.udh.length) 0) = .ok (used, out) ∧
      septetsToOctets (octetsToSeptets sms.udh.length + used) ≤ 152 - (sms.dest.digits.length + 1) / 2 ∧
      p.pdu = sms.front ++ UInt8.ofNat (octetsToSeptets sms.udh.length + used) ::
        out.take (septetsToOctets (octetsToSeptets sms.udh.length + used)) := by
  unfold smsSubmitPrepare at prepared
  rw [room_eq] at prepared
  dsimp only at prepared
  rw [if_pos plain] at prepared
  split at prepared
  · cases prepared
  obtain ⟨⟨used, out⟩, wrote, prepared⟩ := Transition.bind_ok prepared
  dsimp only at prepared
  split at prepared
  · cases prepared
  rename_i fits
  cases prepared
  exact ⟨used, out, wrote, Nat.not_lt.mp fits, rfl⟩

/-- The septets of the user data, with those that the header takes. -/
def septets (sms : SmsSubmit) : Nat := octetsToSeptets sms.udh.length + (gsmOctets sms.text).length

/-- What is behind the length of a text in the default alphabet: the header, and the septets of the
text at their places. -/
theorem data_default (plain : sms.translatable = true) (prepared : smsSubmitPrepare sms = .ok p) :
    ∃ data, p.pdu = sms.front ++ UInt8.ofNat sms.septets :: data ∧ sms.septets ≤ 160 ∧
      data.length = septetsToOctets sms.septets ∧ data.length ≤ 152 - (sms.dest.digits.length + 1) / 2 ∧
      sms.udh <+: data ∧
      ∀ i, ∀ there : i < (gsmOctets sms.text).length, ∀ t < 7,
        Bits.bit data (7 * (octetsToSeptets sms.udh.length + i) + t) = (gsmOctets sms.text)[i].toNat.testBit t := by
  obtain ⟨used, out, wrote, fits, pdu⟩ := prepare_default plain prepared
  have digits : sms.dest.digits.length < 32 := sms.dest.fits
  have few : octetsToSeptets sms.udh.length ≤ 7 := by
    rw [septets_udh]
    split <;> decide
  have most := wcTo7bit_le wrote (Nat.zero_le _)
  obtain ⟨total, length, bits⟩ := wcTo7bit_bits wrote
  rw [Nat.zero_add] at total bits
  subst total
  change septetsToOctets sms.septets ≤ _ at fits
  have room : out.length = 152 - (sms.dest.digits.length + 1) / 2 := by
    rw [length, List.length_append, List.length_replicate, length_udh]
    split <;> omega
  have size : (out.take (septetsToOctets sms.septets)).length = septetsToOctets sms.septets := by
    rw [List.length_take]
    omega
  have inside := septetsToOctets_bits sms.septets
  have before : 8 * sms.udh.length ≤ 7 * octetsToSeptets sms.udh.length := by
    rw [septets_udh, length_udh]
    split <;> decide
  refine ⟨out.take (septetsToOctets sms.septets), pdu, ?_, size, by omega, ?_, ?_⟩
  · unfold septets
    omega
  · unfold septets at inside
    refine List.prefix_take_iff.mpr ⟨Bits.prefix_of_bits (by omega) fun k within => ?_, ?_⟩
    · rw [bits, Bits.bit_append_left within, septetBits_before (by omega), Bool.or_false]
    · unfold septets
      omega
  · intro i there t small
    unfold septets at inside ⊢
    rw [Bits.bit_take (by omega), bits, Bits.bit_append_right (by omega), Bits.bit_replicate_zero, Bool.false_or,
      septetBits_at (fun c => gsmOctets_lt) there _ small]

/-- A text in the default alphabet comes back as the characters its septets are found under. -/
theorem decoded_default (plain : sms.translatable = true) (prepared : smsSubmitPrepare sms = .ok p) :
    ∃ content, sms.decoded p = .ok (if sms.header then sms.concatenation else .unset, content) ∧
      content.text = some ((gsmOctets sms.text).map gsmToWc) := by
  obtain ⟨data, pdu, most, size, -, starts, stands⟩ := data_default plain prepared
  obtain ⟨taken, isTaken⟩ : ∃ taken, taken = octetsToSeptets sms.udh.length := ⟨_, rfl⟩
  have all : sms.septets = taken + (gsmOctets sms.text).length := isTaken ▸ rfl
  rw [← isTaken] at stands
  rw [all] at pdu most size
  have inside : 7 * (taken + (gsmOctets sms.text).length) ≤ 8 * data.length := size ▸ septetsToOctets_bits _
  have read : septetText p.pdu (sms.front.length + 1) (taken + (gsmOctets sms.text).length) taken =
      .ok ((gsmOctets sms.text).map gsmToWc) := by
    have behind : p.pdu.drop (sms.front.length + 1) = data := by
      rw [pdu]
      simp
    have enough : taken + (gsmOctets sms.text).length - taken = (gsmOctets sms.text).length := by omega
    unfold septetText
    rw [if_neg (by omega), behind, enough]
    exact sevenBitToWc_codes (fun c => gsmOctets_lt) inside stands
  have group : sms.dcs.toNat / 16 = 1 ∧ sms.dcs.toNat / 4 % 4 = 0 := by
    rw [dcs_toNat, alphabet, if_pos plain]
    unfold alphabetDefault
    omega
  rw [pdu] at read
  obtain ⟨content, isContent, text⟩ := content_default (if sms.header then 5 else 0) group.1 group.2 read
  refine ⟨content, ?_, text⟩
  have indicator : flag (p.pdu.getD sms.smccOctets.length 0) 6 = sms.header := by
    rw [pdu, front_firstOctet, flag_firstOctet]
  unfold decoded
  rw [indicator, pdu]
  apply userData_eq starts (by omega)
  rw [septets_udh] at isTaken
  rw [← isTaken]
  exact isContent

end SmsSubmit

/-! ## UCS-2 -/

/-- The characters of some octets, two octets each. -/
def units : Octets → List Nat
  | high :: low :: rest => (high.toNat * 256 + low.toNat) :: units rest
  | _ => []

theorem units_append {back : Octets} : ∀ {front : Octets}, front.length % 2 = 0 → units (front ++ back) = units front ++ units back
  | [], _ => rfl
  | [_], even => absurd even (by simp)
  | high :: low :: rest, even => by
    rw [List.length_cons, List.length_cons] at even
    rw [List.cons_append, List.cons_append, units, units, units_append (by omega)]
    rfl

theorem units_iconv (room : Nat) {text : List Nat} (narrow : ∀ wc ∈ text, wc < 65536) :
    units (iconvUcs2be room text) = text.take (room / 2) ∧
      (iconvUcs2be room text).length = 2 * (text.take (room / 2)).length := by
  induction text generalizing room with
  | nil =>
    have none : iconvUcs2be room [] = [] := by
      unfold iconvUcs2be
      split
      · contradiction
      · rfl
    rw [none, List.take_nil]
    exact ⟨rfl, rfl⟩
  | cons wc rest ih =>
    match room with
    | 0 => exact ⟨rfl, rfl⟩
    | 1 => exact ⟨rfl, rfl⟩
    | room + 2 =>
      have small := narrow wc List.mem_cons_self
      obtain ⟨same, length⟩ := ih room fun wc member => narrow wc (List.mem_cons_of_mem _ member)
      have half : (room + 2) / 2 = room / 2 + 1 := by omega
      have character : (UInt8.ofNat (wc / 256)).toNat * 256 + (UInt8.ofNat wc).toNat = wc := by
        rw [UInt8.toNat_ofNat', UInt8.toNat_ofNat']
        omega
      rw [iconvUcs2be, if_pos small, half, List.take_succ_cons, units, same, character]
      refine ⟨rfl, ?_⟩
      simp only [List.length_cons, length]
      omega

theorem units_getElem? {octets : Octets} {i : Nat} {high low : UInt8} (isHigh : octets[2 * i]? = some high)
    (isLow : octets[2 * i + 1]? = some low) : (units octets)[i]? = some (high.toNat * 256 + low.toNat) := by
  induction i generalizing octets with
  | zero =>
    match octets with
    | [] => cases isHigh
    | [_] => cases isLow
    | first :: second :: rest =>
      cases isHigh
      cases isLow
      rfl
  | succ i ih =>
    match octets with
    | [] => cases isHigh
    | [_] => cases isLow
    | first :: second :: rest => exact ih isHigh isLow

/-- The text that is read from octets of which there are enough. -/
theorem ucs2Text_units {pdu : Octets} {pos count : Nat} (enough : pos + 2 * count ≤ pdu.length) :
    ucs2Text pdu pos count = .ok ((units (pdu.drop pos)).take count) := by
  have unit {i : Nat} (inside : i < count) :
      ∃ high low, octetAt pdu (pos + i * 2) = .ok high ∧ octetAt pdu (pos + i * 2 + 1) = .ok low ∧
        (units (pdu.drop pos))[i]? = some (high.toNat * 256 + low.toNat) := by
    have high : pos + i * 2 < pdu.length := by omega
    have low : pos + i * 2 + 1 < pdu.length := by omega
    have first := List.getElem?_eq_getElem high
    have second := List.getElem?_eq_getElem low
    refine ⟨_, _, octetAt_eq first, octetAt_eq second, units_getElem? ?_ ?_⟩
    · rw [List.getElem?_drop, Nat.mul_comm 2 i, first]
    · rw [List.getElem?_drop, Nat.mul_comm 2 i, ← Nat.add_assoc, second]
  unfold ucs2Text
  rw [mapM_ok (g := fun i => (units (pdu.drop pos)).getD i 0)]
  · congr 1
    apply List.ext_getElem?
    intro i
    by_cases inside : i < count
    · obtain ⟨high, low, -, -, there⟩ := unit inside
      rw [List.getElem?_map, List.getElem?_range inside, List.getElem?_take_of_lt inside, there]
      simp [there]
    · rw [List.getElem?_eq_none (by simp; omega), List.getElem?_eq_none (by simp; omega)]
  · intro i member
    obtain ⟨high, low, isHigh, isLow, there⟩ := unit (List.mem_range.mp member)
    rw [isHigh, ok_bind, isLow, ok_bind, List.getD_eq_getElem?_getD, there]
    rfl

namespace SmsSubmit
variable {sms : SmsSubmit} {p : Prepared}

theorem prepare_ucs2 (foreign : sms.translatable = false) (prepared : smsSubmitPrepare sms = .ok p) :
    let written := iconvUcs2be (152 - (sms.dest.digits.length + 1) / 2 - sms.udh.length - 1) sms.text
    p.pdu = sms.front ++ UInt8.ofNat (sms.udh.length + written.length) :: (sms.udh ++ written) := by
  unfold smsSubmitPrepare at prepared
  rw [room_eq] at prepared
  dsimp only at prepared
  rw [if_neg (Bool.eq_false_iff.mp foreign)] at prepared
  split at prepared
  · cases prepared
  cases prepared
  rfl

theorem units_udh (sms : SmsSubmit) : units sms.udh = sms.headerCharacters := by
  unfold udh headerCharacters
  split <;> rfl

/-- A text in UCS-2 comes back behind the header, and cut off. -/
theorem decoded_ucs2 (foreign : sms.translatable = false) (narrow : ∀ wc ∈ sms.text, wc < 65536)
    (prepared : smsSubmitPrepare sms = .ok p) {kept : List Nat}
    (isKept : kept = sms.text.take ((151 - sms.udh.length - (sms.dest.digits.length + 1) / 2) / 2)) :
    ∃ content, sms.decoded p = .ok (if sms.header then sms.concatenation else .unset, content) ∧
      content.text = some ((sms.headerCharacters ++ kept).take kept.length) := by
  have pdu := prepare_ucs2 foreign prepared
  have room : 152 - (sms.dest.digits.length + 1) / 2 - sms.udh.length - 1 =
      151 - sms.udh.length - (sms.dest.digits.length + 1) / 2 := by omega
  dsimp only at pdu
  rw [room] at pdu
  obtain ⟨same, length⟩ := units_iconv (151 - sms.udh.length - (sms.dest.digits.length + 1) / 2) narrow
  rw [← isKept] at same length
  obtain ⟨written, isWritten⟩ : ∃ written,
    written = iconvUcs2be (151 - sms.udh.length - (sms.dest.digits.length + 1) / 2) sms.text := ⟨_, rfl⟩
  rw [← isWritten] at pdu same length
  rw [length] at pdu
  have few : kept.length ≤ 75 := by
    rw [isKept, List.length_take]
    omega
  have header := length_udh sms
  have data : p.pdu.drop (sms.front.length + 1) = sms.udh ++ written := by
    rw [pdu]
    simp
  have size : p.pdu.length = sms.front.length + 1 + sms.udh.length + 2 * kept.length := by
    rw [pdu, List.length_append, List.length_cons, List.length_append, length]
    omega
  have count : (sms.udh.length + 2 * kept.length - if sms.header then 5 else 0) / 2 = kept.length := by
    rw [header]
    split <;> omega
  have read : ucs2Text p.pdu (sms.front.length + 1) ((sms.udh.length + 2 * kept.length - if sms.header then 5 else 0) / 2) =
      .ok ((sms.headerCharacters ++ kept).take kept.length) := by
    have even : sms.udh.length % 2 = 0 := by
      rw [header]
      split <;> rfl
    rw [count, ucs2Text_units (by omega), data, units_append even, units_udh, same]
  have group : sms.dcs.toNat / 16 = 1 ∧ sms.dcs.toNat / 4 % 4 = 2 := by
    rw [dcs_toNat, alphabet, if_neg (Bool.eq_false_iff.mp foreign)]
    unfold alphabetUcs2
    omega
  rw [pdu] at read
  have enough : (if sms.header then 5 else 0) ≤ sms.udh.length + 2 * kept.length := by
    rw [header]
    split <;> omega
  obtain ⟨content, isContent, text⟩ := content_ucs2 (if sms.header then 7 else 0) group.1 group.2 enough read
  refine ⟨content, ?_, text⟩
  have indicator : flag (p.pdu.getD sms.smccOctets.length 0) 6 = sms.header := by
    rw [pdu, front_firstOctet, flag_firstOctet]
  unfold decoded
  rw [indicator, pdu]
  refine userData_eq (List.prefix_append _ _) ?_ isContent
  rw [header]
  split <;> omega

/-- What was prepared comes back exactly if the text survives. -/
theorem user_data_round_trip_iff (narrow : ∀ wc ∈ sms.text, wc < 65536) (prepared : smsSubmitPrepare sms = .ok p) :
    sms.RoundTrips p ↔ sms.Survives := by
  unfold RoundTrips Survives
  cases plain : sms.translatable with
  | true =>
    obtain ⟨content, isContent, text⟩ := decoded_default plain prepared
    have written : ∀ wc ∈ sms.text, wcToGsm wc ≠ [] := by
      intro wc member
      exact of_decide_eq_true (List.all_eq_true.mp plain wc member)
    rw [if_pos rfl, ← map_gsmOctets_iff written]
    constructor
    · rintro ⟨concatenation, content', same, text', -⟩
      rw [isContent] at same
      cases same
      exact Option.some.inj (text.symm.trans text')
    · intro same
      refine ⟨_, content, isContent, text.trans (congrArg some same), fun header => ?_⟩
      rw [if_pos header]
  | false =>
    obtain ⟨kept, isKept⟩ : ∃ kept,
      kept = sms.text.take ((151 - sms.udh.length - (sms.dest.digits.length + 1) / 2) / 2) := ⟨_, rfl⟩
    obtain ⟨content, isContent, text⟩ := decoded_ucs2 plain narrow prepared isKept
    have digits : sms.dest.digits.length < 32 := sms.dest.fits
    have header : sms.udh.length ≤ 6 := by
      rw [length_udh]
      split <;> decide
    have all (fits : 2 * sms.text.length + sms.udh.length + (sms.dest.digits.length + 1) / 2 ≤ 151) :
        kept = sms.text := by
      rw [isKept]
      exact List.take_of_length_le (by omega)
    rw [if_neg Bool.false_ne_true]
    constructor
    · rintro ⟨concatenation, content', same, text', -⟩
      rw [isContent] at same
      cases same
      have same := Option.some.inj (text.symm.trans text')
      have whole : sms.text.length ≤ kept.length := by
        rw [← same, List.length_take]
        exact Nat.min_le_left _ _
      have fits : 2 * sms.text.length + sms.udh.length + (sms.dest.digits.length + 1) / 2 ≤ 151 := by
        rw [isKept, List.length_take] at whole
        omega
      refine ⟨fits, List.prefix_iff_eq_take.mpr ?_⟩
      rw [all fits] at same
      exact same.symm
    · rintro ⟨fits, begins⟩
      refine ⟨_, content, isContent, ?_, fun header => if_pos header⟩
      rw [text, all fits]
      exact congrArg some (List.prefix_iff_eq_take.mp begins).symm

/-- A greeting to a number of four digits, in a message of its own. -/
def greeting (text : List Nat) : SmsSubmit where
  smccAddress := ⟨[], 1, 1, by decide⟩
  rejectDuplicates := false
  replyPath := false
  userDataHeaderIndicator := false
  statusReportRequest := false
  messageReference := 0
  dest := ⟨[49, 50, 51, 52], 1, 1, by decide⟩
  validityPeriod := 86400
  messageClass := 1
  concatenation := .unset
  text := text

/-- "Hi" comes back. -/
theorem greeting_comes_back : ∃ p, smsSubmitPrepare (greeting [72, 105]) = .ok p ∧ (greeting [72, 105]).RoundTrips p := by
  have accepted : (smsSubmitPrepare (greeting [72, 105])).isOk = true := by decide +kernel
  have plain : (greeting [72, 105]).translatable = true := by decide +kernel
  have survives : (greeting [72, 105]).Survives := by
    rw [Survives, if_pos plain]
    decide +kernel
  cases prepared : smsSubmitPrepare (greeting [72, 105]) with
  | error stop =>
    rw [prepared] at accepted
    cases accepted
  | ok p => exact ⟨p, rfl, (user_data_round_trip_iff (by decide) prepared).mpr survives⟩

/-- The euro sign is sent as two septets, and read as two characters. -/
theorem euro_becomes_two : ∃ p, smsSubmitPrepare (greeting [0x20ac]) = .ok p ∧ ¬(greeting [0x20ac]).RoundTrips p := by
  have accepted : (smsSubmitPrepare (greeting [0x20ac])).isOk = true := by decide +kernel
  have plain : (greeting [0x20ac]).translatable = true := by decide +kernel
  cases prepared : smsSubmitPrepare (greeting [0x20ac]) with
  | error stop =>
    rw [prepared] at accepted
    cases accepted
  | ok p =>
    refine ⟨p, rfl, ?_⟩
    rintro ⟨concatenation, content, same, text, -⟩
    obtain ⟨content', isContent, text'⟩ := decoded_default plain prepared
    rw [isContent] at same
    cases same
    have equal : some ((gsmOctets [0x20ac]).map gsmToWc) = some [0x20ac] := text'.symm.trans text
    exact absurd equal (by decide +kernel)

end SmsSubmit

end Vstuff.Vgsm
