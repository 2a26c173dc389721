import Vstuff.Vgsm.Septets
import Vstuff.Vgsm.SmsRoundTrip

/-! What `vgsm_sms_submit_prepare` promises: a message that holds the whole text or none, and a
validity period that is not exceeded. -/
namespace Vstuff.Vgsm
open Lapd (Octets)
set_option linter.all false

/-! ## When a text is packed -/

/-- The last character of a text takes two septets, if there is one. -/
def EndsExtended (text : List Nat) : Prop := ∀ wc ∈ text.getLast?, (wcToGsm wc).length = 2

instance (text : List Nat) : Decidable (EndsExtended text) :=
  decidable_of_iff ((text.getLast?.all fun wc => (wcToGsm wc).length = 2) = true) (by
    unfold EndsExtended
    cases text.getLast? <;> simp)

/-- The text is behind as many septets, and the room for all of them is not used up by a character
of one septet. -/
def Packable (maxSeptets outsep : Nat) (text : List Nat) : Prop :=
  outsep + (gsmOctets text).length < maxSeptets ∨
    outsep + (gsmOctets text).length = maxSeptets ∧ EndsExtended text

section Packing
variable {maxSeptets offset outsep : Nat} {inwc : Nat} {rest : List Nat} {c c2 : UInt8} {out : Octets}

theorem wcTo7bit_single (code : wcToGsm inwc = [c]) :
    wcTo7bit maxSeptets offset (inwc :: rest) outsep out =
      if outsep ≥ maxSeptets then .error .refused
      else writeSeptet out (outsep + offset) c >>= fun out =>
        if outsep + 1 ≥ maxSeptets then .error .refused else wcTo7bit maxSeptets offset rest (outsep + 1) out := by
  rw [wcTo7bit, code]

theorem wcTo7bit_double (code : wcToGsm inwc = [c, c2]) :
    wcTo7bit maxSeptets offset (inwc :: rest) outsep out =
      if outsep ≥ maxSeptets then .error .refused
      else writeSeptet out (outsep + offset) c >>= fun out =>
        if outsep + 1 ≥ maxSeptets then .error .refused
        else writeSeptet out (outsep + 1 + offset) c2 >>= fun out =>
          wcTo7bit maxSeptets offset rest (outsep + 2) out := by
  rw [wcTo7bit, code]

/-- A character that can be written takes one septet or two. -/
theorem wcToGsm_cases (written : wcToGsm inwc ≠ []) :
    (∃ c, wcToGsm inwc = [c]) ∨ ∃ c c2, wcToGsm inwc = [c, c2] := by
  have short := wcToGsm_length inwc
  match octets : wcToGsm inwc with
  | [] => exact absurd octets written
  | [c] => exact .inl ⟨c, rfl⟩
  | [c, c2] => exact .inr ⟨c, c2, rfl⟩
  | _ :: _ :: _ :: _ =>
    rw [octets] at short
    simp at short

/-- The euro sign takes two. -/
example : wcToGsm 8364 = [27, 101] := by decide +kernel

theorem endsExtended_cons (some : rest ≠ []) : EndsExtended (inwc :: rest) ↔ EndsExtended rest := by
  unfold EndsExtended
  rw [List.getLast?_cons_of_ne_nil some]

theorem endsExtended_singleton : EndsExtended [inwc] ↔ (wcToGsm inwc).length = 2 := by
  simp [EndsExtended]

/-- What is left of a text is packable behind its first character, as it was before. -/
theorem packable_cons {width : Nat} (isWidth : (wcToGsm inwc).length = width) (within : outsep + width < maxSeptets ∨
    outsep + width = maxSeptets ∧ width = 2) :
    Packable maxSeptets outsep (inwc :: rest) ↔ Packable maxSeptets (outsep + width) rest := by
  unfold Packable
  rw [length_gsmOctets_cons, isWidth, ← Nat.add_assoc]
  rcases List.eq_nil_or_concat rest with rfl | ⟨_, _, more⟩
  · have none : EndsExtended [] := nofun
    have codes : (gsmOctets []).length = 0 := rfl
    rw [endsExtended_singleton, isWidth, codes]
    simp only [none, and_true]
    omega
  · have some : rest ≠ [] := by simp [more]
    rw [endsExtended_cons some]

/-- With all octets in place it is only the number of septets that counts. -/
theorem wcTo7bit_inside {text : List Nat} (written : ∀ wc ∈ text, wcToGsm wc ≠ []) (room : outsep ≤ maxSeptets)
    (inside : (min (outsep + (gsmOctets text).length) maxSeptets + offset) * 7 / 8 < out.length) :
    (Packable maxSeptets outsep text → ∃ r, wcTo7bit maxSeptets offset text outsep out = .ok r) ∧
      (¬Packable maxSeptets outsep text → wcTo7bit maxSeptets offset text outsep out = .error .refused) := by
  induction text generalizing outsep out with
  | nil =>
    refine ⟨fun _ => ⟨_, rfl⟩, fun crowded => absurd ?_ crowded⟩
    have none : EndsExtended [] := nofun
    exact (Nat.lt_or_eq_of_le room).imp_right fun full => ⟨full, none⟩
  | cons inwc rest ih =>
    rw [length_gsmOctets_cons] at inside
    have tail : ∀ wc ∈ rest, wcToGsm wc ≠ [] := fun wc member => written wc (List.mem_cons_of_mem _ member)
    have crowded (full : outsep + (wcToGsm inwc).length > maxSeptets) : ¬Packable maxSeptets outsep (inwc :: rest) := by
      unfold Packable
      rw [length_gsmOctets_cons]
      omega
    rcases wcToGsm_cases (written inwc List.mem_cons_self) with ⟨c, code⟩ | ⟨c, c2, code⟩
    · have width : (wcToGsm inwc).length = 1 := code ▸ rfl
      rw [width] at inside crowded
      rw [wcTo7bit_single code]
      by_cases full : outsep ≥ maxSeptets
      · rw [if_pos full]
        exact ⟨fun packable => absurd packable (crowded (by omega)), fun _ => rfl⟩
      rw [if_neg full]
      obtain ⟨out₁, first, length⟩ := writeSeptet_ok c (by omega : (outsep + offset + 1) * 7 / 8 < out.length)
      rw [first, ok_bind]
      by_cases last : outsep + 1 ≥ maxSeptets
      · rw [if_pos last]
        refine ⟨fun packable => absurd packable ?_, fun _ => rfl⟩
        -- a character of one septet that ends just at the limit
        unfold Packable
        rw [length_gsmOctets_cons, width]
        rintro (short | ⟨exact, ends⟩)
        · omega
        · have none : rest = [] := by
            have few := length_le_gsmOctets tail
            exact List.eq_nil_of_length_eq_zero (by omega)
          rw [none, endsExtended_singleton, width] at ends
          cases ends
      rw [if_neg last, packable_cons width (.inl (Nat.not_le.mp last))]
      apply ih tail (by omega)
      rw [length]
      omega
    · have width : (wcToGsm inwc).length = 2 := code ▸ rfl
      rw [width] at inside crowded
      rw [wcTo7bit_double code]
      by_cases full : outsep ≥ maxSeptets
      · rw [if_pos full]
        exact ⟨fun packable => absurd packable (crowded (by omega)), fun _ => rfl⟩
      rw [if_neg full]
      obtain ⟨out₁, first, length₁⟩ := writeSeptet_ok c (by omega : (outsep + offset + 1) * 7 / 8 < out.length)
      rw [first, ok_bind]
      by_cases last : outsep + 1 ≥ maxSeptets
      · rw [if_pos last]
        exact ⟨fun packable => absurd packable (crowded (by omega)), fun _ => rfl⟩
      rw [if_neg last]
      obtain ⟨out₂, second, length₂⟩ := writeSeptet_ok c2
        (by omega : (outsep + 1 + offset + 1) * 7 / 8 < out₁.length)
      rw [second, ok_bind, packable_cons width (by omega)]
      apply ih tail (by omega)
      rw [length₂, length₁]
      omega

/-- Where an octet is missing, one of the septets that is written up to the limit needs it. -/
theorem wcTo7bit_outside {text : List Nat} (written : ∀ wc ∈ text, wcToGsm wc ≠ []) (some : text ≠ [])
    (room : outsep < maxSeptets)
    (outside : out.length ≤ (min (outsep + (gsmOctets text).length) maxSeptets + offset) * 7 / 8) :
    wcTo7bit maxSeptets offset text outsep out = .error .undefined := by
  induction text generalizing outsep out with
  | nil => exact absurd rfl some
  | cons inwc rest ih =>
    rw [length_gsmOctets_cons] at outside
    have tail : ∀ wc ∈ rest, wcToGsm wc ≠ [] := fun wc member => written wc (List.mem_cons_of_mem _ member)
    have empty (none : rest = []) : (gsmOctets rest).length = 0 := none ▸ rfl
    rcases wcToGsm_cases (written inwc List.mem_cons_self) with ⟨c, code⟩ | ⟨c, c2, code⟩
    · have width : (wcToGsm inwc).length = 1 := code ▸ rfl
      rw [width] at outside
      rw [wcTo7bit_single code, if_neg (by omega)]
      by_cases inside : (outsep + offset + 1) * 7 / 8 < out.length
      · obtain ⟨out₁, first, length⟩ := writeSeptet_ok c inside
        have more : rest ≠ [] := by
          intro none
          rw [empty none] at outside
          omega
        rw [first, ok_bind, if_neg (by omega)]
        apply ih tail more (by omega)
        rw [length]
        omega
      · rw [writeSeptet_outside c (by omega)]
        rfl
    · have width : (wcToGsm inwc).length = 2 := code ▸ rfl
      rw [width] at outside
      rw [wcTo7bit_double code, if_neg (by omega)]
      by_cases inside : (outsep + offset + 1) * 7 / 8 < out.length
      · obtain ⟨out₁, first, length₁⟩ := writeSeptet_ok c inside
        rw [first, ok_bind, if_neg (by omega)]
        by_cases within : (outsep + 1 + offset + 1) * 7 / 8 < out₁.length
        · obtain ⟨out₂, second, length₂⟩ := writeSeptet_ok c2 within
          have more : rest ≠ [] := by
            intro none
            rw [empty none] at outside
            omega
          rw [second, ok_bind]
          apply ih tail more (by omega)
          rw [length₂, length₁]
          omega
        · rw [writeSeptet_outside c2 (by omega)]
          rfl
      · rw [writeSeptet_outside c (by omega)]
        rfl

end Packing

/-! ## All or nothing -/

namespace SmsSubmit
variable {sms : SmsSubmit} {p : Prepared}

/-- The text, in the alphabet chosen, fits in 160 septets or 140 octets less the header. -/
def Fits (sms : SmsSubmit) : Prop :=
  if sms.translatable then sms.septets ≤ 160
  else (∀ wc ∈ sms.text, wc < 65536) ∧ sms.udh.length + 2 * sms.text.length ≤ 140

/-- The user data holds the whole text behind the header. -/
def Holds (sms : SmsSubmit) (data : Octets) : Prop :=
  sms.udh <+: data ∧
    if sms.translatable then
      readSeptets data (gsmOctets sms.text).length (octetsToSeptets sms.udh.length) = .ok (gsmOctets sms.text)
    else units (data.drop sms.udh.length) = sms.text

/-- A PDU inside its memory, with at most 140 octets of user data that hold the whole text. -/
def Built (sms : SmsSubmit) (p : Prepared) : Prop :=
  ∃ tpUdl data, p.pdu = sms.front ++ tpUdl :: data ∧ p.pdu.length ≤ sms.maxLen ∧ data.length ≤ 140 ∧ sms.Holds data

/-- A text that fits is built, any other one is refused, and nothing else happens. -/
def AllOrNothing (sms : SmsSubmit) : Prop :=
  match smsSubmitPrepare sms with
  | .ok p => sms.Fits ∧ sms.Built p
  | .error .refused => ¬sms.Fits
  | .error .undefined => False

/-- There is memory for the octets up to the end of the text or the limit, and the last septet of
all is not one of a character that takes one only; or a text in UCS-2 that fits in the user data
and in the memory. -/
def Regular (sms : SmsSubmit) : Prop :=
  if sms.translatable then
    min sms.septets 160 * 7 / 8 + (sms.dest.digits.length + 1) / 2 < 152 ∧ (sms.septets = 160 → EndsExtended sms.text)
  else (∀ wc ∈ sms.text, wc < 65536) ∧ sms.udh.length + 2 * sms.text.length ≤ 140 ∧
    sms.udh.length + 2 * sms.text.length + (sms.dest.digits.length + 1) / 2 ≤ 151

theorem translatable_iff : sms.translatable = true ↔ ∀ wc ∈ sms.text, wcToGsm wc ≠ [] := by
  unfold translatable
  rw [List.all_eq_true]
  exact forall₂_congr fun wc _ => decide_eq_true_iff

/-- A PDU behind its front. -/
theorem length_le_maxLen {tpUdl : UInt8} {data : Octets} (room : data.length ≤ 152 - (sms.dest.digits.length + 1) / 2) :
    (sms.front ++ tpUdl :: data).length ≤ sms.maxLen := by
  have digits : sms.dest.digits.length < 32 := sms.dest.fits
  rw [List.length_append, List.length_cons, length_front]
  unfold maxLen
  omega

/-- A text in the default alphabet that has been built is whole. -/
theorem built_default (plain : sms.translatable = true) (prepared : smsSubmitPrepare sms = .ok p) :
    sms.Fits ∧ sms.Built p := by
  obtain ⟨data, pdu, most, size, room, starts, stands⟩ := data_default plain prepared
  unfold Fits Built Holds
  simp only [if_pos plain]
  refine ⟨most, _, data, pdu, ?_, ?_, starts, ?_⟩
  · rw [pdu]
    exact length_le_maxLen room
  · rw [size]
    unfold septetsToOctets
    split <;> omega
  · exact readSeptets_eq (fun c => gsmOctets_lt) (size ▸ septetsToOctets_bits _) stands

/-- The octets of a message behind its front, with the header in place. -/
def blank (sms : SmsSubmit) : Octets :=
  sms.udh ++ List.replicate (152 - (sms.dest.digits.length + 1) / 2 - sms.udh.length) 0

/-- How the text of a message is packed. -/
def pack (sms : SmsSubmit) : Except Stop (Nat × Octets) :=
  wcTo7bit (160 - octetsToSeptets sms.udh.length) (octetsToSeptets sms.udh.length) sms.text 0 sms.blank

theorem udh_short (sms : SmsSubmit) : sms.udh.length ≤ 6 ∧ octetsToSeptets sms.udh.length ≤ 7 := by
  rw [septets_udh, length_udh]
  split <;> decide

theorem length_blank (sms : SmsSubmit) : sms.blank.length = 152 - (sms.dest.digits.length + 1) / 2 := by
  have digits : sms.dest.digits.length < 32 := sms.dest.fits
  have header := sms.udh_short
  unfold blank
  rw [List.length_append, List.length_replicate]
  omega

/-- What becomes of a text in the default alphabet is decided where it is packed. -/
theorem prepare_plain (plain : sms.translatable = true) :
    (∀ stop, sms.pack = .error stop → smsSubmitPrepare sms = .error stop) ∧
      ∀ r, sms.pack = .ok r → septetsToOctets sms.septets ≤ 152 - (sms.dest.digits.length + 1) / 2 →
        ∃ p, smsSubmitPrepare sms = .ok p := by
  have digits : sms.dest.digits.length < 32 := sms.dest.fits
  have header := sms.udh_short
  have packs : sms.pack = wcTo7bit (160 - octetsToSeptets sms.udh.length) (octetsToSeptets sms.udh.length) sms.text 0
    (sms.udh ++ List.replicate (152 - (sms.dest.digits.length + 1) / 2 - sms.udh.length) 0) := rfl
  unfold smsSubmitPrepare
  rw [room_eq]
  dsimp only
  rw [if_neg (by omega), if_pos plain, ← packs]
  constructor
  · intro stop packed
    rw [packed]
    rfl
  · rintro ⟨used, out⟩ packed enough
    obtain ⟨total, -⟩ := wcTo7bit_writes packed
    rw [Nat.zero_add] at total
    subst total
    rw [packed, ok_bind]
    change ∃ p, (if septetsToOctets sms.septets > _ then _ else _) = _
    rw [if_neg (Nat.not_lt.mpr enough)]
    exact ⟨_, rfl⟩

/-- With all octets in place it is only the number of septets that counts. -/
theorem pack_inside (plain : sms.translatable = true) (inside : min sms.septets 160 * 7 / 8 < sms.blank.length) :
    (sms.septets < 160 ∨ sms.septets = 160 ∧ EndsExtended sms.text → ∃ r, sms.pack = .ok r) ∧
      (¬(sms.septets < 160 ∨ sms.septets = 160 ∧ EndsExtended sms.text) → sms.pack = .error .refused) := by
  have header := sms.udh_short
  unfold septets at inside ⊢
  have within : (min (0 + (gsmOctets sms.text).length) (160 - octetsToSeptets sms.udh.length) +
      octetsToSeptets sms.udh.length) * 7 / 8 < sms.blank.length := by omega
  obtain ⟨accepts, refuses⟩ := wcTo7bit_inside (translatable_iff.mp plain) (Nat.zero_le _) within
  have packable : Packable (160 - octetsToSeptets sms.udh.length) 0 sms.text ↔
      octetsToSeptets sms.udh.length + (gsmOctets sms.text).length < 160 ∨
        octetsToSeptets sms.udh.length + (gsmOctets sms.text).length = 160 ∧ EndsExtended sms.text := by
    unfold Packable
    constructor
    · exact Or.imp (by omega) (And.imp_left (by omega))
    · exact Or.imp (by omega) (And.imp_left (by omega))
  rw [packable] at accepts refuses
  exact ⟨accepts, refuses⟩

theorem pack_outside (plain : sms.translatable = true) (outside : sms.blank.length ≤ min sms.septets 160 * 7 / 8) :
    sms.pack = .error .undefined := by
  have header := sms.udh_short
  have digits : sms.dest.digits.length < 32 := sms.dest.fits
  have length := sms.length_blank
  unfold septets at outside
  have beyond : sms.blank.length ≤ (min (0 + (gsmOctets sms.text).length) (160 - octetsToSeptets sms.udh.length) +
      octetsToSeptets sms.udh.length) * 7 / 8 := by omega
  have some : sms.text ≠ [] := by
    intro none
    have codes : (gsmOctets sms.text).length = 0 := none ▸ rfl
    omega
  exact wcTo7bit_outside (translatable_iff.mp plain) some (by omega) beyond

/-- A text in the default alphabet. -/
theorem all_or_nothing_default (plain : sms.translatable = true) : sms.AllOrNothing ↔ sms.Regular := by
  have digits : sms.dest.digits.length < 32 := sms.dest.fits
  have length := sms.length_blank
  obtain ⟨stops, builds⟩ := prepare_plain plain
  have regular : sms.Regular ↔
      min sms.septets 160 * 7 / 8 < sms.blank.length ∧ (sms.septets = 160 → EndsExtended sms.text) := by
    unfold Regular
    rw [if_pos plain]
    exact and_congr_left fun _ => by omega
  have fits : sms.Fits ↔ sms.septets ≤ 160 := by
    unfold Fits
    rw [if_pos plain]
  rw [regular]
  unfold AllOrNothing
  by_cases inside : min sms.septets 160 * 7 / 8 < sms.blank.length
  · obtain ⟨accepts, refuses⟩ := pack_inside plain inside
    by_cases packs : sms.septets < 160 ∨ sms.septets = 160 ∧ EndsExtended sms.text
    · obtain ⟨r, packed⟩ := accepts packs
      have most : sms.septets ≤ 160 := by
        rcases packs with short | ⟨exact, -⟩ <;> omega
      have enough : septetsToOctets sms.septets ≤ 152 - (sms.dest.digits.length + 1) / 2 := by
        unfold septetsToOctets
        split <;> omega
      obtain ⟨p, prepared⟩ := builds r packed enough
      rw [prepared]
      refine iff_of_true (built_default plain prepared) ⟨inside, fun exact => ?_⟩
      rcases packs with short | ⟨-, ends⟩
      · omega
      · exact ends
    · rw [stops _ (refuses packs), fits]
      constructor
      · intro crowded
        exact ⟨inside, fun exact => absurd (Nat.le_of_eq exact) crowded⟩
      · rintro ⟨-, ends⟩ most
        rcases Nat.lt_or_eq_of_le most with short | exact
        · exact packs (.inl short)
        · exact packs (.inr ⟨exact, ends exact⟩)
  · rw [stops _ (pack_outside plain (Nat.not_lt.mp inside))]
    exact iff_of_false id fun ⟨within, _⟩ => inside within

/-- A text in UCS-2 is never refused. -/
theorem prepare_foreign (foreign : sms.translatable = false) : ∃ p, smsSubmitPrepare sms = .ok p := by
  have digits : sms.dest.digits.length < 32 := sms.dest.fits
  have header := sms.udh_short
  unfold smsSubmitPrepare
  rw [room_eq]
  dsimp only
  rw [if_neg (by omega), if_neg (Bool.eq_false_iff.mp foreign)]
  exact ⟨_, rfl⟩

/-- A text in UCS-2. -/
theorem all_or_nothing_ucs2 (foreign : sms.translatable = false) : sms.AllOrNothing ↔ sms.Regular := by
  obtain ⟨p, prepared⟩ := prepare_foreign foreign
  have digits : sms.dest.digits.length < 32 := sms.dest.fits
  have header := sms.udh_short
  have plain := Bool.eq_false_iff.mp foreign
  have pdu := prepare_ucs2 foreign prepared
  dsimp only at pdu
  unfold AllOrNothing Regular Fits Built Holds
  rw [prepared, if_neg plain, if_neg plain]
  dsimp only
  obtain ⟨room, isRoom⟩ : ∃ room, room = 152 - (sms.dest.digits.length + 1) / 2 - sms.udh.length - 1 := ⟨_, rfl⟩
  rw [← isRoom] at pdu
  constructor
  · rintro ⟨⟨narrow, most⟩, tpUdl, data, same, -, -, -, whole⟩
    refine ⟨narrow, most, ?_⟩
    rw [if_neg plain] at whole
    have isData : data = sms.udh ++ iconvUcs2be room sms.text := by
      rw [pdu] at same
      exact (List.cons.inj (List.append_cancel_left same)).2.symm
    obtain ⟨read, -⟩ := units_iconv room narrow
    rw [isData, List.drop_left, read] at whole
    have length := congrArg List.length whole
    rw [List.length_take] at length
    omega
  · rintro ⟨narrow, most, room'⟩
    obtain ⟨read, length⟩ := units_iconv room narrow
    have all : sms.text.take (room / 2) = sms.text := List.take_of_length_le (by omega)
    rw [all] at read length
    have size : (sms.udh ++ iconvUcs2be room sms.text).length = sms.udh.length + 2 * sms.text.length := by
      rw [List.length_append, length]
    refine ⟨⟨narrow, most⟩, _, _, pdu, ?_, ?_, List.prefix_append _ _, ?_⟩
    · rw [pdu]
      exact length_le_maxLen (by omega)
    · omega
    · rw [if_neg plain, List.drop_left]
      exact read

/-- A message is built as a whole or not at all exactly if it is regular. -/
theorem all_or_nothing_iff (sms : SmsSubmit) : sms.AllOrNothing ↔ sms.Regular := by
  cases plain : sms.translatable with
  | true => exact all_or_nothing_default plain
  | false => exact all_or_nothing_ucs2 plain

/-- A text of 160 letters is refused, though it fits. -/
theorem full_text_is_refused : ¬(greeting (List.replicate 160 0x41)).AllOrNothing := by
  have letter : wcToGsm 0x41 = [0x41] := by decide +kernel
  have plain : (greeting (List.replicate 160 0x41)).translatable = true := by
    refine translatable_iff.mpr fun wc member => ?_
    rw [List.eq_of_mem_replicate member, letter]
    exact List.cons_ne_nil _ _
  have alone (text : List Nat) : (greeting text).septets = (gsmOctets text).length := by
    have header : octetsToSeptets (greeting text).udh.length = 0 := by
      rw [septets_udh]
      rfl
    rw [SmsSubmit.septets, header, Nat.zero_add]
    rfl
  have septets : (greeting (List.replicate 160 0x41)).septets = 160 := by
    rw [alone, gsmOctets, List.length_flatMap, List.map_replicate, letter, List.sum_replicate_nat]
    rfl
  rw [all_or_nothing_default plain]
  unfold Regular
  rw [if_pos plain]
  rintro ⟨-, extended⟩
  have two := extended septets 0x41 (by simp [greeting])
  rw [letter] at two
  cases two

/-! ## The validity period -/

/-- The number that is assigned to the octet of the validity period. -/
def validityUnits (sms : SmsSubmit) : Int :=
  let period := sms.validityPeriod
  if period < 300 then 1
  else if period ≤ 43200 then period / 300 - 1
  else if period ≤ 86400 then period / 1800 - 24 + 144
  else if period ≤ 30 * 86400 then period / 86400 - 1 + 168
  else if period ≤ 63 * 7 * 86400 then period / (7 * 86400) - 1 + 197
  else 0xff

theorem validity_eq (sms : SmsSubmit) : sms.validity = UInt8.ofNat sms.validityUnits.toNat := by
  unfold validity validityUnits
  dsimp only
  split_ifs <;> rfl

/-- The seconds that an octet of the relative format stands for. -/
def relativePeriod (octet : UInt8) : Int :=
  let x : Int := octet.toNat
  if x ≤ 143 then (x + 1) * 300
  else if x ≤ 167 then 43200 + (x - 143) * 1800
  else if x ≤ 196 then (x - 166) * 86400
  else (x - 192) * (7 * 86400)

/-- How far two periods lie apart there. -/
def relativeStep (octet : UInt8) : Int :=
  let x := octet.toNat
  if x ≤ 143 then 300 else if x ≤ 167 then 1800 else if x ≤ 196 then 86400 else 7 * 86400

/-- The octet stands for the validity period, rounded down, and for no less than that of a shorter one. -/
structure Valid (sms : SmsSubmit) : Prop where
  most : relativePeriod sms.validity ≤ sms.validityPeriod
  least : sms.validityPeriod - relativeStep sms.validity < relativePeriod sms.validity
  whole : (sms.validity.toNat : Int) = sms.validityUnits
  monotone : ∀ shorter, 300 ≤ shorter → shorter ≤ sms.validityPeriod →
    relativePeriod { sms with validityPeriod := shorter }.validity ≤ relativePeriod sms.validity

/-- Up to twelve hours the period is rounded down to five minutes. -/
theorem validity_short (least : 300 ≤ sms.validityPeriod) (short : sms.validityPeriod ≤ 43200) :
    (sms.validity.toNat : Int) = sms.validityPeriod / 300 - 1 ∧ sms.validityUnits = sms.validityPeriod / 300 - 1 ∧
      relativePeriod sms.validity = sms.validityPeriod / 300 * 300 := by
  have units : sms.validityUnits = sms.validityPeriod / 300 - 1 := by
    unfold validityUnits
    dsimp only
    rw [if_neg (by omega), if_pos short]
  have octet : (sms.validity.toNat : Int) = sms.validityPeriod / 300 - 1 := by
    rw [validity_eq, UInt8.toNat_ofNat', units]
    omega
  refine ⟨octet, units, ?_⟩
  unfold relativePeriod
  dsimp only
  rw [octet, if_pos (by omega)]
  omega

/-- Beyond twelve hours the octet stands for a longer period, or it has wrapped around. -/
theorem validity_long (long : 43200 < sms.validityPeriod) (most : sms.validityPeriod ≤ 63 * 7 * 86400)
    (whole : (sms.validity.toNat : Int) = sms.validityUnits) : sms.validityPeriod < relativePeriod sms.validity := by
  unfold relativePeriod
  dsimp only
  rw [whole]
  have octet := sms.validity.toNat_lt
  unfold validityUnits at whole ⊢
  dsimp only at whole ⊢
  split_ifs at whole ⊢ <;> omega

/-- The octet is right up to twelve hours, and no further. -/
theorem valid_iff (least : 300 ≤ sms.validityPeriod) (most : sms.validityPeriod ≤ 63 * 7 * 86400) :
    sms.Valid ↔ sms.validityPeriod ≤ 43200 := by
  constructor
  · intro valid
    by_contra long
    have more := validity_long (Int.not_le.mp long) most valid.whole
    exact Int.not_lt.mpr valid.most more
  · intro short
    obtain ⟨octet, units, period⟩ := validity_short least short
    refine ⟨by omega, ?_, octet.trans units.symm, ?_⟩
    · have range : sms.validity.toNat ≤ 143 := by omega
      unfold relativeStep
      dsimp only
      rw [if_pos range, period]
      omega
    · intro shorter enough before
      have first : 300 ≤ ({ sms with validityPeriod := shorter } : SmsSubmit).validityPeriod := enough
      have last : ({ sms with validityPeriod := shorter } : SmsSubmit).validityPeriod ≤ 43200 := Int.le_trans before short
      obtain ⟨-, -, period'⟩ := validity_short first last
      rw [period', period]
      dsimp only
      omega

/-- An hour is an hour. -/
theorem an_hour_is_valid : { greeting [] with validityPeriod := 3600 }.Valid :=
  (valid_iff (by decide) (by decide)).mpr (by decide)

/-- A day becomes two. -/
theorem a_day_becomes_two : ¬(greeting []).Valid := by
  intro valid
  exact absurd valid.most (by decide +kernel)

end SmsSubmit

end Vstuff.Vgsm
