import Mathlib.Logic.Function.Basic
import Vstuff.Vgsm.SmsSubmit

/-! The digits of a number as semi-octets (`chan_vgsm/bcd.c`): which texts come back, and where the
characters are stored. -/
namespace Vstuff.Vgsm
open Lapd (Octets)
set_option linter.all false

/-- The characters that have a semi-octet of their own; the one of `d` is the filler. -/
def semioctetCharacters : Octets := [48, 49, 50, 51, 52, 53, 54, 55, 56, 57, 42, 35, 97, 98, 99]

/-- The semi-octet of an octet that is the `i`-th of all. -/
def nibble (octet : UInt8) (i : Nat) : Nat := if i % 2 ≠ 0 then octet.toNat / 16 else octet.toNat % 16

/-- `vgsm_bcd_to_text` with the octets of `buf` and the memory at `str`: what it returns, and the
memory behind it. Without room it returns -1, which is none here. -/
def bcdToTextStores (buf : Nat → UInt8) (strLen : Nat) : Nat → Nat → Nat → (Nat → UInt8) → Option Nat × (Nat → UInt8)
  | 0, _, pos, str => (some pos, Function.update str pos 0)
  | left + 1, i, pos, str =>
    if nibble (buf (i / 2)) i ≠ 0xf then
      if pos ≥ strLen - 1 then (none, str)
      else bcdToTextStores buf strLen left (i + 1) (pos + 1)
        (Function.update str pos (bcdToChar (nibble (buf (i / 2)) i)))
    else bcdToTextStores buf strLen left (i + 1) pos str

/-- The characters of a number are its text again: the octets that `vgsm_text_to_bcd` writes are
read, with as many nibbles as there are characters. It never reports an error. -/
def ComesBack (s : Octets) : Prop := bcdToText (textToBcd s) 0 digitsSize s.length 0 [] = .ok s

/-- Nothing is stored behind the memory of the text. -/
def StoresInside (buf : Nat → UInt8) (strLen nibbles : Nat) : Prop :=
  ∀ str, ∀ j ≥ strLen, (bcdToTextStores buf strLen nibbles 0 0 str).2 j = str j

/-! ## Where the characters are stored -/

theorem stores_inside {buf : Nat → UInt8} {strLen : Nat} (room : 0 < strLen) (left : Nat) :
    ∀ (i pos : Nat) (str : Nat → UInt8), pos < strLen →
      ∀ j ≥ strLen, (bcdToTextStores buf strLen left i pos str).2 j = str j := by
  induction left with
  | zero =>
    intro i pos str inside j beyond
    have elsewhere : j ≠ pos := by omega
    exact Function.update_of_ne elsewhere _ _
  | succ left ih =>
    intro i pos str inside j beyond
    rw [bcdToTextStores]
    split_ifs with digit full
    · rfl
    · have elsewhere : j ≠ pos := by omega
      rw [ih (i + 1) (pos + 1) _ (by omega) j beyond, Function.update_of_ne elsewhere]
    · exact ih (i + 1) pos str inside j beyond

section Reading
variable {pdu : Octets} {start strLen left i : Nat} {octet : UInt8} {text : Octets}

theorem bcdToText_succ (read : octetAt pdu (start + i / 2) = .ok octet) :
    bcdToText pdu start strLen (left + 1) i text =
      if nibble octet i ≠ 0xf then
        if text.length ≥ strLen - 1 then .error .refused
        else bcdToText pdu start strLen left (i + 1) (text ++ [bcdToChar (nibble octet i)])
      else bcdToText pdu start strLen left (i + 1) text := by
  rw [bcdToText, read]
  rfl

end Reading

/-- A character is stored behind those that are there. -/
theorem stored_append {str : Nat → UInt8} {text : Octets} (c : UInt8)
    (stored : ∀ j, ∀ there : j < text.length, str j = text[j]) :
    ∀ j, ∀ there : j < (text ++ [c]).length, Function.update str text.length c j = (text ++ [c])[j] := by
  intro j there
  rw [List.length_append, List.length_singleton] at there
  by_cases before : j < text.length
  · rw [Function.update_of_ne (Nat.ne_of_lt before), stored j before, List.getElem_append_left before]
  · obtain rfl : j = text.length := by omega
    simp

/-- What is read is stored, with its terminator. -/
theorem bcdToText_stores {pdu : Octets} {start strLen : Nat} (left : Nat) :
    ∀ (i : Nat) (text : Octets) (str : Nat → UInt8), start + (i + left + 1) / 2 ≤ pdu.length →
      (∀ j, ∀ there : j < text.length, str j = text[j]) →
      match bcdToText pdu start strLen left i text with
      | .ok text' => ∃ str', bcdToTextStores (fun k => pdu.getD (start + k) 0) strLen left i text.length str =
          (some text'.length, str') ∧ (∀ j, ∀ there : j < text'.length, str' j = text'[j]) ∧ str' text'.length = 0
      | .error .refused => (bcdToTextStores (fun k => pdu.getD (start + k) 0) strLen left i text.length str).1 = none
      | .error .undefined => False := by
  induction left with
  | zero =>
    intro i text str inside stored
    refine ⟨_, rfl, fun j there => ?_, Function.update_self ..⟩
    rw [Function.update_of_ne (Nat.ne_of_lt there), stored j there]
  | succ left ih =>
    intro i text str inside stored
    have here : start + i / 2 < pdu.length := by omega
    have read : octetAt pdu (start + i / 2) = .ok (pdu.getD (start + i / 2) 0) := by
      unfold octetAt
      rw [List.getD_eq_getElem?_getD, List.getElem?_eq_getElem here]
      rfl
    rw [bcdToText_succ read, bcdToTextStores]
    obtain ⟨bcd, isBcd⟩ : ∃ bcd, bcd = nibble (pdu.getD (start + i / 2) 0) i := ⟨_, rfl⟩
    rw [← isBcd]
    by_cases digit : bcd ≠ 0xf
    · rw [if_pos digit, if_pos digit]
      by_cases full : text.length ≥ strLen - 1
      · rw [if_pos full, if_pos full]
      · rw [if_neg full, if_neg full]
        have further := ih (i + 1) (text ++ [bcdToChar bcd]) _ (by omega) (stored_append (bcdToChar bcd) stored)
        rw [List.length_append, List.length_singleton] at further
        exact further
    · rw [if_neg digit, if_neg digit]
      exact ih (i + 1) text str (by omega) stored

/-! ## Which texts come back -/

/-- The characters and their semi-octets, looked up. -/
theorem semioctets :
    (∀ c ∈ semioctetCharacters,
      (charToBcd c).toNat < 16 ∧ (charToBcd c).toNat ≠ 0xf ∧ bcdToChar (charToBcd c).toNat = c) ∧
    ∀ bcd < 15, bcdToChar bcd ∈ semioctetCharacters := by
  rw [← List.forall_iff_forall_mem]
  decide +kernel

theorem charToBcd_lt : ∀ c ∈ semioctetCharacters, (charToBcd c).toNat < 16 :=
  fun c known => (semioctets.1 c known).1

theorem bcdToChar_charToBcd : ∀ c ∈ semioctetCharacters,
    (charToBcd c).toNat ≠ 0xf ∧ bcdToChar (charToBcd c).toNat = c :=
  fun c known => (semioctets.1 c known).2

theorem bcdToChar_mem : ∀ bcd < 15, bcdToChar bcd ∈ semioctetCharacters := semioctets.2

/-- The halves of an octet that is put together of two. -/
theorem nibble_packed {low high : UInt8} (small : low.toNat < 16) (fits : high.toNat < 16) :
    nibble (low ||| high <<< 4) 0 = low.toNat ∧ nibble (low ||| high <<< 4) 1 = high.toNat := by
  have shifted : (high <<< 4).toNat = high.toNat <<< 4 := by
    rw [UInt8.toNat_shiftLeft]
    refine Nat.mod_eq_of_lt ?_
    rw [Nat.shiftLeft_eq]
    show high.toNat * 16 < 256
    omega
  have whole : (low ||| high <<< 4).toNat = high.toNat * 16 + low.toNat := by
    rw [UInt8.toNat_or, shifted, Nat.or_comm, ← Nat.shiftLeft_add_eq_or_of_lt (show low.toNat < 2 ^ 4 from small),
      Nat.shiftLeft_eq]
  unfold nibble
  rw [whole, if_neg (by decide), if_pos (by decide)]
  omega

/-- Two characters share an octet, and each has its half of it. -/
theorem pair_nibbles : ∀ low ∈ semioctetCharacters, ∀ high ∈ semioctetCharacters,
    nibble (charToBcd low ||| charToBcd high <<< 4) 0 = (charToBcd low).toNat ∧
      nibble (charToBcd low ||| charToBcd high <<< 4) 1 = (charToBcd high).toNat :=
  fun low known high other => nibble_packed (charToBcd_lt low known) (charToBcd_lt high other)

/-- The first one has the low half. -/
example : nibble 0x21 0 = 1 ∧ nibble 0x21 1 = 2 := by decide +kernel

/-- The filler is the half of the last octet that no character has. -/
theorem last_nibble : ∀ digit ∈ semioctetCharacters, nibble (charToBcd digit ||| 0xf0) 0 = (charToBcd digit).toNat :=
  fun digit known => (nibble_packed (charToBcd_lt digit known) (show (15 : UInt8).toNat < 16 by decide)).1

theorem nibble_lt (octet : UInt8) (i : Nat) : nibble octet i < 16 := by
  have small := octet.toNat_lt
  unfold nibble
  split <;> omega

theorem nibble_add_two (octet : UInt8) (i : Nat) : nibble octet (i + 2) = nibble octet i := by
  unfold nibble
  rw [Nat.add_mod_right]

/-- The semi-octet of each character is where it is looked for. -/
theorem textToBcd_nibble (s : Octets) (known : ∀ c ∈ s, c ∈ semioctetCharacters) :
    ∀ i, ∀ there : i < s.length, ∃ octet, octetAt (textToBcd s) (0 + i / 2) = .ok octet ∧
      nibble octet i = (charToBcd s[i]).toNat := by
  induction s using textToBcd.induct with
  | case1 => exact fun i there => absurd there (Nat.not_lt_zero i)
  | case2 digit =>
    intro i there
    obtain rfl : i = 0 := by
      rw [List.length_singleton] at there
      omega
    exact ⟨_, rfl, last_nibble digit (known digit List.mem_cons_self)⟩
  | case3 low high rest ih =>
    obtain ⟨isLow, known⟩ := List.forall_mem_cons.mp known
    obtain ⟨isHigh, known⟩ := List.forall_mem_cons.mp known
    obtain ⟨first, second⟩ := pair_nibbles low isLow high isHigh
    intro i there
    match i with
    | 0 => exact ⟨_, rfl, first⟩
    | 1 => exact ⟨_, rfl, second⟩
    | i + 2 =>
      obtain ⟨octet, read, same⟩ := ih known i (by
        simp only [List.length_cons] at there
        omega)
      refine ⟨octet, ?_, (nibble_add_two octet i).trans same⟩
      have half : 0 + (i + 2) / 2 = 0 + i / 2 + 1 := by omega
      rw [half]
      exact read

/-- Only characters that have a semi-octet are ever read. -/
theorem bcdToText_mem {pdu : Octets} {start strLen left i : Nat} {text text' : Octets}
    (read : bcdToText pdu start strLen left i text = .ok text') (known : ∀ c ∈ text, c ∈ semioctetCharacters) :
    ∀ c ∈ text', c ∈ semioctetCharacters := by
  induction left generalizing i text with
  | zero =>
    cases read
    exact known
  | succ left ih =>
    cases octet : octetAt pdu (start + i / 2) with
    | error stop =>
      rw [bcdToText, octet] at read
      cases read
    | ok octet' =>
      rw [bcdToText_succ octet] at read
      split_ifs at read with digit full
      · refine ih read fun c member => ?_
        rcases List.mem_append.mp member with old | new
        · exact known c old
        · rw [List.mem_singleton.mp new]
          have small := nibble_lt octet' i
          exact bcdToChar_mem _ (by omega)
      · exact ih read known

/-- Each character is read behind those before it. -/
theorem bcdToText_textToBcd {s : Octets} (known : ∀ c ∈ s, c ∈ semioctetCharacters) (short : s.length ≤ 31)
    (left : Nat) : ∀ i, i + left = s.length →
      bcdToText (textToBcd s) 0 digitsSize left i (s.take i) = .ok s := by
  induction left with
  | zero =>
    intro i whole
    rw [bcdToText, List.take_of_length_le (by omega)]
  | succ left ih =>
    intro i whole
    have there : i < s.length := by omega
    obtain ⟨octet, read, same⟩ := textToBcd_nibble s known i there
    obtain ⟨digit, back⟩ := bcdToChar_charToBcd s[i] (known _ (List.getElem_mem there))
    have room : ¬(s.take i).length ≥ digitsSize - 1 := by
      unfold digitsSize
      rw [List.length_take]
      omega
    rw [bcdToText_succ read, same, if_pos digit, if_neg room, back, List.take_append_getElem there]
    exact ih (i + 1) (by omega)

/-- A number comes back exactly if each of its characters has a semi-octet of its own; and whatever
is read, it is stored inside its memory. -/
theorem number_comes_back_iff {s : Octets} (short : s.length ≤ 31) :
    (ComesBack s ∧ ∀ buf strLen nibbles, 0 < strLen → StoresInside buf strLen nibbles) ↔
      ∀ c ∈ s, c ∈ semioctetCharacters := by
  constructor
  · rintro ⟨back, -⟩
    exact bcdToText_mem back fun c none => absurd none List.not_mem_nil
  · intro known
    exact ⟨bcdToText_textToBcd known short s.length 0 (Nat.zero_add _),
      fun buf strLen nibbles room str => stores_inside room nibbles 0 0 str room⟩

/-- `*100#` comes back. -/
theorem service_code_comes_back : ComesBack [42, 49, 48, 48, 35] :=
  ((number_comes_back_iff (by decide)).mpr (by simp [semioctetCharacters])).1

/-- `1+2` becomes `1#2`: the plus sign has no semi-octet. -/
theorem plus_sign_does_not_come_back : ¬ComesBack [49, 43, 50] := by
  intro back
  exact absurd (bcdToText_mem back fun c none => absurd none List.not_mem_nil) (by decide)

end Vstuff.Vgsm
