import Vstuff.Vgsm.Alphabet

/-! Septets packed into octets (`chan_vgsm/7bit.c`) from any septet on: which octets the writer and
the reader touch. An access outside a buffer is undefined, so that a buffer of just as many octets
as the septets need shows whether they keep to them. -/
namespace Vstuff.Vgsm
open Lapd (Octets)
set_option linter.all false

/-- The septets `vgsm_7bit_to_wc` looks up, one after the other. -/
def readSeptets (buf : Octets) (septets offset : Nat) : Except Stop (List UInt8) :=
  (List.range septets).mapM fun i => readSeptet buf (i + offset)

/-- Septets are written into any buffer that has the octets they need and is zero from their first
bit on: their bits are set and no others, and in these octets they are read again. -/
def Packs (codes : List UInt8) (offset : Nat) : Prop :=
  ∀ out : Octets, septetsToOctets (offset + codes.length) ≤ out.length →
    (∀ k, 7 * offset ≤ k → Bits.bit out k = false) →
    ∃ out', writeSeptets codes offset out = .ok out' ∧ out'.length = out.length ∧
      (∀ k < 7 * offset, Bits.bit out' k = Bits.bit out k) ∧
      (∀ i, ∀ there : i < codes.length, ∀ t < 7,
        Bits.bit out' (7 * (offset + i) + t) = codes[i].toNat.testBit t) ∧
      (∀ k, 7 * (offset + codes.length) ≤ k → Bits.bit out' k = false) ∧
      readSeptets (out'.take (septetsToOctets (offset + codes.length))) codes.length offset = .ok codes

/-! ## The octets that are touched -/

/-- The last octet a septet touches must be there, even where none of its bits lie in it. -/
theorem writeSeptet_ok {out : Octets} {septet : Nat} (c : UInt8) (inside : (septet + 1) * 7 / 8 < out.length) :
    ∃ out', writeSeptet out septet c = .ok out' ∧ out'.length = out.length := by
  unfold writeSeptet
  dsimp only
  rw [if_neg (Nat.not_le.mpr inside)]
  split
  · exact ⟨_, rfl, by simp⟩
  · exact ⟨_, rfl, by simp⟩

theorem writeSeptet_outside {out : Octets} {septet : Nat} (c : UInt8) (outside : out.length ≤ (septet + 1) * 7 / 8) :
    writeSeptet out septet c = .error .undefined := by
  unfold writeSeptet
  dsimp only
  rw [if_pos outside]

/-- Of several septets the last one reaches farthest. -/
theorem writeSeptets_ok {codes : List UInt8} {septet : Nat} {out : Octets}
    (inside : (septet + codes.length) * 7 / 8 < out.length) : ∃ out', writeSeptets codes septet out = .ok out' := by
  induction codes generalizing septet out with
  | nil => exact ⟨out, rfl⟩
  | cons c rest ih =>
    rw [List.length_cons] at inside
    obtain ⟨out₁, first, length⟩ := writeSeptet_ok c (by omega : (septet + 1) * 7 / 8 < out.length)
    obtain ⟨out', wrote⟩ := ih (by omega : (septet + 1 + rest.length) * 7 / 8 < out₁.length)
    refine ⟨out', ?_⟩
    rw [writeSeptets, first]
    exact wrote

theorem writeSeptets_outside {codes : List UInt8} {septet : Nat} {out : Octets} (some : codes ≠ [])
    (outside : out.length ≤ (septet + codes.length) * 7 / 8) : writeSeptets codes septet out = .error .undefined := by
  induction codes generalizing septet out with
  | nil => exact absurd rfl some
  | cons c rest ih =>
    rw [List.length_cons] at outside
    rw [writeSeptets]
    by_cases inside : (septet + 1) * 7 / 8 < out.length
    · obtain ⟨out₁, first, length⟩ := writeSeptet_ok c inside
      have more : rest ≠ [] := by
        rintro rfl
        rw [List.length_nil] at outside
        omega
      rw [first]
      exact ih more (by omega)
    · rw [writeSeptet_outside c (Nat.not_lt.mp inside)]
      rfl

/-- Septets that stand in a buffer are read. -/
theorem readSeptets_eq {buf : Octets} {codes : List UInt8} {offset : Nat} (low : ∀ c ∈ codes, c.toNat < 128)
    (inside : 7 * (offset + codes.length) ≤ 8 * buf.length)
    (bits : ∀ i, ∀ there : i < codes.length, ∀ t < 7,
      Bits.bit buf (7 * (offset + i) + t) = codes[i].toNat.testBit t) :
    readSeptets buf codes.length offset = .ok codes := by
  unfold readSeptets
  have each : ∀ i ∈ List.range codes.length, readSeptet buf (i + offset) = .ok (codes.getD i 0) := by
    intro i member
    have there := List.mem_range.mp member
    rw [readSeptet_code low inside bits there, List.getD_eq_getElem?_getD, List.getElem?_eq_getElem there]
    rfl
  rw [mapM_ok each]
  congr 1
  apply List.ext_getElem
  · simp
  · intro i _ there
    simp [List.getElem?_eq_getElem there]

/-! ## Packing -/

theorem septetBits_after {codes : List UInt8} (low : ∀ c ∈ codes, c.toNat < 128) {septet k : Nat}
    (behind : 7 * (septet + codes.length) ≤ k) : septetBits codes septet k = false := by
  induction codes generalizing septet with
  | nil => rfl
  | cons c rest ih =>
    rw [List.length_cons] at behind
    rw [septetBits, testBit_septet (low c List.mem_cons_self) (by omega), Bool.and_false, Bool.false_or]
    exact ih (fun c member => low c (List.mem_cons_of_mem _ member)) (by omega)

/-- The octets septets need are as many as they fill in part. -/
theorem lt_septetsToOctets_iff (septets : Nat) :
    septets * 7 / 8 < septetsToOctets septets ↔ septets % 8 ≠ 0 := by
  unfold septetsToOctets
  split <;> omega

variable {codes : List UInt8} {offset : Nat}

/-- Septets that keep to their octets are packed as they should be. -/
theorem packs_of_phase (low : ∀ c ∈ codes, c.toNat < 128) (phase : codes = [] ∨ (offset + codes.length) % 8 ≠ 0) :
    Packs codes offset := by
  intro out room zero
  have wrote : ∃ out', writeSeptets codes offset out = .ok out' := by
    rcases phase with rfl | phase
    · exact ⟨out, rfl⟩
    · have inside := (lt_septetsToOctets_iff _).mpr phase
      exact writeSeptets_ok (by omega)
  obtain ⟨out', wrote⟩ := wrote
  obtain ⟨length, bits⟩ := writeSeptets_bits low wrote
  have enough := septetsToOctets_bits (offset + codes.length)
  have stands : ∀ i, ∀ there : i < codes.length, ∀ t < 7,
      Bits.bit out' (7 * (offset + i) + t) = codes[i].toNat.testBit t := by
    intro i there t small
    rw [bits, zero _ (by omega), Bool.false_or, septetBits_at low there offset small]
  refine ⟨out', wrote, length, fun k before => ?_, stands, fun k behind => ?_, ?_⟩
  · rw [bits, septetBits_before before, Bool.or_false]
  · rw [bits, zero k (by omega), septetBits_after low behind]
    rfl
  · apply readSeptets_eq low
    · rw [List.length_take, length]
      omega
    · intro i there t small
      rw [Bits.bit_take (by omega)]
      exact stands i there t small

/-- Septets are packed as they should be unless the last of them is the eighth of its group. -/
theorem packs_iff (low : ∀ c ∈ codes, c.toNat < 128) :
    Packs codes offset ↔ codes = [] ∨ (offset + codes.length) % 8 ≠ 0 := by
  refine ⟨fun packs => ?_, packs_of_phase low⟩
  by_contra phase
  obtain ⟨some, whole⟩ := not_or.mp phase
  have touched : septetsToOctets (offset + codes.length) ≤ (offset + codes.length) * 7 / 8 :=
    Nat.not_lt.mp (mt (lt_septetsToOctets_iff _).mp whole)
  -- a buffer that ends with the last bit of the last septet
  obtain ⟨out', wrote, -⟩ := packs (List.replicate (septetsToOctets (offset + codes.length)) 0) (by simp)
    (fun k _ => Bits.bit_replicate_zero _ k)
  rw [writeSeptets_outside some (by simpa using touched)] at wrote
  cases wrote

/-- Three septets behind a header of six octets. -/
theorem three_septets_pack : Packs [72, 105, 33] 7 := (packs_iff (by simp)).mpr (.inr (by decide))

/-- Eight septets fill seven octets, and the eighth octet is touched. -/
theorem eight_septets_do_not_pack : ¬Packs (List.replicate 8 0) 0 := by
  intro packs
  obtain ⟨out', wrote, -⟩ := packs (List.replicate 7 0) (by decide) fun k _ => Bits.bit_replicate_zero 7 k
  cases wrote

end Vstuff.Vgsm
