import Mathlib.Data.Nat.Bits

/-! The bits of a list of octets, the lowest bit of each octet first, and what changing one octet
does to them. -/
namespace Bits
set_option linter.all false

/-- A bit of some octets; there are none beyond them. -/
def bit (octets : List UInt8) (k : Nat) : Bool := (octets.getD (k / 8) 0).toNat.testBit (k % 8)

/-- Adds bits to an octet; what does not fit in it is lost. -/
def orAt (octets : List UInt8) (i n : Nat) : List UInt8 := octets.modify i (· ||| UInt8.ofNat n)

variable {octets : List UInt8}

@[simp] theorem length_orAt (i n : Nat) : (orAt octets i n).length = octets.length := List.length_modify _ _ _

theorem bit_orAt {i n : Nat} (inside : i < octets.length) (k : Nat) :
    bit (orAt octets i n) k = (bit octets k || (decide (k / 8 = i) && n.testBit (k % 8))) := by
  unfold bit orAt
  rw [List.getD_eq_getElem?_getD, List.getD_eq_getElem?_getD, List.getElem?_modify]
  by_cases here : i = k / 8
  · subst here
    rw [List.getElem?_eq_getElem inside]
    have low : k % 8 < 8 := Nat.mod_lt _ (by decide)
    have kept : (UInt8.ofNat n).toNat.testBit (k % 8) = n.testBit (k % 8) := by
      rw [UInt8.toNat_ofNat', Nat.testBit_mod_two_pow, decide_eq_true low, Bool.true_and]
    simp only [if_true, Option.map_eq_map, Option.map_some, Option.getD_some, UInt8.toNat_or, Nat.testBit_or, kept,
      decide_true, Bool.true_and]
  · have elsewhere : ¬k / 8 = i := fun same => here same.symm
    simp [here, elsewhere]

theorem bit_append_left {front : List UInt8} {k : Nat} (inside : k < 8 * front.length) :
    bit (front ++ octets) k = bit front k := by
  unfold bit
  rw [List.getD_eq_getElem?_getD, List.getElem?_append_left (by omega), List.getD_eq_getElem?_getD]

theorem bit_append_right {front : List UInt8} {k : Nat} (behind : 8 * front.length ≤ k) :
    bit (front ++ octets) k = bit octets (k - 8 * front.length) := by
  unfold bit
  have octet : (k - 8 * front.length) / 8 = k / 8 - front.length := by omega
  have place : (k - 8 * front.length) % 8 = k % 8 := by omega
  rw [List.getD_eq_getElem?_getD, List.getElem?_append_right (by omega), List.getD_eq_getElem?_getD, octet, place]

@[simp] theorem bit_replicate_zero (n k : Nat) : bit (List.replicate n 0) k = false := by
  unfold bit
  rw [List.getD_eq_getElem?_getD, List.getElem?_replicate]
  split <;> simp

theorem bit_take {n k : Nat} (inside : k < 8 * n) : bit (octets.take n) k = bit octets k := by
  unfold bit
  have octet : k / 8 < n := by omega
  rw [List.getD_eq_getElem?_getD, List.getElem?_take_of_lt octet, List.getD_eq_getElem?_getD]

/-- Octets that have the same bits are the same. -/
theorem getD_eq_of_bits {others : List UInt8} {i : Nat} (same : ∀ t < 8, bit octets (8 * i + t) = bit others (8 * i + t)) :
    octets.getD i 0 = others.getD i 0 := by
  apply UInt8.toNat_inj.mp
  apply Nat.eq_of_testBit_eq
  intro t
  by_cases low : t < 8
  · have here := same t low
    unfold bit at here
    have octet : (8 * i + t) / 8 = i := by omega
    have place : (8 * i + t) % 8 = t := by omega
    rw [octet, place] at here
    exact here
  · have none (x : UInt8) : x.toNat.testBit t = false :=
      Nat.testBit_lt_two_pow (Nat.lt_of_lt_of_le x.toNat_lt (Nat.pow_le_pow_right (by decide) (Nat.not_lt.mp low)))
    rw [none, none]

/-- Octets begin with others if they begin with their bits. -/
theorem prefix_of_bits {front : List UInt8} (room : front.length ≤ octets.length)
    (same : ∀ k < 8 * front.length, bit octets k = bit front k) : front <+: octets := by
  refine List.prefix_iff_getElem.mpr ⟨room, fun i inside => ?_⟩
  have equal := getD_eq_of_bits fun t _ => same (8 * i + t) (by omega)
  rw [List.getD_eq_getElem?_getD, List.getD_eq_getElem?_getD, List.getElem?_eq_getElem (by omega),
    List.getElem?_eq_getElem inside] at equal
  exact equal.symm

end Bits
