import Vstuff.Lib.Machine
import Mathlib.Order.Interval.Set.LinearOrder
import Mathlib.Order.Interval.Set.Disjoint
import Mathlib.Algebra.GroupWithZero.Nat
import Mathlib.Algebra.Ring.Int.Defs
import Mathlib.Data.Int.ConditionallyCompleteOrder
import Mathlib.Order.CompletePartialOrder
import Mathlib.Order.ConditionallyCompleteLattice.Indexed

/-! The packet buffers of user space (`libskb/libskb.c`), where pointers have eight octets and an `int`
four. Pointers are places in the block that was allocated. -/
namespace Vstuff.Libskb
open Transition
set_option linter.all false

/-! ## Integers of C -/

/-- A number as an `unsigned int`. -/
def unsigned (x : Int) : Int := x % 2 ^ 32

/-- A number as an `int`. -/
def signed (x : Int) : Int := x.bmod (2 ^ 32)

/-- The values of an `int`. -/
def IsInt (x : Int) : Prop := -2 ^ 31 ≤ x ∧ x < 2 ^ 31

theorem signed_eq {x : Int} (int : IsInt x) : signed x = x := by
  obtain ⟨low, high⟩ := int
  exact Int.bmod_eq_of_le (by omega) (by omega)

/-! ## The buffer -/

/-- `sizeof(struct sk_buff)` -/
def sizeofSkBuff : Int := 56

/-- struct sk_buff -/
structure SkBuff where
  size : Int
  data : Int
  tail : Int
  «end» : Int
  len : Int

/-- How many octets `alloc_skb` asks for, as a `size_t`. -/
def blockSize (size : Int) : Int := (sizeofSkBuff + size) % 2 ^ 64

/-- `alloc_skb`; adding to a pointer to a buffer counts buffers. There is no block of half the memory
that can be addressed. -/
def allocSkb (size : Int) : Option SkBuff :=
  if blockSize size ≥ 2 ^ 63 then none
  else
    let data := sizeofSkBuff * sizeofSkBuff
    some { size, data, tail := data, «end» := data + size, len := 0 }

/-- `skb_trim` -/
def skbTrim (skb : SkBuff) (len : UInt32) : SkBuff :=
  if unsigned skb.len > len.toNat then { skb with len := signed len.toNat, tail := skb.data + len.toNat } else skb

/-- `skb_tailroom` -/
def skbTailroom (skb : SkBuff) : Int := signed (skb.end - skb.tail)

/-- `skb_put`: where the octets begin that it returns. -/
def skbPut (skb : SkBuff) (len : UInt32) : Option Int × SkBuff :=
  if unsigned (skb.len + len.toNat) > unsigned skb.size then (none, skb)
  else (some skb.tail, { skb with tail := skb.tail + len.toNat, len := signed (skb.len + len.toNat) })

/-! ## A buffer in use -/

/-- Octets that `skb_put` has returned. -/
structure Region where
  start : Int
  len : Nat

def Region.octets (region : Region) : Set Int := Set.Ico region.start (region.start + region.len)

/-- A buffer, and what was returned of it since it was last trimmed. -/
structure Use where
  skb : SkBuff
  regions : List Region := []

inductive Op where
  | put (len : UInt32)
  | trim (len : UInt32)
  deriving DecidableEq, Repr

namespace Use

def step (use : Use) : Op → Option Use
  | .put len =>
    match skbPut use.skb len with
    | (none, skb) => some { use with skb }
    | (some start, skb) => some { skb, regions := use.regions ++ [⟨start, len.toNat⟩] }
  | .trim len => some { skb := skbTrim use.skb len }

/-- The pointers are in order and agree with the length, and what was returned is in the block, behind
the header, and apart from each other. -/
structure Sound (size : Int) (use : Use) : Prop where
  ordered : use.skb.data ≤ use.skb.tail ∧ use.skb.tail ≤ use.skb.end
  tail : use.skb.tail = use.skb.data + use.skb.len
  bounded : 0 ≤ use.skb.len ∧ use.skb.len ≤ size
  tailroom : skbTailroom use.skb = size - use.skb.len
  inside : ∀ region ∈ use.regions, region.octets ⊆ Set.Ico sizeofSkBuff (blockSize size)
  apart : use.regions.Pairwise fun r t => Disjoint r.octets t.octets
  refusal : ∀ len, (skbPut use.skb len).1 = none → (skbPut use.skb len).2 = use.skb

/-- What does not depend on how much is asked for: the limits of the buffer, and that whatever was
returned ends before the tail. -/
structure Shaped (size : Int) (use : Use) : Prop where
  whole : use.skb.size = size
  data : use.skb.data = sizeofSkBuff * sizeofSkBuff
  «end» : use.skb.end = use.skb.data + size
  before : ∀ region ∈ use.regions, region.start + region.len ≤ use.skb.tail

/-- The length does not wrap, and octets that are returned are in the block: the data begin where
another 56 buffers would end. -/
def Fits (size : Int) (use : Use) : Op → Prop
  | .put len => use.skb.len + len.toNat < 2 ^ 32 ∧ (use.skb.len + len.toNat ≤ size → len = 0 ∨
      sizeofSkBuff * sizeofSkBuff + use.skb.len + len.toNat ≤ sizeofSkBuff + size)
  | .trim _ => True

/-! ## What keeps a buffer sound -/

section Soundness
variable {size : Int} {use next : Use} {op : Op}

/-- A buffer that is refused octets is left as it was. -/
theorem skbPut_refused (skb : SkBuff) (len : UInt32) (refused : (skbPut skb len).1 = none) : (skbPut skb len).2 = skb := by
  unfold skbPut at refused ⊢
  split_ifs at refused ⊢ with full
  rfl

theorem allocSkb_eq {skb : SkBuff} (allocated : allocSkb size = some skb) :
    skb = ⟨size, sizeofSkBuff * sizeofSkBuff, sizeofSkBuff * sizeofSkBuff, sizeofSkBuff * sizeofSkBuff + size, 0⟩ := by
  unfold allocSkb at allocated
  split_ifs at allocated
  exact (Option.some.inj allocated).symm

theorem start_shaped {skb : SkBuff} (allocated : allocSkb size = some skb) : Shaped size { skb } := by
  rw [allocSkb_eq allocated]
  exact ⟨rfl, rfl, rfl, nofun⟩

theorem start_sound_iff {skb : SkBuff} (allocated : allocSkb size = some skb) (int : IsInt size) :
    Sound size { skb } ↔ 0 ≤ size := by
  rw [allocSkb_eq allocated]
  refine ⟨fun sound => sound.bounded.2, fun positive => ?_⟩
  refine ⟨⟨Int.le_refl _, Int.le_add_of_nonneg_right positive⟩, (Int.add_zero _).symm, ⟨Int.le_refl 0, positive⟩, ?_, nofun,
    List.Pairwise.nil, skbPut_refused _⟩
  have room : sizeofSkBuff * sizeofSkBuff + size - sizeofSkBuff * sizeofSkBuff = size := by omega
  rw [skbTailroom, room, signed_eq int]
  exact (Int.sub_zero size).symm

theorem step_shaped (shaped : Shaped size use) (took : use.step op = some next) : Shaped size next := by
  obtain ⟨whole, data, last, before⟩ := shaped
  cases op with
  | put len =>
    simp only [step, skbPut] at took
    split_ifs at took with full
    · cases took
      exact ⟨whole, data, last, before⟩
    · cases took
      refine ⟨whole, data, last, fun region member => ?_⟩
      rcases List.mem_append.mp member with earlier | new
      · have ends := before region earlier
        dsimp only
        omega
      · obtain rfl := List.mem_singleton.mp new
        exact Int.le_refl _
  | trim len =>
    cases took
    unfold skbTrim
    split
    · exact ⟨whole, data, last, nofun⟩
    · exact ⟨whole, data, last, nofun⟩

/-- A sound buffer has a length that is an `int` and not negative. -/
theorem Sound.unsigned_len (sound : Sound size use) (int : IsInt size) : unsigned use.skb.len = use.skb.len := by
  have bounded := sound.bounded
  have small := int.2
  unfold unsigned
  omega

theorem block_eq (int : IsInt size) (positive : 0 ≤ size) : blockSize size = sizeofSkBuff + size := by
  have small := int.2
  unfold blockSize sizeofSkBuff
  omega

/-- A buffer of which more octets are returned. -/
def granted (use : Use) (len : UInt32) : Use where
  skb := { use.skb with tail := use.skb.tail + len.toNat, len := use.skb.len + len.toNat }
  regions := use.regions ++ [⟨use.skb.tail, len.toNat⟩]

theorem Sound.granted_iff (sound : Sound size use) (shaped : Shaped size use) (int : IsInt size) {len : UInt32}
    (room : use.skb.len + len.toNat ≤ size) : Sound size (use.granted len) ↔
      len = 0 ∨ sizeofSkBuff * sizeofSkBuff + use.skb.len + len.toNat ≤ sizeofSkBuff + size := by
  have bounded := sound.bounded
  have positive : 0 ≤ size := Int.le_trans bounded.1 bounded.2
  have ordered := sound.ordered
  have tail := sound.tail
  have data := shaped.data
  have last := shaped.end
  have block := block_eq int positive
  have header : sizeofSkBuff = 56 := rfl
  have headers : sizeofSkBuff * sizeofSkBuff = 3136 := rfl
  constructor
  · intro held
    by_cases none : len = 0
    · exact .inl none
    · have some : len.toNat ≠ 0 := fun zero => none (UInt32.toNat_inj.mp zero)
      have inside : Set.Ico use.skb.tail (use.skb.tail + len.toNat) ⊆ Set.Ico sizeofSkBuff (blockSize size) :=
        held.inside ⟨use.skb.tail, len.toNat⟩ (List.mem_append_right _ (List.mem_singleton.mpr rfl))
      have ends := ((Set.Ico_subset_Ico_iff (by omega)).mp inside).2
      exact .inr (by omega)
  · intro fits
    refine ⟨⟨?_, ?_⟩, ?_, ⟨?_, room⟩, ?_, ?_, ?_, skbPut_refused _⟩
    · simp only [granted]
      omega
    · simp only [granted]
      omega
    · simp only [granted]
      omega
    · simp only [granted]
      omega
    · have left : use.skb.end - (use.skb.tail + len.toNat) = size - (use.skb.len + len.toNat) := by omega
      have small := int.2
      simp only [granted, skbTailroom]
      rw [left, signed_eq ⟨by omega, by omega⟩]
    · intro region member
      rcases List.mem_append.mp member with earlier | new
      · exact sound.inside region earlier
      · obtain rfl := List.mem_singleton.mp new
        rcases fits with rfl | fits
        · simp [Region.octets]
        · refine Set.Ico_subset_Ico ?_ ?_
          · dsimp only
            omega
          · dsimp only
            omega
    · refine List.pairwise_append.mpr ⟨sound.apart, List.pairwise_singleton _ _, fun region member new last => ?_⟩
      obtain rfl := List.mem_singleton.mp last
      exact Set.Ico_disjoint_Ico.mpr (le_trans (min_le_left _ _) (le_trans (shaped.before region member) (le_max_right _ _)))

/-- Where `skb_put` does not refuse, it has wrapped or there is room. -/
theorem Sound.put_iff (sound : Sound size use) (shaped : Shaped size use) (int : IsInt size) (len : UInt32) :
    (∀ next, use.step (.put len) = some next → Sound size next) ↔ Fits size use (.put len) := by
  have bounded := sound.bounded
  have small := int.2
  have word := len.toNat_lt
  have whole : unsigned use.skb.size = size := by
    rw [shaped.whole]
    unfold unsigned
    omega
  by_cases wraps : use.skb.len + len.toNat < 2 ^ 32
  · have asked : unsigned (use.skb.len + len.toNat) = use.skb.len + len.toNat := by
      unfold unsigned
      omega
    simp only [step, skbPut, asked, whole, Fits]
    by_cases full : use.skb.len + len.toNat > size
    · rw [if_pos full]
      refine ⟨fun _ => ⟨wraps, fun room => absurd room (Int.not_le.mpr full)⟩, ?_⟩
      rintro - next ⟨⟩
      exact sound
    · rw [if_neg full]
      have room : use.skb.len + len.toNat ≤ size := Int.not_lt.mp full
      have kept : signed (use.skb.len + len.toNat) = use.skb.len + len.toNat := signed_eq ⟨by omega, by omega⟩
      rw [kept, and_iff_right wraps, imp_iff_right room, ← sound.granted_iff shaped int room]
      exact ⟨fun all => all _ rfl, by rintro held next ⟨⟩; exact held⟩
  · -- the sum is shorter than the buffer again
    have asked : unsigned (use.skb.len + len.toNat) = use.skb.len + len.toNat - 2 ^ 32 := by
      unfold unsigned
      omega
    refine iff_of_false (fun all => ?_) fun fits => wraps fits.1
    have room : ¬use.skb.len + len.toNat - 2 ^ 32 > size := by omega
    have took : use.step (.put len) = some {
        skb := { use.skb with tail := use.skb.tail + len.toNat, len := signed (use.skb.len + len.toNat) }
        regions := use.regions ++ [⟨use.skb.tail, len.toNat⟩] } := by
      simp only [step, skbPut, asked, whole, if_neg room]
    have after := all _ took
    have ordered := after.ordered.2
    have tail := sound.tail
    have last := shaped.end
    dsimp only at ordered
    omega

theorem Sound.trim (sound : Sound size use) (shaped : Shaped size use) (int : IsInt size) {len : UInt32}
    (took : use.step (.trim len) = some next) : Sound size next := by
  have bounded := sound.bounded
  have small := int.2
  have data := shaped.data
  have last := shaped.end
  have length := sound.unsigned_len int
  cases took
  unfold skbTrim
  split
  · next shorter =>
    have below : (len.toNat : Int) < use.skb.len := length ▸ shorter
    have kept : signed (len.toNat : Int) = len.toNat := signed_eq ⟨by omega, by omega⟩
    rw [kept]
    refine ⟨⟨?_, ?_⟩, rfl, ⟨?_, ?_⟩, ?_, nofun, List.Pairwise.nil, skbPut_refused _⟩
    · dsimp only
      omega
    · dsimp only
      omega
    · exact Int.natCast_nonneg _
    · dsimp only
      omega
    · have left : use.skb.end - (use.skb.data + len.toNat) = size - len.toNat := by omega
      rw [skbTailroom, left, signed_eq ⟨by omega, by omega⟩]
  · exact { sound with inside := nofun, apart := List.Pairwise.nil }

theorem step_sound_iff (sound : Sound size use) (shaped : Shaped size use) (int : IsInt size) (op : Op) :
    (∀ next, use.step op = some next → Sound size next) ↔ Fits size use op := by
  cases op with
  | put len => exact sound.put_iff shaped int len
  | trim len => exact ⟨fun _ => trivial, fun _ next took => sound.trim shaped int took⟩

end Soundness

/-- The buffer stays sound exactly in the runs in which it is not asked for more octets than there are
behind the place where its data begin. -/
theorem sound_iff {size : Int} (int : IsInt size) {skb : SkBuff} (allocated : allocSkb size = some skb) (ops : List Op) :
    (∀ before, before <+: ops → ∀ use, Run step Any { skb } before use → Sound size use) ↔
      0 ≤ size ∧ Throughout step (Fits size) { skb } ops := by
  have run (sound : Sound size { skb }) :
      (∀ before, before <+: ops → ∀ use, Run step Any { skb } before use → Sound size use) ↔
        Throughout step (Fits size) { skb } ops :=
    good_iff (Shaped size) (Sound size) (fun shaped sound => step_sound_iff sound shaped int _) step_shaped ops
      (start_shaped allocated) sound
  have start := start_sound_iff allocated int
  constructor
  · intro held
    have sound : Sound size { skb } := held [] (List.nil_prefix) _ (.nil _)
    exact ⟨start.mp sound, (run sound).mp held⟩
  · rintro ⟨positive, fits⟩
    exact (run (start.mpr positive)).mpr fits

/-- Of a buffer of 4096 octets the first are in the block. -/
theorem first_octets_are_inside : ∃ skb, allocSkb 4096 = some skb ∧
    ∀ before, before <+: [.put 100, .trim 20] → ∀ use, Run step Any { skb } before use → Sound 4096 use := by
  refine ⟨_, rfl, (sound_iff ⟨by decide, by decide⟩ rfl _).mpr ⟨by decide, ?_⟩⟩
  exact ⟨⟨by decide, fun _ => .inr (by decide)⟩, trivial, trivial⟩

/-- Of a buffer of 4096 octets the last are behind the block. -/
theorem whole_buffer_is_outside : ∃ skb, allocSkb 4096 = some skb ∧
    ¬∀ before, before <+: [.put 4096] → ∀ use, Run step Any { skb } before use → Sound 4096 use := by
  refine ⟨_, rfl, fun held => ?_⟩
  have outside := held _ (List.prefix_refl _) _ (.cons trivial rfl (.nil _))
  have last : (7231 : Int) ∈ Set.Ico sizeofSkBuff (blockSize 4096) :=
    outside.inside ⟨3136, 4096⟩ (List.mem_singleton.mpr rfl) ⟨by decide, by decide⟩
  exact absurd last.2 (by decide)

end Use
end Vstuff.Libskb
