import Vstuff.Lib.Cyclic
import Mathlib.Logic.Function.Basic
import Mathlib.Tactic.SplitIfs

/-! The arithmetic of the FIFOs of the three HFC drivers (`fifo_inline.h` of `modules/hfc-4s`,
`modules/hfc-e1` and `modules/hfc-pci`), with the integers of C: sums and differences are made in an
`int` and cut to the type they are returned as. -/
namespace Vstuff.Hfc
open Cyclic
set_option linter.all false

/-! ## What the three copies share -/

/-- `Z_inc` -/
def incZ (z_max size z inc : UInt16) : UInt16 :=
  -- declared as u32 in order to manage overflows
  let newz : UInt32 := .ofInt (z.toNat + inc.toNat)
  let newz := if newz.toNat > z_max.toNat then newz - size.toUInt32 else newz
  newz.toUInt16

/-- `F_inc` -/
def incF (f_max f_num f inc : UInt8) : UInt8 :=
  -- declared as u16 in order to manage overflows
  let newf : UInt16 := .ofInt (f.toNat + inc.toNat)
  let newf := if newf.toNat > f_max.toNat then newf - f_num.toUInt16 else newf
  newf.toUInt8

/-- How much is used. Without a size the remainder is not defined. -/
def usedZ (size z1 z2 : UInt16) : Option UInt16 :=
  if size = 0 then none else some (.ofInt (((z1.toNat : Int) - z2.toNat + size.toNat).tmod size.toNat))

/-- `hfc_fifo_free_rx` -/
def freeRxZ (size z1 z2 : UInt16) : UInt16 :=
  let free_bytes : UInt16 := .ofInt ((z2.toNat : Int) - z1.toNat)
  if free_bytes > 0 then free_bytes else .ofInt ((free_bytes.toNat : Int) + size.toNat)

/-- `hfc_fifo_free_tx` -/
def freeTxZ (size z1 z2 : UInt16) : UInt16 :=
  let free_bytes : Int := (z2.toNat : Int) - z1.toNat - 1
  if free_bytes ≥ 0 then .ofInt free_bytes else .ofInt (free_bytes + size.toNat)

/-- `hfc_fifo_used_frames` -/
def usedF (f_num f1 f2 : UInt8) : Option UInt8 :=
  if f_num = 0 then none else some (.ofInt (((f1.toNat : Int) - f2.toNat + f_num.toNat).tmod f_num.toNat))

/-- `hfc_fifo_free_frames` -/
def freeF (f_num f1 f2 : UInt8) : UInt8 :=
  let free_frames : Int := (f2.toNat : Int) - f1.toNat - 1
  if free_frames ≥ 0 then .ofInt free_frames else .ofInt (free_frames + f_num.toNat)

/-- The limits of the counters, and how many values they leave. -/
structure Geometry where
  z_min : UInt16
  z_max : UInt16
  f_min : UInt8
  f_max : UInt8
  z_order : z_min ≤ z_max
  f_order : f_min ≤ f_max

theorem toNat_int32 (x : Int) : (UInt32.ofInt x).toNat = (x % 4294967296).toNat := by
  rw [UInt32.ofInt, UInt32.toNat_ofNat']
  omega

theorem toNat_int16 (x : Int) : (UInt16.ofInt x).toNat = (x % 65536).toNat := by
  rw [UInt16.ofInt, UInt16.toNat_ofNat']
  omega

theorem toNat_int8 (x : Int) : (UInt8.ofInt x).toNat = (x % 256).toNat := by
  rw [UInt8.ofInt, UInt8.toNat_ofNat']
  omega

namespace Geometry
variable (g : Geometry)

/-- The octets there are. -/
def octets : Nat := g.z_max.toNat - g.z_min.toNat + 1

/-- The frames there are. -/
def frames : Nat := g.f_max.toNat - g.f_min.toNat + 1

/-- `size`, as it is assigned. -/
def size : UInt16 := .ofInt ((g.z_max.toNat : Int) - g.z_min.toNat + 1)

/-- `f_num`, as it is assigned. -/
def f_num : UInt8 := .ofInt ((g.f_max.toNat : Int) - g.f_min.toNat + 1)

/-- A position in the FIFO. -/
def OnZ (z : UInt16) : Prop := On g.z_min.toNat g.octets z.toNat

/-- A frame counter of the FIFO. -/
def OnF (f : UInt8) : Prop := On g.f_min.toNat g.frames f.toNat

/-- So many octets further. -/
def stepZ (n z : Nat) : Nat := (step g.z_min.toNat g.octets)^[n] z

/-- So many frames further. -/
def stepF (n f : Nat) : Nat := (step g.f_min.toNat g.frames)^[n] f

/-- How many octets lie between. -/
def distZ (a b : UInt16) : Nat := dist g.z_min.toNat g.octets a.toNat b.toNat

/-- How many frames lie between. -/
def distF (a b : UInt8) : Nat := dist g.f_min.toNat g.frames a.toNat b.toNat

end Geometry

section Counters
variable {g : Geometry} {z z1 z2 inc : UInt16} {f f1 f2 finc : UInt8}

theorem octets_le : g.octets ≤ 65536 := by
  have most := g.z_max.toNat_lt
  unfold Geometry.octets
  omega

theorem onZ_iff : g.OnZ z ↔ g.z_min ≤ z ∧ z ≤ g.z_max := by
  have order := UInt16.le_iff_toNat_le.mp g.z_order
  rw [Geometry.OnZ, On, Geometry.octets, UInt16.le_iff_toNat_le, UInt16.le_iff_toNat_le]
  omega

theorem onF_iff : g.OnF f ↔ g.f_min ≤ f ∧ f ≤ g.f_max := by
  have order := UInt8.le_iff_toNat_le.mp g.f_order
  rw [Geometry.OnF, On, Geometry.frames, UInt8.le_iff_toNat_le, UInt8.le_iff_toNat_le]
  omega

theorem size_toNat : g.size.toNat = g.octets % 65536 := by
  have order := UInt16.le_iff_toNat_le.mp g.z_order
  rw [Geometry.size, toNat_int16, Geometry.octets]
  omega

theorem f_num_toNat : g.f_num.toNat = g.frames % 256 := by
  have order := UInt8.le_iff_toNat_le.mp g.f_order
  rw [Geometry.f_num, toNat_int8, Geometry.frames]
  omega

/-- A remainder of what is less than two rounds. -/
theorem round_mod {r n : Nat} (twice : r < 2 * n) : r % n = if r < n then r else r - n := by
  split
  · next inside => exact Nat.mod_eq_of_lt inside
  · next outside =>
    rw [Nat.mod_eq_sub_mod (Nat.not_lt.mp outside)]
    exact Nat.mod_eq_of_lt (by omega)

/-- A position is incremented cyclically, by no more than there is. -/
theorem incZ_toNat (on : g.OnZ z) (most : inc.toNat ≤ g.octets) :
    (incZ g.z_max g.size z inc).toNat = g.stepZ inc.toNat z.toNat := by
  obtain ⟨least, last⟩ := on
  have order := UInt16.le_iff_toNat_le.mp g.z_order
  have octets : g.octets = g.z_max.toNat - g.z_min.toNat + 1 := rfl
  have size := size_toNat (g := g)
  have bounds := g.z_max.toNat_lt
  have word := inc.toNat_lt
  have word' := z.toNat_lt
  have sum : (UInt32.ofInt (z.toNat + inc.toNat)).toNat = z.toNat + inc.toNat := by
    rw [toNat_int32]
    omega
  have target : g.stepZ inc.toNat z.toNat = g.z_min.toNat + (if z.toNat - g.z_min.toNat + inc.toNat < g.octets then
      z.toNat - g.z_min.toNat + inc.toNat else z.toNat - g.z_min.toNat + inc.toNat - g.octets) := by
    rw [Geometry.stepZ, iterate_eq ⟨least, last⟩, round_mod (by omega)]
  rw [target, incZ, sum]
  split
  · next beyond =>
    have less : g.size.toUInt32 ≤ UInt32.ofInt (z.toNat + inc.toNat) := by
      rw [UInt32.le_iff_toNat_le, sum, UInt16.toNat_toUInt32]
      omega
    rw [if_neg (by omega), UInt32.toNat_toUInt16, UInt32.toNat_sub_of_le _ _ less, sum, UInt16.toNat_toUInt32, size]
    omega
  · next inside =>
    rw [if_pos (by omega), UInt32.toNat_toUInt16, sum]
    omega

/-- A frame counter is incremented cyclically, by no more than there is. -/
theorem incF_toNat (on : g.OnF f) (most : finc.toNat ≤ g.frames) :
    (incF g.f_max g.f_num f finc).toNat = g.stepF finc.toNat f.toNat := by
  obtain ⟨least, last⟩ := on
  have order := UInt8.le_iff_toNat_le.mp g.f_order
  have frames : g.frames = g.f_max.toNat - g.f_min.toNat + 1 := rfl
  have size := f_num_toNat (g := g)
  have bounds := g.f_max.toNat_lt
  have word := finc.toNat_lt
  have word' := f.toNat_lt
  have sum : (UInt16.ofInt (f.toNat + finc.toNat)).toNat = f.toNat + finc.toNat := by
    rw [toNat_int16]
    omega
  have target : g.stepF finc.toNat f.toNat = g.f_min.toNat + (if f.toNat - g.f_min.toNat + finc.toNat < g.frames then
      f.toNat - g.f_min.toNat + finc.toNat else f.toNat - g.f_min.toNat + finc.toNat - g.frames) := by
    rw [Geometry.stepF, iterate_eq ⟨least, last⟩, round_mod (by omega)]
  rw [target, incF, sum]
  split
  · next beyond =>
    have less : g.f_num.toUInt16 ≤ UInt16.ofInt (f.toNat + finc.toNat) := by
      rw [UInt16.le_iff_toNat_le, sum, UInt8.toNat_toUInt16]
      omega
    rw [if_neg (by omega), UInt16.toNat_toUInt8, UInt16.toNat_sub_of_le _ _ less, sum, UInt8.toNat_toUInt16, size]
    omega
  · next inside =>
    rw [if_pos (by omega), UInt16.toNat_toUInt8, sum]
    omega

/-- What remains of a difference that is brought up by the size. -/
theorem tmod_dist {low n a b : Nat} (on1 : On low n a) (on2 : On low n b) :
    ((a : Int) - b + n).tmod n = dist low n b a := by
  have sum : (a : Int) - b + n = (a + n - b : Nat) := by
    obtain ⟨least, last⟩ := on1
    obtain ⟨least', last'⟩ := on2
    omega
  rw [sum, ← Int.ofNat_tmod, dist_eq on2 on1]
  obtain ⟨least, last⟩ := on1
  obtain ⟨least', last'⟩ := on2
  rw [round_mod (by omega)]
  split_ifs <;> omega

/-- What is used is the way from where is read to where is written, if there is a size. -/
theorem usedZ_eq (small : g.octets < 65536) (on1 : g.OnZ z1) (on2 : g.OnZ z2) :
    ∃ used, usedZ g.size z1 z2 = some used ∧ used.toNat = g.distZ z2 z1 := by
  have whole : g.size.toNat = g.octets := size_toNat.trans (Nat.mod_eq_of_lt small)
  have some : g.size ≠ 0 := by
    intro none
    rw [none] at whole
    exact absurd whole (Nat.succ_ne_zero _).symm
  have below : g.distZ z2 z1 < g.octets := dist_lt (Nat.succ_pos _)
  refine ⟨_, if_neg some, ?_⟩
  rw [toNat_int16, whole, tmod_dist on1 on2]
  rw [Geometry.distZ] at below ⊢
  omega

/-- Without a size the driver divides by 0. -/
theorem usedZ_none (full : g.octets = 65536) : usedZ g.size z1 z2 = none := by
  have zero : g.size.toNat = 0 := by rw [size_toNat, full]
  exact if_pos (UInt16.toNat_inj.mp zero)

theorem usedF_eq (small : g.frames < 256) (on1 : g.OnF f1) (on2 : g.OnF f2) :
    ∃ used, usedF g.f_num f1 f2 = some used ∧ used.toNat = g.distF f2 f1 := by
  have whole : g.f_num.toNat = g.frames := f_num_toNat.trans (Nat.mod_eq_of_lt small)
  have some : g.f_num ≠ 0 := by
    intro none
    rw [none] at whole
    exact absurd whole (Nat.succ_ne_zero _).symm
  have below : g.distF f2 f1 < g.frames := dist_lt (Nat.succ_pos _)
  refine ⟨_, if_neg some, ?_⟩
  rw [toNat_int8, whole, tmod_dist on1 on2]
  rw [Geometry.distF] at below ⊢
  omega

theorem usedF_none (full : g.frames = 256) : usedF g.f_num f1 f2 = none := by
  have zero : g.f_num.toNat = 0 := by rw [f_num_toNat, full]
  exact if_pos (UInt8.toNat_inj.mp zero)

/-- What is free for writing is what is not used, but for one octet. -/
theorem freeTxZ_toNat (on1 : g.OnZ z1) (on2 : g.OnZ z2) : (freeTxZ g.size z1 z2).toNat = g.octets - 1 - g.distZ z2 z1 := by
  have octets : g.octets = g.z_max.toNat - g.z_min.toNat + 1 := rfl
  have size := size_toNat (g := g)
  have bounds := g.z_max.toNat_lt
  rw [Geometry.distZ, dist_eq on2 on1]
  obtain ⟨least, last⟩ := on1
  obtain ⟨least', last'⟩ := on2
  unfold freeTxZ
  dsimp only
  split
  · rw [toNat_int16]
    split_ifs <;> omega
  · rw [toNat_int16]
    split_ifs <;> omega

theorem freeF_toNat (on1 : g.OnF f1) (on2 : g.OnF f2) : (freeF g.f_num f1 f2).toNat = g.frames - 1 - g.distF f2 f1 := by
  have frames : g.frames = g.f_max.toNat - g.f_min.toNat + 1 := rfl
  have size := f_num_toNat (g := g)
  have bounds := g.f_max.toNat_lt
  rw [Geometry.distF, dist_eq on2 on1]
  obtain ⟨least, last⟩ := on1
  obtain ⟨least', last'⟩ := on2
  unfold freeF
  dsimp only
  split
  · rw [toNat_int8]
    split_ifs <;> omega
  · rw [toNat_int8]
    split_ifs <;> omega

/-- What is free for receiving is the way from where is written to where is read, as long as this does
not lie before. -/
theorem freeRxZ_iff (small : g.octets < 65536) (on1 : g.OnZ z1) (on2 : g.OnZ z2) :
    (freeRxZ g.size z1 z2).toNat = (if z1 = z2 then g.octets else g.distZ z1 z2) ↔ z1 ≤ z2 := by
  have octets : g.octets = g.z_max.toNat - g.z_min.toNat + 1 := rfl
  have whole : g.size.toNat = g.octets := size_toNat.trans (Nat.mod_eq_of_lt small)
  have word := z1.toNat_lt
  have word' := z2.toNat_lt
  have free : (UInt16.ofInt ((z2.toNat : Int) - z1.toNat)).toNat = (((z2.toNat : Int) - z1.toNat) % 65536).toNat :=
    toNat_int16 _
  have same : z1 = z2 ↔ z1.toNat = z2.toNat := UInt16.toNat_inj.symm
  rw [Geometry.distZ, dist_eq on1 on2, UInt16.le_iff_toNat_le, freeRxZ]
  obtain ⟨least, last⟩ := on1
  obtain ⟨least', last'⟩ := on2
  have zero : (0 : UInt16).toNat = 0 := rfl
  rcases Nat.lt_trichotomy z1.toNat z2.toNat with before | equal | behind
  · have some : UInt16.ofInt ((z2.toNat : Int) - z1.toNat) > 0 := by
      rw [gt_iff_lt, UInt16.lt_iff_toNat_lt, free, zero]
      omega
    rw [if_pos some, free, if_neg (by rw [same]; omega), if_pos (Nat.le_of_lt before)]
    omega
  · have none : ¬UInt16.ofInt ((z2.toNat : Int) - z1.toNat) > 0 := by
      rw [gt_iff_lt, UInt16.lt_iff_toNat_lt, free, zero]
      omega
    rw [if_neg none, toNat_int16, free, if_pos (same.mpr equal), whole]
    omega
  · -- the difference wraps, and is not corrected any more
    have some : UInt16.ofInt ((z2.toNat : Int) - z1.toNat) > 0 := by
      rw [gt_iff_lt, UInt16.lt_iff_toNat_lt, free, zero]
      omega
    rw [if_pos some, free, if_neg (by rw [same]; omega), if_neg (by omega)]
    omega

theorem stepZ_onZ (on : g.OnZ z) {n : Nat} {other : UInt16} (stepped : other.toNat = g.stepZ n z.toNat) : g.OnZ other := by
  rw [Geometry.OnZ, stepped]
  exact iterate_on on n

theorem stepF_onF (on : g.OnF f) {n : Nat} {other : UInt8} (stepped : other.toNat = g.stepF n f.toNat) : g.OnF other := by
  rw [Geometry.OnF, stepped]
  exact iterate_on on n

/-- Writing makes it so much farther from where is read. -/
theorem distZ_incZ (on1 : g.OnZ z1) (on2 : g.OnZ z2) (room : g.distZ z2 z1 + inc.toNat < g.octets) :
    g.distZ z2 (incZ g.z_max g.size z1 inc) = g.distZ z2 z1 + inc.toNat := by
  rw [Geometry.distZ, incZ_toNat on1 (by omega), Geometry.stepZ, dist_step on2 on1]
  exact Nat.mod_eq_of_lt room

end Counters

/-! ## What the functions are for -/

/-- The increments go round, and stay where they belong. -/
structure Increments (g : Geometry) (zInc : UInt16 → UInt16 → UInt16) (fInc : UInt8 → UInt8 → UInt8) : Prop where
  z : ∀ z, g.OnZ z → ∀ inc : UInt16, inc.toNat ≤ g.octets →
    (zInc z inc).toNat = g.stepZ inc.toNat z.toNat ∧ g.OnZ (zInc z inc)
  f : ∀ f, g.OnF f → ∀ inc : UInt8, inc.toNat ≤ g.frames →
    (fInc f inc).toNat = g.stepF inc.toNat f.toNat ∧ g.OnF (fInc f inc)

/-- What is used is as far as from where is read to where is written. -/
def Used (g : Geometry) (z1 z2 : UInt16) (used : Option UInt16) : Prop := ∃ n ∈ used, n.toNat = g.distZ z2 z1

/-- What is free for writing is the rest but for one octet. -/
def FreeTx (g : Geometry) (used : Option UInt16) (free : UInt16) : Prop := ∃ n ∈ used, n.toNat + free.toNat = g.octets - 1

/-- What is free for receiving, which is all where nothing is used. -/
def FreeRx (g : Geometry) (z1 z2 free : UInt16) : Prop := free.toNat = if z1 = z2 then g.octets else g.distZ z1 z2

/-- So many octets more are used, and so many fewer are free. -/
def Grows (n : UInt16) (used used' : Option UInt16) (free free' : UInt16) : Prop :=
  (∃ m ∈ used, ∃ m' ∈ used', m'.toNat = m.toNat + n.toNat) ∧ free'.toNat + n.toNat = free.toNat

/-- The frames that are used and those that are free. -/
def Frames (g : Geometry) (used : Option UInt8) (free : UInt8) : Prop := ∃ n ∈ used, n.toNat + free.toNat = g.frames - 1

section Counts
variable {g : Geometry} {z1 z2 inc : UInt16} {f1 f2 : UInt8}

theorem increments (g : Geometry) : Increments g (incZ g.z_max g.size) (incF g.f_max g.f_num) where
  z _ on _ most := ⟨incZ_toNat on most, stepZ_onZ on (incZ_toNat on most)⟩
  f _ on _ most := ⟨incF_toNat on most, stepF_onF on (incF_toNat on most)⟩

theorem full_of_not_lt (big : ¬g.octets < 65536) : g.octets = 65536 := Nat.le_antisymm octets_le (Nat.not_lt.mp big)

theorem frames_le : g.frames ≤ 256 := by
  have most := g.f_max.toNat_lt
  unfold Geometry.frames
  omega

theorem used_iff (on1 : g.OnZ z1) (on2 : g.OnZ z2) : Used g z1 z2 (usedZ g.size z1 z2) ↔ g.octets < 65536 := by
  by_cases small : g.octets < 65536
  · obtain ⟨used, is, dist⟩ := usedZ_eq small on1 on2
    exact iff_of_true ⟨used, is, dist⟩ small
  · rw [usedZ_none (full_of_not_lt small)]
    exact iff_of_false (fun ⟨_, nothing, _⟩ => nomatch nothing) small

theorem freeTx_of (small : g.octets < 65536) (on1 : g.OnZ z1) (on2 : g.OnZ z2) :
    FreeTx g (usedZ g.size z1 z2) (freeTxZ g.size z1 z2) := by
  obtain ⟨used, is, dist⟩ := usedZ_eq small on1 on2
  have below : g.distZ z2 z1 < g.octets := dist_lt (Nat.succ_pos _)
  refine ⟨used, is, ?_⟩
  rw [freeTxZ_toNat on1 on2, dist]
  omega

theorem grows_of (small : g.octets < 65536) (on1 : g.OnZ z1) (on2 : g.OnZ z2)
    (room : inc.toNat ≤ (freeTxZ g.size z1 z2).toNat) :
    Grows inc (usedZ g.size z1 z2) (usedZ g.size (incZ g.z_max g.size z1 inc) z2) (freeTxZ g.size z1 z2)
      (freeTxZ g.size (incZ g.z_max g.size z1 inc) z2) := by
  have below : g.distZ z2 z1 < g.octets := dist_lt (Nat.succ_pos _)
  rw [freeTxZ_toNat on1 on2] at room
  have on : g.OnZ (incZ g.z_max g.size z1 inc) := stepZ_onZ on1 (incZ_toNat on1 (by omega))
  have farther : g.distZ z2 (incZ g.z_max g.size z1 inc) = g.distZ z2 z1 + inc.toNat := distZ_incZ on1 on2 (by omega)
  obtain ⟨used, is, dist⟩ := usedZ_eq small on1 on2
  obtain ⟨used', is', dist'⟩ := usedZ_eq small on on2
  refine ⟨⟨used, is, used', is', by rw [dist', dist, farther]⟩, ?_⟩
  rw [freeTxZ_toNat on on2, freeTxZ_toNat on1 on2, farther]
  omega

theorem frames_iff (on1 : g.OnF f1) (on2 : g.OnF f2) : Frames g (usedF g.f_num f1 f2) (freeF g.f_num f1 f2) ↔ g.frames < 256 := by
  by_cases small : g.frames < 256
  · obtain ⟨used, is, dist⟩ := usedF_eq small on1 on2
    have below : g.distF f2 f1 < g.frames := dist_lt (Nat.succ_pos _)
    refine iff_of_true ⟨used, is, ?_⟩ small
    rw [freeF_toNat on1 on2, dist]
    omega
  · rw [usedF_none (Nat.le_antisymm frames_le (Nat.not_lt.mp small))]
    exact iff_of_false (fun ⟨_, nothing, _⟩ => nomatch nothing) small

end Counts

/-- struct hfc_fifo, as the drivers of the HFC-4S and the HFC-E1 have it. -/
structure Fifo extends Geometry where
  z1 : UInt16
  z2 : UInt16
  f1 : UInt8
  f2 : UInt8

/-- The counters are within their limits. -/
structure Fifo.InRange (fifo : Fifo) : Prop where
  z1 : fifo.OnZ fifo.z1
  z2 : fifo.OnZ fifo.z2
  f1 : fifo.OnF fifo.f1
  f2 : fifo.OnF fifo.f2

/-! ## The HFC-4S and the HFC-8S -/

namespace FourS
variable (fifo : Fifo)

def zInc : UInt16 → UInt16 → UInt16 := incZ fifo.z_max fifo.size

def fInc : UInt8 → UInt8 → UInt8 := incF fifo.f_max fifo.f_num

def fifoUsed : Option UInt16 := usedZ fifo.size fifo.z1 fifo.z2

def fifoFreeRx : UInt16 := freeRxZ fifo.size fifo.z1 fifo.z2

def fifoFreeTx : UInt16 := freeTxZ fifo.size fifo.z1 fifo.z2

def fifoUsedFrames : Option UInt8 := usedF fifo.f_num fifo.f1 fifo.f2

def fifoFreeFrames : UInt8 := freeF fifo.f_num fifo.f1 fifo.f2

/-- What the functions return is what they are for. -/
structure Counts : Prop where
  increments : Increments fifo.toGeometry (zInc fifo) (fInc fifo)
  used : Used fifo.toGeometry fifo.z1 fifo.z2 (fifoUsed fifo)
  freeTx : FreeTx fifo.toGeometry (fifoUsed fifo) (fifoFreeTx fifo)
  freeRx : FreeRx fifo.toGeometry fifo.z1 fifo.z2 (fifoFreeRx fifo)
  frames : Frames fifo.toGeometry (fifoUsedFrames fifo) (fifoFreeFrames fifo)
  grows : ∀ n : UInt16, n.toNat ≤ (fifoFreeTx fifo).toNat → let written := { fifo with z1 := zInc fifo fifo.z1 n }
    Grows n (fifoUsed fifo) (fifoUsed written) (fifoFreeTx fifo) (fifoFreeTx written)

theorem counts_iff {fifo : Fifo} (on : fifo.InRange) :
    Counts fifo ↔ fifo.octets < 65536 ∧ fifo.frames < 256 ∧ fifo.z1 ≤ fifo.z2 := by
  constructor
  · intro counts
    have small := (used_iff on.z1 on.z2).mp counts.used
    exact ⟨small, (frames_iff on.f1 on.f2).mp counts.frames, (freeRxZ_iff small on.z1 on.z2).mp counts.freeRx⟩
  · rintro ⟨small, few, order⟩
    exact {
      increments := Hfc.increments fifo.toGeometry
      used := (used_iff on.z1 on.z2).mpr small
      freeTx := freeTx_of small on.z1 on.z2
      freeRx := (freeRxZ_iff small on.z1 on.z2).mpr order
      frames := (frames_iff on.f1 on.f2).mpr few
      grows := fun _ room => grows_of small on.z1 on.z2 room }

end FourS

/-! ## The HFC-E1 -/

namespace E1
variable (fifo : Fifo)

def zInc : UInt16 → UInt16 → UInt16 := incZ fifo.z_max fifo.size

def fInc : UInt8 → UInt8 → UInt8 := incF fifo.f_max fifo.f_num

def fifoUsedRx : Option UInt16 := usedZ fifo.size fifo.z1 fifo.z2

def fifoUsedTx : Option UInt16 := usedZ fifo.size fifo.z1 fifo.z2

def fifoFreeRx : UInt16 := freeRxZ fifo.size fifo.z1 fifo.z2

def fifoFreeTx : UInt16 := freeTxZ fifo.size fifo.z1 fifo.z2

def fifoUsedFrames : Option UInt8 := usedF fifo.f_num fifo.f1 fifo.f2

def fifoFreeFrames : UInt8 := freeF fifo.f_num fifo.f1 fifo.f2

/-- What the functions return is what they are for. -/
structure Counts : Prop where
  increments : Increments fifo.toGeometry (zInc fifo) (fInc fifo)
  usedRx : Used fifo.toGeometry fifo.z1 fifo.z2 (fifoUsedRx fifo)
  usedTx : Used fifo.toGeometry fifo.z1 fifo.z2 (fifoUsedTx fifo)
  freeTx : FreeTx fifo.toGeometry (fifoUsedTx fifo) (fifoFreeTx fifo)
  freeRx : FreeRx fifo.toGeometry fifo.z1 fifo.z2 (fifoFreeRx fifo)
  frames : Frames fifo.toGeometry (fifoUsedFrames fifo) (fifoFreeFrames fifo)
  grows : ∀ n : UInt16, n.toNat ≤ (fifoFreeTx fifo).toNat → let written := { fifo with z1 := zInc fifo fifo.z1 n }
    Grows n (fifoUsedTx fifo) (fifoUsedTx written) (fifoFreeTx fifo) (fifoFreeTx written)

theorem counts_iff {fifo : Fifo} (on : fifo.InRange) :
    Counts fifo ↔ fifo.octets < 65536 ∧ fifo.frames < 256 ∧ fifo.z1 ≤ fifo.z2 := by
  constructor
  · intro counts
    have small := (used_iff on.z1 on.z2).mp counts.usedRx
    exact ⟨small, (frames_iff on.f1 on.f2).mp counts.frames, (freeRxZ_iff small on.z1 on.z2).mp counts.freeRx⟩
  · rintro ⟨small, few, order⟩
    exact {
      increments := Hfc.increments fifo.toGeometry
      usedRx := (used_iff on.z1 on.z2).mpr small
      usedTx := (used_iff on.z1 on.z2).mpr small
      freeTx := freeTx_of small on.z1 on.z2
      freeRx := (freeRxZ_iff small on.z1 on.z2).mpr order
      frames := (frames_iff on.f1 on.f2).mpr few
      grows := fun _ room => grows_of small on.z1 on.z2 room }

end E1

/-! ## The HFC-S PCI A -/

namespace Pci

/-- struct hfc_fifo, with the counters that are in the memory of the card: each frame has its own Z1
and Z2. -/
structure Fifo extends Geometry where
  f1 : UInt8
  f2 : UInt8
  z1 : UInt8 → UInt16
  z2 : UInt8 → UInt16

section
variable (fifo : Fifo)

def z1F1 : UInt16 := fifo.z1 fifo.f1

def z2F1 : UInt16 := fifo.z2 fifo.f1

def z1F2 : UInt16 := fifo.z1 fifo.f2

def z2F2 : UInt16 := fifo.z2 fifo.f2

def setZ1F1 (z : UInt16) : Fifo := { fifo with z1 := Function.update fifo.z1 fifo.f1 z }

def setZ2F2 (z : UInt16) : Fifo := { fifo with z2 := Function.update fifo.z2 fifo.f2 z }

def zInc : UInt16 → UInt16 → UInt16 := incZ fifo.z_max fifo.size

def fInc : UInt8 → UInt8 → UInt8 := incF fifo.f_max fifo.f_num

def fifoUsedRx : Option UInt16 := usedZ fifo.size (z1F2 fifo) (z2F2 fifo)

def fifoUsedTx : Option UInt16 := usedZ fifo.size (z1F1 fifo) (z2F1 fifo)

def fifoFreeTx : UInt16 := freeTxZ fifo.size (z1F1 fifo) (z2F1 fifo)

def fifoFreeFrames : UInt8 := freeF fifo.f_num fifo.f1 fifo.f2

/-- The counters are within their limits, for each frame. -/
structure Fifo.InRange : Prop where
  f1 : fifo.OnF fifo.f1
  f2 : fifo.OnF fifo.f2
  z1 : ∀ f, fifo.OnF f → fifo.OnZ (fifo.z1 f)
  z2 : ∀ f, fifo.OnF f → fifo.OnZ (fifo.z2 f)

/-- What the functions return is what they are for. -/
structure Counts : Prop where
  increments : Increments fifo.toGeometry (zInc fifo) (fInc fifo)
  usedRx : Used fifo.toGeometry (z1F2 fifo) (z2F2 fifo) (fifoUsedRx fifo)
  usedTx : Used fifo.toGeometry (z1F1 fifo) (z2F1 fifo) (fifoUsedTx fifo)
  freeTx : FreeTx fifo.toGeometry (fifoUsedTx fifo) (fifoFreeTx fifo)
  frames : (fifoFreeFrames fifo).toNat = fifo.frames - 1 - fifo.distF fifo.f2 fifo.f1
  grows : ∀ n : UInt16, n.toNat ≤ (fifoFreeTx fifo).toNat → let written := setZ1F1 fifo (zInc fifo (z1F1 fifo) n)
    Grows n (fifoUsedTx fifo) (fifoUsedTx written) (fifoFreeTx fifo) (fifoFreeTx written)

end

theorem z1F1_set (fifo : Fifo) (z : UInt16) : z1F1 (setZ1F1 fifo z) = z := Function.update_self ..

theorem counts_iff {fifo : Fifo} (on : fifo.InRange) : Counts fifo ↔ fifo.octets < 65536 := by
  have on1 : fifo.OnZ (z1F1 fifo) := on.z1 _ on.f1
  have on2 : fifo.OnZ (z2F1 fifo) := on.z2 _ on.f1
  constructor
  · exact fun counts => (used_iff on1 on2).mp counts.usedTx
  · intro small
    refine ⟨Hfc.increments fifo.toGeometry, (used_iff (on.z1 _ on.f2) (on.z2 _ on.f2)).mpr small, (used_iff on1 on2).mpr small,
      freeTx_of small on1 on2, freeF_toNat on.f1 on.f2, fun n room => ?_⟩
    have written := grows_of small on1 on2 room
    dsimp only
    rw [fifoUsedTx, fifoUsedTx, fifoFreeTx, fifoFreeTx, z1F1_set]
    exact written

end Pci

/-- The arithmetic is right, in the drivers that tell the room for receiving where the chip has not
wrapped before the driver, and where the octets and the frames can be counted in their types. -/
theorem inlines_count_iff {fifo : Fifo} (on : fifo.InRange) {pci : Pci.Fifo} (on' : pci.InRange) :
    (FourS.Counts fifo ↔ fifo.octets < 65536 ∧ fifo.frames < 256 ∧ fifo.z1 ≤ fifo.z2) ∧
      (E1.Counts fifo ↔ fifo.octets < 65536 ∧ fifo.frames < 256 ∧ fifo.z1 ≤ fifo.z2) ∧
      (Pci.Counts pci ↔ pci.octets < 65536) :=
  ⟨FourS.counts_iff on, E1.counts_iff on, Pci.counts_iff on'⟩

/-- A FIFO of 128 octets and 16 frames. -/
def small : Geometry where
  z_min := 0
  z_max := 127
  f_min := 0
  f_max := 15
  z_order := by decide
  f_order := by decide

/-- Two octets are used, and the chip has not wrapped. -/
def ahead : Fifo := { small with z1 := 5, z2 := 3, f1 := 0, f2 := 0 }

/-- Two octets are used, and the chip has wrapped. -/
def wrapped : Fifo := { small with z1 := 1, z2 := 127, f1 := 0, f2 := 0 }

/-- Frames 0 and 1 of the memory, with nothing in it. -/
def empty : Pci.Fifo := { small with f1 := 0, f2 := 0, z1 := fun _ => 127, z2 := fun _ => 127 }

theorem onZ_small {z : UInt16} (inside : z.toNat < 128) : small.OnZ z := ⟨Nat.zero_le _, by simpa [small, Geometry.octets] using inside⟩

theorem onF_small {f : UInt8} (inside : f.toNat < 16) : small.OnF f := ⟨Nat.zero_le _, by simpa [small, Geometry.frames] using inside⟩

theorem wrapped_counts : FourS.Counts wrapped ∧ E1.Counts wrapped ∧ Pci.Counts empty := by
  have on : wrapped.InRange := ⟨onZ_small (by decide), onZ_small (by decide), onF_small (by decide), onF_small (by decide)⟩
  have on' : empty.InRange :=
    ⟨onF_small (by decide), onF_small (by decide), fun _ _ => onZ_small (z := 127) (by decide), fun _ _ => onZ_small (z := 127) (by decide)⟩
  obtain ⟨fourS, e1, pci⟩ := inlines_count_iff on on'
  exact ⟨fourS.mpr (by decide), e1.mpr (by decide), pci.mpr (by decide)⟩

/-- Where 126 octets are free the driver counts 65534. -/
theorem ahead_is_free_beyond_the_ring : ¬∀ fifo : Fifo, fifo.InRange → FourS.Counts fifo := by
  intro claim
  have on : ahead.InRange := ⟨onZ_small (by decide), onZ_small (by decide), onF_small (by decide), onF_small (by decide)⟩
  have free : (freeRxZ ahead.size 5 3).toNat = if (5 : UInt16) = 3 then ahead.octets else ahead.distZ 5 3 := (claim ahead on).freeRx
  exact absurd free (by decide)

end Vstuff.Hfc
