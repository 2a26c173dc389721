import Vstuff.Hfc.FifoInline
import Vstuff.Lib.RingBuffer

/-! The FIFOs of the HFC-S PCI A in the memory of the card (`fifo.c` and `card.c` of `modules/hfc-pci`). -/
namespace Vstuff.Hfc.Pci
open Cyclic RingBuffer
set_option linter.all false

/-- What `hfc_fifo_init` is given: where the octets and the counters are in the memory of the card. The
two base pointers belong together. -/
structure Setup extends Geometry where
  base_off : Nat
  z_off : Nat
  z1_off : Nat
  f1_off : Nat
  f2_off : Nat
  placed : base_off = z_off + z_min.toNat
  small : toGeometry.octets < 65536

/-- `struct hfc_fifo` and the memory of the card. -/
structure MemFifo extends Fifo where
  mem_base : Nat
  z_base : Nat
  mem : Nat → UInt8
  stats_max : Int
  stats_min : Int
  stats_cycles : Int
  placed : mem_base = z_base + z_min.toNat
  small : toGeometry.octets < 65536

/-- `hfc_fifo_init`; Z2 comes two octets behind Z1, for each frame. The memory has been cleared. -/
def fifoInit (setup : Setup) : MemFifo where
  toGeometry := setup.toGeometry
  f1 := 0
  f2 := 0
  z1 _ := 0
  z2 _ := 0
  mem_base := setup.base_off
  z_base := setup.z_off
  mem _ := 0
  stats_max := 0
  stats_min := 0
  stats_cycles := 0
  placed := setup.placed
  small := setup.small

section
variable (fifo : MemFifo)

/-- One turn of the loop of `hfc_fifo_reset`. -/
def resetFrame (i : UInt8) : MemFifo :=
  { fifo with
    f1 := i
    f2 := i
    z1 := Function.update fifo.z1 i fifo.z_max
    z2 := Function.update fifo.z2 i fifo.z_max }

/-- `hfc_fifo_reset` -/
def fifoReset : MemFifo := (List.range fifo.frames).foldl (fun fifo i => resetFrame fifo (fifo.f_min + UInt8.ofNat i)) fifo

/-- `hfc_fifo_mem_read_z` -/
def fifoMemReadZ (z_start : UInt16) (size : Nat) : List UInt8 :=
  let octets_to_boundary : Int := fifo.z_max.toNat - z_start.toNat + 1
  if octets_to_boundary ≥ size then block fifo.mem (fifo.z_base + z_start.toNat) size
  -- Buffer wrap
  else block fifo.mem (fifo.z_base + z_start.toNat) octets_to_boundary.toNat ++ block fifo.mem fifo.mem_base (size - octets_to_boundary).toNat

/-- `hfc_fifo_mem_read` -/
def fifoMemRead (size : Nat) : List UInt8 := fifoMemReadZ fifo (z2F2 fifo.toFifo) size

/-- `hfc_fifo_mem_write` -/
def fifoMemWrite (data : List UInt8) : MemFifo :=
  let octets_to_boundary : Int := fifo.z_max.toNat - (z1F1 fifo.toFifo).toNat + 1
  let mem :=
    if octets_to_boundary ≥ data.length then copy fifo.mem (fifo.z_base + (z1F1 fifo.toFifo).toNat) data
    -- FIFO wrap
    else
      copy (copy fifo.mem (fifo.z_base + (z1F1 fifo.toFifo).toNat) (data.take octets_to_boundary.toNat)) fifo.mem_base
        (data.drop octets_to_boundary.toNat)
  { fifo with mem }

/-- The cell of a position. -/
def cell (z : UInt16) : Nat := fifo.z_base + z.toNat

/-- So many cells from a position on. -/
def cells (z : UInt16) (n : Nat) : List Nat := places fifo.mem_base fifo.octets (cell fifo z) n

/-- What is in them. -/
def content (z : UInt16) (n : Nat) : List UInt8 := window fifo.mem_base fifo.octets fifo.mem (cell fifo z) n

end

/-! ## The cells -/

variable {fifo : MemFifo} {z : UInt16}

theorem on_cell (on : fifo.OnZ z) : On fifo.mem_base fifo.octets (cell fifo z) := by
  obtain ⟨least, most⟩ := on
  have placed := fifo.placed
  unfold cell
  exact ⟨by omega, by omega⟩

/-- So many octets further are so many cells further. -/
theorem cell_step (on : fifo.OnZ z) {n : Nat} {other : UInt16} (stepped : other.toNat = fifo.stepZ n z.toNat) :
    cell fifo other = (step fifo.mem_base fifo.octets)^[n] (cell fifo z) := by
  have on' := on_cell on
  obtain ⟨least, most⟩ := on
  have placed := fifo.placed
  have same : fifo.z_base + z.toNat - (fifo.z_base + fifo.z_min.toNat) = z.toNat - fifo.z_min.toNat := by omega
  rw [iterate_eq on', cell, stepped, Geometry.stepZ, iterate_eq ⟨least, most⟩, cell, placed, same, Nat.add_assoc]

/-- A read goes through the cells one by one. -/
theorem fifoMemReadZ_eq (on : fifo.OnZ z) {size : Nat} (room : size ≤ fifo.octets) : fifoMemReadZ fifo z size = content fifo z size := by
  have order := UInt16.le_iff_toNat_le.mp fifo.z_order
  have octets : fifo.octets = fifo.z_max.toNat - fifo.z_min.toNat + 1 := rfl
  have placed := fifo.placed
  obtain ⟨least, most⟩ := on
  have boundary : ((fifo.z_max.toNat : Int) - z.toNat + 1) = (fifo.mem_base + fifo.octets - cell fifo z : Nat) := by
    unfold cell
    omega
  rw [content, window_eq_blocks (on_cell ⟨least, most⟩) room]
  unfold fifoMemReadZ
  dsimp only
  rw [boundary]
  split
  · next within =>
    have within := Int.ofNat_le.mp within
    rw [Nat.min_eq_left within, Nat.sub_eq_zero_of_le within]
    exact (List.append_nil _).symm
  · next beyond =>
    have beyond : fifo.mem_base + fifo.octets - cell fifo z ≤ size := by omega
    rw [Nat.min_eq_right beyond, Int.toNat_natCast, ← Int.ofNat_sub beyond, Int.toNat_natCast]
    rfl

/-- And so does a write. -/
theorem fifoMemWrite_eq (fifo : MemFifo) (on : fifo.OnZ (z1F1 fifo.toFifo)) {data : List UInt8} (room : data.length ≤ fifo.octets) :
    fifoMemWrite fifo data = { fifo with mem := store fifo.mem_base fifo.octets fifo.mem (cell fifo (z1F1 fifo.toFifo)) data } := by
  have order := UInt16.le_iff_toNat_le.mp fifo.z_order
  have octets : fifo.octets = fifo.z_max.toNat - fifo.z_min.toNat + 1 := rfl
  have placed := fifo.placed
  obtain ⟨least, most⟩ := on
  have boundary : ((fifo.z_max.toNat : Int) - (z1F1 fifo.toFifo).toNat + 1) =
      (fifo.mem_base + fifo.octets - cell fifo (z1F1 fifo.toFifo) : Nat) := by
    unfold cell
    omega
  rw [store_eq_copies (on_cell ⟨least, most⟩) room]
  unfold fifoMemWrite
  dsimp only
  rw [boundary, Int.toNat_natCast]
  split
  · next within =>
    have within := Int.ofNat_le.mp within
    rw [List.take_of_length_le within, List.drop_of_length_le within, copy_nil]
    rfl
  · rfl

/-! ## The reset -/

/-- After so many turns, the frames so far have all counters at the end. -/
theorem reset_turns (fifo : MemFifo) (n : Nat) (few : n ≤ fifo.frames) :
    let after := (List.range n).foldl (fun fifo i => resetFrame fifo (fifo.f_min + UInt8.ofNat i)) fifo
    ∃ z1 z2 f1 f2, after = { fifo with z1, z2, f1, f2 } ∧
      (∀ i < n, z1 (fifo.f_min + UInt8.ofNat i) = fifo.z_max ∧ z2 (fifo.f_min + UInt8.ofNat i) = fifo.z_max) ∧
      (0 < n → f1 = fifo.f_min + UInt8.ofNat (n - 1) ∧ f2 = f1) := by
  induction n with
  | zero => exact ⟨fifo.z1, fifo.z2, fifo.f1, fifo.f2, rfl, fun _ no => absurd no (Nat.not_lt_zero _), fun no => absurd no (Nat.lt_irrefl 0)⟩
  | succ n ih =>
    obtain ⟨z1, z2, f1, f2, is, all, -⟩ := ih (by omega)
    rw [List.range_succ, List.foldl_append, List.foldl_cons, List.foldl_nil, is]
    refine ⟨_, _, _, _, rfl, fun i below => ?_, fun _ => ⟨rfl, rfl⟩⟩
    by_cases last : fifo.f_min + UInt8.ofNat i = fifo.f_min + UInt8.ofNat n
    · rw [last]
      exact ⟨Function.update_self .., Function.update_self ..⟩
    · have before : i < n := by
        obtain less | rfl := Nat.lt_succ_iff_lt_or_eq.mp below
        · exact less
        · exact absurd rfl last
      exact ⟨(Function.update_of_ne last ..).trans (all i before).1, (Function.update_of_ne last ..).trans (all i before).2⟩

theorem onF_iff_add {f : UInt8} : fifo.OnF f ↔ ∃ i < fifo.frames, f = fifo.f_min + UInt8.ofNat i := by
  have order := UInt8.le_iff_toNat_le.mp fifo.f_order
  have frames : fifo.frames = fifo.f_max.toNat - fifo.f_min.toNat + 1 := rfl
  have most := fifo.f_max.toNat_lt
  have sum {i : Nat} (below : i < fifo.frames) : (fifo.f_min + UInt8.ofNat i).toNat = fifo.f_min.toNat + i := by
    rw [UInt8.toNat_add, UInt8.toNat_ofNat']
    omega
  constructor
  · rintro ⟨least, last⟩
    refine ⟨f.toNat - fifo.f_min.toNat, by omega, UInt8.toNat_inj.mp ?_⟩
    rw [sum (by omega)]
    omega
  · rintro ⟨i, below, rfl⟩
    rw [Geometry.OnF, sum below]
    exact ⟨Nat.le_add_right _ _, by omega⟩

/-- The loop leaves the frame counters at the last frame, and the positions of each at the last octet. -/
theorem fifoReset_eq (fifo : MemFifo) : ∃ z1 z2, fifoReset fifo = { fifo with z1, z2, f1 := fifo.f_max, f2 := fifo.f_max } ∧
    ∀ f, fifo.OnF f → z1 f = fifo.z_max ∧ z2 f = fifo.z_max := by
  obtain ⟨z1, z2, f1, f2, is, all, last⟩ := reset_turns fifo fifo.frames (Nat.le_refl _)
  have order := UInt8.le_iff_toNat_le.mp fifo.f_order
  have frames : fifo.frames = fifo.f_max.toNat - fifo.f_min.toNat + 1 := rfl
  have most := fifo.f_max.toNat_lt
  have at_end : fifo.f_min + UInt8.ofNat (fifo.frames - 1) = fifo.f_max := by
    rw [← UInt8.toNat_inj, UInt8.toNat_add, UInt8.toNat_ofNat']
    omega
  obtain ⟨f1_eq, f2_eq⟩ := last (Nat.succ_pos _)
  rw [f2_eq, f1_eq, at_end] at is
  refine ⟨z1, z2, is, fun f on => ?_⟩
  obtain ⟨i, below, rfl⟩ := onF_iff_add.mp on
  exact all i below

theorem reset_inRange (fifo : MemFifo) : (fifoReset fifo).InRange := by
  obtain ⟨z1, z2, is, all⟩ := fifoReset_eq fifo
  have order := UInt16.le_iff_toNat_le.mp fifo.z_order
  have order' := UInt8.le_iff_toNat_le.mp fifo.f_order
  have frames : fifo.frames = fifo.f_max.toNat - fifo.f_min.toNat + 1 := rfl
  have octets : fifo.octets = fifo.z_max.toNat - fifo.z_min.toNat + 1 := rfl
  have on_f : fifo.OnF fifo.f_max := ⟨order', by omega⟩
  have on_z : fifo.OnZ fifo.z_max := ⟨order, by omega⟩
  rw [is]
  exact ⟨on_f, on_f, fun f on => show fifo.OnZ (z1 f) from (all f on).1 ▸ on_z, fun f on => show fifo.OnZ (z2 f) from (all f on).2 ▸ on_z⟩

/-! ## The six FIFOs -/

def dRx : Setup where
  z_min := 0x0000
  z_max := 0x01ff
  f_min := 0x10
  f_max := 0x1f
  z_order := by decide
  f_order := by decide
  base_off := 0x4000
  z_off := 0x4000
  z1_off := 0x6080
  f1_off := 0x60a0
  f2_off := 0x60a1
  placed := by decide
  small := by decide

def dTx : Setup where
  z_min := 0x0000
  z_max := 0x01ff
  f_min := 0x10
  f_max := 0x1f
  z_order := by decide
  f_order := by decide
  base_off := 0x0000
  z_off := 0x0000
  z1_off := 0x2080
  f1_off := 0x20a0
  f2_off := 0x20a1
  placed := by decide
  small := by decide

/-- The FIFO of a B channel, from the offsets that differ. -/
def ofB (base_off z_off z1_off f1_off : Nat) (placed : base_off = z_off + 0x200) : Setup where
  z_min := 0x0200
  z_max := 0x1fff
  f_min := 0x00
  f_max := 0x1f
  z_order := by decide
  f_order := by decide
  base_off := base_off
  z_off := z_off
  z1_off := z1_off
  f1_off := f1_off
  f2_off := f1_off + 1
  placed := placed
  small := by decide

def b1Rx : Setup := ofB 0x4200 0x4000 0x6000 0x6080 rfl

def b1Tx : Setup := ofB 0x0200 0x0000 0x2000 0x2080 rfl

def b2Rx : Setup := ofB 0x6200 0x6000 0x6100 0x6180 rfl

def b2Tx : Setup := ofB 0x2200 0x2000 0x2100 0x2180 rfl

/-- Where the octets, the positions of the frames and the two frame counters are, and how far. -/
def Setup.areas (setup : Setup) : List (Nat × Nat) :=
  [(setup.base_off, setup.octets), (setup.z1_off + 4 * setup.f_min.toNat, 4 * setup.frames), (setup.f1_off, 1), (setup.f2_off, 1)]

/-- What is written of a FIFO is neither a counter nor of another one. -/
theorem areas_apart : ([dRx, dTx, b1Rx, b1Tx, b2Rx, b2Tx].flatMap Setup.areas).Pairwise
    fun one other => one.1 + one.2 ≤ other.1 ∨ other.1 + other.2 ≤ one.1 := by
  decide

end Vstuff.Hfc.Pci
