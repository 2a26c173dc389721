import Vstuff.Hfc.PciMemory
import Vstuff.Lib.Machine
import Mathlib.Algebra.Ring.Int.Defs

/-! Transparent mode of the HFC-S PCI A (`st_chan.c` of `modules/hfc-pci`): octets are written behind
Z1 and sent from Z2 on, received behind Z1 and read from Z2 on. -/
namespace Vstuff.Hfc.Pci
open Transition Cyclic RingBuffer
set_option linter.all false

/-- A FIFO with what is not in it: the octets that have been accepted for it and those taken out. -/
structure Stream where
  fifo : MemFifo
  accepted : List UInt8
  consumed : List UInt8

/-- A write, and the octet behind the buffer, which is read where the buffer is empty; and the chip
sends so many octets. -/
inductive TxEvent where
  | write (buf : List UInt8) (beyond : UInt8)
  | consume (n : Nat)

/-- The chip receives octets; and a read. -/
inductive RxEvent where
  | fill (octets : List UInt8)
  | read (count : Nat)

section
variable (fifo : MemFifo)

/-- The same for the FIFO with its memory. -/
def putZ1F1 (z : UInt16) : MemFifo := { fifo with toFifo := setZ1F1 fifo.toFifo z }

def putZ2F2 (z : UInt16) : MemFifo := { fifo with toFifo := setZ2F2 fifo.toFifo z }

def setStats (stats_max stats_min stats_cycles : Int) : MemFifo := { fifo with stats_max, stats_min, stats_cycles }

/-- What `hfc_st_chan_write` does before it looks at what is used: every tenth time the statistics
begin anew, and where they have been low an octet is put where the next is written. -/
def compensate (buf : List UInt8) (beyond : UInt8) : MemFifo :=
  if fifo.stats_cycles + 1 ≥ 10 then
    let fifo := if fifo.stats_min < 5 then fifoMemWrite fifo [buf.headD beyond] else fifo
    setStats fifo 0 (2 ^ 31 - 1) 0
  else setStats fifo fifo.stats_max fifo.stats_min (fifo.stats_cycles + 1)

/-- `hfc_st_chan_write`, and how many octets it says it has copied; a FIFO without a size it does not
get through. -/
def stChanWrite (buf : List UInt8) (beyond : UInt8) : Option (MemFifo × Nat) := do
  let available_octets := (fifoFreeTx fifo.toFifo).toNat
  let copied_octets := if available_octets > buf.length then buf.length else available_octets
  let used ← fifoUsedTx fifo.toFifo
  let used_octets := used.toNat
  let fifo := compensate fifo buf beyond
  -- trimming
  if used_octets > 5 * 2 then return (fifo, copied_octets)
  let stats_min := if used_octets < fifo.stats_min then (used_octets : Int) else fifo.stats_min
  let stats_max := if used_octets + copied_octets > fifo.stats_max then (used_octets + copied_octets : Int) else fifo.stats_max
  let fifo := fifoMemWrite (setStats fifo stats_max stats_min fifo.stats_cycles) (buf.take copied_octets)
  return (putZ1F1 fifo (zInc fifo.toFifo (z1F1 fifo.toFifo) (.ofNat buf.length)), copied_octets)

/-- `hfc_st_chan_read` -/
def stChanRead (count : Nat) : Option (MemFifo × List UInt8) := do
  let available ← fifoUsedRx fifo.toFifo
  let available_octets := available.toNat
  let copied_octets := if available_octets < count then available_octets else count
  let stats_max := if available_octets > fifo.stats_max then (available_octets : Int) else fifo.stats_max
  let stats_min := if (available_octets : Int) - copied_octets < fifo.stats_min then (available_octets : Int) - copied_octets else fifo.stats_min
  let fifo := setStats fifo stats_max stats_min (fifo.stats_cycles + 1)
  let octets := fifoMemRead fifo copied_octets
  return (putZ2F2 fifo (zInc fifo.toFifo (z2F2 fifo.toFifo) (.ofNat copied_octets)), octets)

/-- The chip takes octets at Z2, and goes on. -/
def chipTake (n : Nat) : MemFifo × List UInt8 :=
  (putZ2F2 fifo (.ofNat (fifo.stepZ n (z2F2 fifo.toFifo).toNat)), content fifo (z2F2 fifo.toFifo) n)

/-- The chip puts octets at Z1, and goes on. -/
def chipPut (octets : List UInt8) : MemFifo :=
  let fifo := { fifo with mem := store fifo.mem_base fifo.octets fifo.mem (cell fifo (z1F1 fifo.toFifo)) octets }
  putZ1F1 fifo (.ofNat (fifo.stepZ octets.length (z1F1 fifo.toFifo).toNat))

end

/-- How many octets wait. -/
def MemFifo.waiting (fifo : MemFifo) : Nat := fifo.distZ (z2F2 fifo.toFifo) (z1F1 fifo.toFifo)

/-- The chip sends no more than there is. -/
def txNext (s : Stream) : TxEvent → Option Stream
  | .write buf beyond => do
    let (fifo, copied) ← stChanWrite s.fifo buf beyond
    return { s with fifo, accepted := s.accepted ++ buf.take copied }
  | .consume n =>
    if n ≤ s.fifo.waiting then
      let (fifo, octets) := chipTake s.fifo n
      some { s with fifo, consumed := s.consumed ++ octets }
    else none

/-- And it receives no more than there is room for. -/
def rxNext (s : Stream) : RxEvent → Option Stream
  | .fill octets =>
    if s.fifo.waiting + octets.length < s.fifo.octets then
      some { s with fifo := chipPut s.fifo octets, accepted := s.accepted ++ octets }
    else none
  | .read count => do
    let (fifo, octets) ← stChanRead s.fifo count
    return { s with fifo, consumed := s.consumed ++ octets }

/-- What has been taken out and what waits is what has been accepted, in order. -/
structure Carries (s : Stream) : Prop where
  transparent : s.fifo.f1 = s.fifo.f2
  on : s.fifo.InRange
  queue : s.consumed ++ content s.fifo (z2F2 s.fifo.toFifo) s.fifo.waiting = s.accepted

/-- A write with more than 10 octets waiting copies none, or the count, in 16 bits, is what is copied
(or a whole round more, where what is copied does not go round). -/
def TxEvent.Fits (s : Stream) : TxEvent → Prop
  | .write buf _ =>
    let copied := min buf.length (s.fifo.octets - 1 - s.fifo.waiting)
    if s.fifo.waiting > 10 then copied = 0
    else buf.length % 65536 = copied ∨
      buf.length % 65536 = copied + s.fifo.octets ∧ (z1F1 s.fifo.toFifo).toNat + copied ≤ s.fifo.z_max.toNat
  | .consume _ => True

/-! ## What the steps do -/

variable {fifo : MemFifo} {s : Stream} {z : UInt16}

/-- Z1 comes to where it belongs after so many octets, whatever it is incremented by, only so. -/
theorem incZ_iff (on : fifo.OnZ z) {inc copied : Nat} (below : inc < 65536) (room : copied < fifo.octets) :
    (zInc fifo.toFifo z (.ofNat inc)).toNat = fifo.stepZ copied z.toNat ↔
      inc = copied ∨ inc = copied + fifo.octets ∧ z.toNat + copied ≤ fifo.z_max.toNat := by
  obtain ⟨least, last⟩ := on
  have order := UInt16.le_iff_toNat_le.mp fifo.z_order
  have octets : fifo.octets = fifo.z_max.toNat - fifo.z_min.toNat + 1 := rfl
  have size := size_toNat (g := fifo.toGeometry)
  have bounds := fifo.z_max.toNat_lt
  have word' := z.toNat_lt
  have small := fifo.small
  have inc_eq : (UInt16.ofNat inc).toNat = inc := by
    rw [UInt16.toNat_ofNat']
    omega
  have sum : (UInt32.ofInt (z.toNat + inc)).toNat = z.toNat + inc := by
    rw [toNat_int32]
    omega
  have target : fifo.stepZ copied z.toNat = fifo.z_min.toNat + (if z.toNat - fifo.z_min.toNat + copied < fifo.octets then
      z.toNat - fifo.z_min.toNat + copied else z.toNat - fifo.z_min.toNat + copied - fifo.octets) := by
    rw [Geometry.stepZ, iterate_eq ⟨least, last⟩, round_mod (by omega)]
  have inc_z : (zInc fifo.toFifo z (.ofNat inc)).toNat =
      (if z.toNat + inc > fifo.z_max.toNat then z.toNat + inc - fifo.octets else z.toNat + inc) % 65536 := by
    rw [zInc, incZ, inc_eq, sum]
    split
    · next beyond =>
      have less : fifo.size.toUInt32 ≤ UInt32.ofInt (z.toNat + inc) := by
        rw [UInt32.le_iff_toNat_le, sum, UInt16.toNat_toUInt32]
        omega
      rw [UInt32.toNat_toUInt16, UInt32.toNat_sub_of_le _ _ less, sum, UInt16.toNat_toUInt32, size]
      omega
    · rw [UInt32.toNat_toUInt16, sum]
  rw [target, inc_z]
  clear target inc_z sum inc_eq size word'
  split_ifs <;> omega

theorem on_z1F1 (on : fifo.InRange) : fifo.OnZ (z1F1 fifo.toFifo) := on.z1 _ on.f1

theorem on_z2F2 (on : fifo.InRange) : fifo.OnZ (z2F2 fifo.toFifo) := on.z2 _ on.f2

theorem incZ_small (on : fifo.OnZ z) {n : Nat} (room : n < fifo.octets) : (zInc fifo.toFifo z (.ofNat n)).toNat = fifo.stepZ n z.toNat :=
  (incZ_iff on (Nat.lt_trans room fifo.small) room).mpr (.inl rfl)

theorem waiting_lt (fifo : MemFifo) : fifo.waiting < fifo.octets := dist_lt (Nat.succ_pos _)

/-- Z1 is as far behind Z2 as octets wait. -/
theorem cell_z1F1 (on : fifo.InRange) : cell fifo (z1F1 fifo.toFifo) = (step fifo.mem_base fifo.octets)^[fifo.waiting] (cell fifo (z2F2 fifo.toFifo)) :=
  cell_step (on_z2F2 on) (iterate_dist (on_z2F2 on) (on_z1F1 on)).symm

/-- What is stored at Z1 is behind what waits. -/
theorem content_store (fifo : MemFifo) (on : fifo.InRange) {l : List UInt8} (room : fifo.waiting + l.length ≤ fifo.octets) :
    window fifo.mem_base fifo.octets (store fifo.mem_base fifo.octets fifo.mem (cell fifo (z1F1 fifo.toFifo)) l)
      (cell fifo (z2F2 fifo.toFifo)) (fifo.waiting + l.length) = content fifo (z2F2 fifo.toFifo) fifo.waiting ++ l := by
  rw [cell_z1F1 on]
  exact window_append (on_cell (on_z2F2 on)) room

/-- The statistics do not matter, and at most one octet has been put where the next is written. -/
theorem compensate_eq (on : fifo.InRange) (buf : List UInt8) (beyond : UInt8) : ∃ l stats_max stats_min stats_cycles, l.length ≤ 1 ∧
    compensate fifo buf beyond = { fifo with
      mem := store fifo.mem_base fifo.octets fifo.mem (cell fifo (z1F1 fifo.toFifo)) l, stats_max, stats_min, stats_cycles } := by
  have on_z := on_z1F1 on
  unfold compensate
  split
  · dsimp only
    split
    · rw [fifoMemWrite_eq fifo on_z (show [buf.headD beyond].length ≤ fifo.octets from Nat.succ_pos _)]
      exact ⟨[buf.headD beyond], _, _, _, Nat.le_refl 1, rfl⟩
    · exact ⟨[], _, _, _, Nat.zero_le 1, rfl⟩
  · exact ⟨[], _, _, _, Nat.zero_le 1, rfl⟩

/-- As much is copied as there is room for but one octet. -/
theorem copied_eq (transparent : fifo.f1 = fifo.f2) (on : fifo.InRange) (count : Nat) :
    (if (fifoFreeTx fifo.toFifo).toNat > count then count else (fifoFreeTx fifo.toFifo).toNat) =
      min count (fifo.octets - 1 - fifo.waiting) := by
  have free : (fifoFreeTx fifo.toFifo).toNat = fifo.octets - 1 - fifo.distZ (z2F1 fifo.toFifo) (z1F1 fifo.toFifo) :=
    freeTxZ_toNat (on.z1 _ on.f1) (on.z2 _ on.f1)
  rw [free, show z2F1 fifo.toFifo = z2F2 fifo.toFifo from congrArg fifo.z2 transparent, ← MemFifo.waiting]
  split <;> omega

theorem fifoUsedTx_eq (transparent : fifo.f1 = fifo.f2) (on : fifo.InRange) :
    ∃ used, fifoUsedTx fifo.toFifo = some used ∧ used.toNat = fifo.waiting := by
  obtain ⟨used, used_eq, dist⟩ := usedZ_eq fifo.small (on.z1 _ on.f1) (on.z2 _ on.f1)
  refine ⟨used, used_eq, dist.trans ?_⟩
  rw [MemFifo.waiting, z2F2, ← transparent]
  rfl

theorem fifoUsedRx_eq (transparent : fifo.f1 = fifo.f2) (on : fifo.InRange) :
    ∃ used, fifoUsedRx fifo.toFifo = some used ∧ used.toNat = fifo.waiting := by
  obtain ⟨used, used_eq, dist⟩ := usedZ_eq fifo.small (on.z1 _ on.f2) (on.z2 _ on.f2)
  refine ⟨used, used_eq, dist.trans ?_⟩
  rw [MemFifo.waiting, z1F1, transparent]
  rfl

/-- The octet for the statistics leaves what waits as it is. -/
theorem compensate_keeps (on : fifo.InRange) (buf : List UInt8) (beyond : UInt8) : ∃ mem stats_max stats_min stats_cycles,
    compensate fifo buf beyond = { fifo with mem, stats_max, stats_min, stats_cycles } ∧
      window fifo.mem_base fifo.octets mem (cell fifo (z2F2 fifo.toFifo)) fifo.waiting = content fifo (z2F2 fifo.toFifo) fifo.waiting := by
  have room := waiting_lt fifo
  obtain ⟨l, stats_max, stats_min, stats_cycles, few, is⟩ := compensate_eq on buf beyond
  refine ⟨_, _, _, _, is, ?_⟩
  rw [cell_z1F1 on]
  exact window_store_behind (on_cell (on_z2F2 on)) (by omega)

/-- A write that finds too much waiting leaves it as it is. -/
theorem stChanWrite_trims (transparent : fifo.f1 = fifo.f2) (on : fifo.InRange) (much : fifo.waiting > 10) (buf : List UInt8) (beyond : UInt8) :
    ∃ mem stats_max stats_min stats_cycles, stChanWrite fifo buf beyond =
        some ({ fifo with mem, stats_max, stats_min, stats_cycles }, min buf.length (fifo.octets - 1 - fifo.waiting)) ∧
      window fifo.mem_base fifo.octets mem (cell fifo (z2F2 fifo.toFifo)) fifo.waiting = content fifo (z2F2 fifo.toFifo) fifo.waiting := by
  obtain ⟨used, used_eq, used_waiting⟩ := fifoUsedTx_eq transparent on
  obtain ⟨mem, stats_max, stats_min, stats_cycles, is, kept⟩ := compensate_keeps on buf beyond
  refine ⟨mem, stats_max, stats_min, stats_cycles, ?_, kept⟩
  simp only [stChanWrite, copied_eq transparent on, used_eq, is, Option.bind_eq_bind, Option.bind_some]
  rw [if_pos (by omega)]
  rfl

/-- Another puts what it has copied behind what waits, and increments Z1 by the count. -/
theorem stChanWrite_copies (transparent : fifo.f1 = fifo.f2) (on : fifo.InRange) (few : ¬fifo.waiting > 10) (buf : List UInt8) (beyond : UInt8) :
    let copied := min buf.length (fifo.octets - 1 - fifo.waiting)
    ∃ mem stats_max stats_min stats_cycles, stChanWrite fifo buf beyond =
        some (putZ1F1 { fifo with mem, stats_max, stats_min, stats_cycles } (zInc fifo.toFifo (z1F1 fifo.toFifo) (.ofNat buf.length)), copied) ∧
      window fifo.mem_base fifo.octets mem (cell fifo (z2F2 fifo.toFifo)) (fifo.waiting + copied) =
        content fifo (z2F2 fifo.toFifo) fifo.waiting ++ buf.take copied := by
  intro copied
  have room := waiting_lt fifo
  obtain ⟨used, used_eq, used_waiting⟩ := fifoUsedTx_eq transparent on
  obtain ⟨mem, stats_max, stats_min, stats_cycles, is, kept⟩ := compensate_keeps on buf beyond
  have length : (buf.take copied).length = copied := List.length_take_of_le (Nat.min_le_left _ _)
  have fits : (buf.take copied).length ≤ fifo.octets := by omega
  -- the FIFO when the octets are written
  let before : MemFifo := { fifo with
    mem
    stats_max := if used.toNat + copied > stats_max then (used.toNat + copied : Int) else stats_max
    stats_min := if used.toNat < stats_min then (used.toNat : Int) else stats_min
    stats_cycles }
  refine ⟨store fifo.mem_base fifo.octets mem (cell fifo (z1F1 fifo.toFifo)) (buf.take copied), before.stats_max, before.stats_min, stats_cycles, ?_, ?_⟩
  · simp only [stChanWrite, copied_eq transparent on, used_eq, is, Option.bind_eq_bind, Option.bind_some]
    rw [if_neg (by omega)]
    have write_eq := fifoMemWrite_eq before (on.z1 _ on.f1) fits
    change some (putZ1F1 (fifoMemWrite before (buf.take copied)) (zInc (fifoMemWrite before (buf.take copied)).toFifo
      (z1F1 (fifoMemWrite before (buf.take copied)).toFifo) (.ofNat buf.length)), copied) = _
    rw [write_eq]
    rfl
  · have stored := content_store before on (by rw [length]; show fifo.waiting + copied ≤ fifo.octets; omega)
    rw [length] at stored
    exact stored.trans (congrArg (· ++ buf.take copied) kept)

/-! ## The queue -/

theorem putZ1F1_inRange (on : fifo.InRange) (on_z : fifo.OnZ z) : (putZ1F1 fifo z).InRange := by
  refine ⟨on.f1, on.f2, fun f on_f => ?_, on.z2⟩
  change fifo.OnZ (Function.update fifo.z1 fifo.f1 z f)
  rw [Function.update_apply]
  split
  · exact on_z
  · exact on.z1 f on_f

theorem putZ2F2_inRange (on : fifo.InRange) (on_z : fifo.OnZ z) : (putZ2F2 fifo z).InRange := by
  refine ⟨on.f1, on.f2, on.z1, fun f on_f => ?_⟩
  change fifo.OnZ (Function.update fifo.z2 fifo.f2 z f)
  rw [Function.update_apply]
  split
  · exact on_z
  · exact on.z2 f on_f

theorem putZ1F1_waiting (fifo : MemFifo) (z : UInt16) : (putZ1F1 fifo z).waiting = fifo.distZ (z2F2 fifo.toFifo) z := by
  unfold MemFifo.waiting
  exact congrArg (fifo.distZ (z2F2 fifo.toFifo)) (Function.update_self ..)

theorem putZ2F2_waiting (fifo : MemFifo) (z : UInt16) : (putZ2F2 fifo z).waiting = fifo.distZ z (z1F1 fifo.toFifo) := by
  unfold MemFifo.waiting
  exact congrArg (fifo.distZ · (z1F1 fifo.toFifo)) (Function.update_self ..)

/-- Z1 that has gone so many octets on has as many more waiting, and no other has. -/
theorem distZ_eq_iff (on : fifo.InRange) (on_z : fifo.OnZ z) {n : Nat} (room : fifo.waiting + n < fifo.octets) :
    fifo.distZ (z2F2 fifo.toFifo) z = fifo.waiting + n ↔ z.toNat = fifo.stepZ n (z1F1 fifo.toFifo).toNat := by
  have on2 := on_z2F2 on
  have z1 : (z1F1 fifo.toFifo).toNat = fifo.stepZ fifo.waiting (z2F2 fifo.toFifo).toNat := (iterate_dist on2 (on_z1F1 on)).symm
  have further : fifo.stepZ n (z1F1 fifo.toFifo).toNat = fifo.stepZ (fifo.waiting + n) (z2F2 fifo.toFifo).toNat := by
    rw [z1, Geometry.stepZ, Geometry.stepZ, Geometry.stepZ, ← Function.iterate_add_apply, Nat.add_comm]
  rw [further]
  constructor
  · intro far
    rw [← far]
    exact (iterate_dist on2 on_z).symm
  · intro there
    rw [Geometry.distZ, there]
    exact (dist_iterate on2 _).trans (Nat.mod_eq_of_lt room)

theorem write_carries_iff (carries : Carries s) (buf : List UInt8) (beyond : UInt8) :
    (∀ t, txNext s (.write buf beyond) = some t → Carries t) ↔ TxEvent.Fits s (.write buf beyond) := by
  obtain ⟨transparent, on, queue⟩ := carries
  have room := waiting_lt s.fifo
  unfold TxEvent.Fits
  dsimp only
  generalize copied_is : min buf.length (s.fifo.octets - 1 - s.fifo.waiting) = copied
  have length : (buf.take copied).length = copied := List.length_take_of_le (by omega)
  by_cases much : s.fifo.waiting > 10
  · obtain ⟨mem, stats_max, stats_min, stats_cycles, is, kept⟩ := stChanWrite_trims transparent on much buf beyond
    rw [if_pos much]
    simp only [txNext, is, copied_is, Option.bind_eq_bind, Option.bind_some]
    constructor
    · intro all
      have after := (all _ rfl).queue
      have same : s.consumed ++ window s.fifo.mem_base s.fifo.octets mem (cell s.fifo (z2F2 s.fifo.toFifo)) s.fifo.waiting =
          s.accepted ++ buf.take copied := after
      rw [kept, queue] at same
      rw [← length, List.self_eq_append_right.mp same]
      rfl
    · rintro none_copied t is_t
      cases is_t
      refine ⟨transparent, on, ?_⟩
      rw [none_copied, List.take_zero, List.append_nil, ← queue]
      exact congrArg (s.consumed ++ ·) kept
  · obtain ⟨mem, stats_max, stats_min, stats_cycles, is, stored⟩ := stChanWrite_copies transparent on much buf beyond
    rw [copied_is] at is stored
    have cut : UInt16.ofNat buf.length = UInt16.ofNat (buf.length % 65536) := by
      rw [← UInt16.toNat_inj, UInt16.toNat_ofNat', UInt16.toNat_ofNat', Nat.mod_mod]
    have inc_iff := incZ_iff (on_z1F1 on) (Nat.mod_lt buf.length (by decide : 0 < 65536)) (by omega : copied < s.fifo.octets)
    rw [← cut] at inc_iff
    rw [if_neg much, ← inc_iff]
    simp only [txNext, is, Option.bind_eq_bind, Option.bind_some]
    generalize zInc s.fifo.toFifo (z1F1 s.fifo.toFifo) (.ofNat buf.length) = z
    have carries_iff : (∀ t, some { s with
        fifo := putZ1F1 { s.fifo with mem, stats_max, stats_min, stats_cycles } z
        accepted := s.accepted ++ buf.take copied } = some t → Carries t) ↔ s.fifo.OnZ z ∧
          s.consumed ++ window s.fifo.mem_base s.fifo.octets mem (cell s.fifo (z2F2 s.fifo.toFifo))
            (s.fifo.distZ (z2F2 s.fifo.toFifo) z) = s.accepted ++ buf.take copied := by
      constructor
      · intro all
        have after := all _ rfl
        have on' := on_z1F1 after.on
        have queue' := after.queue
        rw [putZ1F1_waiting] at queue'
        rw [show z1F1 (putZ1F1 _ z).toFifo = z from Function.update_self ..] at on'
        exact ⟨on', queue'⟩
      · rintro ⟨on_z, queue'⟩ t is_t
        cases is_t
        refine ⟨transparent, putZ1F1_inRange on on_z, ?_⟩
        rw [putZ1F1_waiting]
        exact queue'
    refine carries_iff.trans ⟨?_, fun there => ?_⟩
    · rintro ⟨on_z, queue'⟩
      have lengths := congrArg List.length (queue'.trans (congrArg (· ++ buf.take copied) queue.symm))
      rw [List.append_assoc, List.length_append, List.length_append, List.length_append, length, content, length_window,
        length_window] at lengths
      exact (distZ_eq_iff on on_z (by omega)).mp (by omega)
    · have on_z := stepZ_onZ (on_z1F1 on) there
      rw [(distZ_eq_iff on on_z (by omega)).mpr there, stored, ← List.append_assoc, queue]
      exact ⟨on_z, rfl⟩

/-- A position that goes on towards another is as much nearer. -/
theorem distZ_taken {a b : UInt16} (on_a : fifo.OnZ a) (on_b : fifo.OnZ b) {n : Nat} (there : n ≤ fifo.distZ a b)
    (stepped : z.toNat = fifo.stepZ n a.toNat) : fifo.distZ z b = fifo.distZ a b - n := by
  have round : fifo.distZ a b < fifo.octets := dist_lt (Nat.succ_pos _)
  have far : b.toNat = fifo.stepZ (fifo.distZ a b - n) z.toNat := by
    rw [stepped, Geometry.stepZ, Geometry.stepZ, ← Function.iterate_add_apply, Nat.sub_add_cancel there]
    exact (iterate_dist on_a on_b).symm
  rw [Geometry.distZ, far]
  exact (dist_iterate (stepZ_onZ on_a stepped) _).trans (Nat.mod_eq_of_lt (by omega))

/-- Octets taken at Z2, which goes as many on, are those that have waited longest. -/
theorem take_carries (carries : Carries s) {n : Nat} (there : n ≤ s.fifo.waiting) (stepped : z.toNat = s.fifo.stepZ n (z2F2 s.fifo.toFifo).toNat) :
    Carries { s with fifo := putZ2F2 s.fifo z, consumed := s.consumed ++ content s.fifo (z2F2 s.fifo.toFifo) n } := by
  obtain ⟨transparent, on, queue⟩ := carries
  have room := waiting_lt s.fifo
  have on_z := stepZ_onZ (on_z2F2 on) stepped
  have z2 : z2F2 (putZ2F2 s.fifo z).toFifo = z := Function.update_self ..
  have fewer : (putZ2F2 s.fifo z).waiting = s.fifo.waiting - n := by
    rw [putZ2F2_waiting]
    exact distZ_taken (on_z2F2 on) (on_z1F1 on) there stepped
  refine ⟨transparent, putZ2F2_inRange on on_z, ?_⟩
  have rest : content s.fifo (z2F2 s.fifo.toFifo) s.fifo.waiting =
      content s.fifo (z2F2 s.fifo.toFifo) n ++ content s.fifo z (s.fifo.waiting - n) := by
    rw [content, content, content, cell_step (on_z2F2 on) stepped, ← window_add, Nat.add_sub_cancel' there]
  rw [z2, fewer, List.append_assoc]
  exact (congrArg (s.consumed ++ ·) rest.symm).trans queue

theorem toNat_stepZ (on : fifo.OnZ z) (n : Nat) : (UInt16.ofNat (fifo.stepZ n z.toNat)).toNat = fifo.stepZ n z.toNat := by
  obtain ⟨least, last⟩ := iterate_on on n
  have octets : fifo.octets = fifo.z_max.toNat - fifo.z_min.toNat + 1 := rfl
  have order := UInt16.le_iff_toNat_le.mp fifo.z_order
  have most := fifo.z_max.toNat_lt
  rw [UInt16.toNat_ofNat']
  exact Nat.mod_eq_of_lt (by unfold Geometry.stepZ; omega)

theorem consume_carries (carries : Carries s) {n : Nat} {t : Stream} (took : txNext s (.consume n) = some t) : Carries t := by
  by_cases there : n ≤ s.fifo.waiting
  · rw [txNext, if_pos there] at took
    cases took
    exact take_carries carries there (toNat_stepZ (on_z2F2 carries.on) n)
  · rw [txNext, if_neg there] at took
    cases took

theorem setStats_carries {fifo : MemFifo} {accepted consumed : List UInt8} (carries : Carries ⟨fifo, accepted, consumed⟩)
    (stats_max stats_min stats_cycles : Int) : Carries ⟨setStats fifo stats_max stats_min stats_cycles, accepted, consumed⟩ :=
  ⟨carries.transparent, carries.on, carries.queue⟩

/-- A read takes what is there, up to the count. -/
theorem read_carries (carries : Carries s) {count : Nat} {t : Stream} (took : rxNext s (.read count) = some t) : Carries t := by
  obtain ⟨used, used_eq, used_waiting⟩ := fifoUsedRx_eq carries.transparent carries.on
  have room := waiting_lt s.fifo
  simp only [rxNext, stChanRead, used_eq, Option.bind_eq_bind, Option.bind_some, pure] at took
  generalize copied_is : (if used.toNat < count then used.toNat else count) = copied at took
  have there : copied ≤ s.fifo.waiting := by
    rw [← copied_is, used_waiting]
    split <;> omega
  cases took
  have octets := fifoMemReadZ_eq (on_z2F2 carries.on) (by omega : copied ≤ s.fifo.octets)
  have kept := setStats_carries (take_carries carries there (incZ_small (on_z2F2 carries.on) (by omega)))
    (if used.toNat > s.fifo.stats_max then (used.toNat : Int) else s.fifo.stats_max)
    (if (used.toNat : Int) - copied < s.fifo.stats_min then (used.toNat : Int) - copied else s.fifo.stats_min) (s.fifo.stats_cycles + 1)
  rw [← octets] at kept
  exact kept

/-- The chip puts octets behind what waits. -/
theorem fill_carries (carries : Carries s) {octets : List UInt8} {t : Stream} (took : rxNext s (.fill octets) = some t) : Carries t := by
  obtain ⟨transparent, on, queue⟩ := carries
  by_cases room : s.fifo.waiting + octets.length < s.fifo.octets
  · rw [rxNext, if_pos room] at took
    cases took
    have stepped := toNat_stepZ (on_z1F1 on) octets.length
    have on_z := stepZ_onZ (on_z1F1 on) stepped
    refine ⟨transparent, putZ1F1_inRange on on_z, ?_⟩
    have far := (distZ_eq_iff on on_z room).mpr stepped
    have queue' : s.consumed ++ window s.fifo.mem_base s.fifo.octets
        (store s.fifo.mem_base s.fifo.octets s.fifo.mem (cell s.fifo (z1F1 s.fifo.toFifo)) octets)
        (cell s.fifo (z2F2 s.fifo.toFifo)) (s.fifo.waiting + octets.length) = s.accepted ++ octets := by
      rw [content_store s.fifo on (by omega), ← List.append_assoc, queue]
    rw [← far] at queue'
    rw [chipPut, putZ1F1_waiting]
    exact queue'
  · rw [rxNext, if_neg room] at took
    cases took

/-! ## All runs -/

/-- A FIFO when it has been reset. -/
def stream (fifo : MemFifo) : Stream where
  fifo := fifoReset fifo
  accepted := []
  consumed := []

theorem reset_transparent (fifo : MemFifo) : (fifoReset fifo).f1 = (fifoReset fifo).f2 ∧
    z2F2 (fifoReset fifo).toFifo = z1F1 (fifoReset fifo).toFifo := by
  have on := (reset_inRange fifo).f1
  obtain ⟨z1, z2, is, all⟩ := fifoReset_eq fifo
  rw [is] at on ⊢
  obtain ⟨z1_max, z2_max⟩ := all fifo.f_max on
  exact ⟨rfl, z2_max.trans z1_max.symm⟩

theorem stream_carries (fifo : MemFifo) : Carries (stream fifo) := by
  obtain ⟨transparent, together⟩ := reset_transparent fifo
  have on := reset_inRange fifo
  refine ⟨transparent, on, ?_⟩
  have nothing : (stream fifo).fifo.waiting = 0 := by
    unfold MemFifo.waiting
    rw [stream, together]
    exact (dist_iterate (on_z1F1 on) 0).trans (Nat.zero_mod _)
  rw [nothing]
  rfl

/-- A FIFO for sending carries the octets as long as the writes fit. -/
theorem tx_carries_iff (fifo : MemFifo) (es : List TxEvent) :
    (∀ before, before <+: es → ∀ s, Run txNext Any (stream fifo) before s → Carries s) ↔ Throughout txNext TxEvent.Fits (stream fifo) es := by
  refine good_iff (fun _ => True) Carries (fun {s e} _ carries => ?_) (fun _ _ => trivial) es trivial (stream_carries fifo)
  cases e with
  | write buf beyond => exact write_carries_iff carries buf beyond
  | consume n => exact iff_of_true (fun _ took => consume_carries carries took) trivial

/-- One for receiving carries them always. -/
theorem rx_carries (fifo : MemFifo) {es : List RxEvent} {s : Stream} (run : Run rxNext Any (stream fifo) es s) : Carries s := by
  refine run.invariant Carries (fun {s t e} carries _ took => ?_) (stream_carries fifo)
  cases e with
  | fill octets => exact fill_carries carries took
  | read count => exact read_carries carries took

end Vstuff.Hfc.Pci
