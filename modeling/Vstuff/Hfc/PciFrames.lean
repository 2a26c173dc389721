import Vstuff.Hfc.PciQueue

/-! Frame mode of the HFC-S PCI A (`st_chan.c` of `modules/hfc-pci`): each frame counter has its own Z1,
where its frame ends, and the chip sends the frames from F2 on. -/
namespace Vstuff.Hfc.Pci
open Transition Cyclic RingBuffer
set_option linter.all false

/-- A FIFO for frames, with what is not in it: the frames that have been accepted for it, those the
chip has sent, and the octets it has sent of the next one. -/
structure FrameQueue where
  fifo : MemFifo
  accepted : List (List UInt8)
  sent : List (List UInt8)
  sending : List UInt8

/-- A frame is to be sent, on a channel that has a FIFO or not; the chip sends so many octets of a
frame; and it comes to the end of one. -/
inductive FrameEvent where
  | xmit (data : List UInt8) (has_fifo : Bool)
  | octets (n : Nat)
  | closing

section
variable (fifo : MemFifo)

/-- The next frame counter. -/
def nextF (f : UInt8) : UInt8 := fInc fifo.toFifo f 1

/-- `hfc_st_chan_frame_xmit` where there is a FIFO, and whether it answers that all is well. That few
frames are free does no more than to stop the queue of the leg. -/
def stChanFrameXmit (data : List UInt8) : MemFifo × Bool :=
  if (fifoFreeTx fifo.toFifo).toNat < data.length then (fifo, false)
  else
    let fifo := fifoMemWrite fifo data
    -- move Z1 and jump to the next frame
    let newz1 := zInc fifo.toFifo (z1F1 fifo.toFifo) (.ofNat data.length)
    let fifo := putZ1F1 fifo newz1
    let fifo := { fifo with f1 := nextF fifo fifo.f1 }
    (putZ1F1 fifo newz1, true)

/-- The chip goes on with the next frame where it has stopped. -/
def chipClose : MemFifo :=
  { fifo with f2 := nextF fifo fifo.f2, z2 := Function.update fifo.z2 (nextF fifo fifo.f2) (z2F2 fifo.toFifo) }

/-- The cells of so many frames from one on, which begins at a position. -/
def framesFrom (z1 : UInt8 → UInt16) : UInt8 → UInt16 → Nat → List (List Nat)
  | _, _, 0 => []
  | f, z, k + 1 => cells fifo z (fifo.distZ z (z1 f)) :: framesFrom z1 (nextF fifo f) (z1 f) k

/-- And where they end. -/
def endFrom (z1 : UInt8 → UInt16) : UInt8 → UInt16 → Nat → UInt16
  | _, z, 0 => z
  | f, _, k + 1 => endFrom z1 (nextF fifo f) (z1 f) k

end

/-- How many frames have not been sent. -/
def MemFifo.frameCount (fifo : MemFifo) : Nat := fifo.distF fifo.f2 fifo.f1

/-- Their cells; of the first one, those that have not been sent. -/
def MemFifo.unsent (fifo : MemFifo) : List (List Nat) := framesFrom fifo fifo.z1 fifo.f2 (z2F2 fifo.toFifo) fifo.frameCount

def frameNext (s : FrameQueue) : FrameEvent → Option FrameQueue
  | .xmit data has_fifo =>
    if !has_fifo then some { s with accepted := s.accepted ++ [data] }
    else
      let (fifo, ok) := stChanFrameXmit s.fifo data
      some { s with fifo, accepted := if ok then s.accepted ++ [data] else s.accepted }
  | .octets n =>
    if s.fifo.f1 ≠ s.fifo.f2 ∧ n ≤ s.fifo.distZ (z2F2 s.fifo.toFifo) (z1F2 s.fifo.toFifo) then
      let (fifo, octets) := chipTake s.fifo n
      some { s with fifo, sending := s.sending ++ octets }
    else none
  | .closing =>
    if s.fifo.f1 ≠ s.fifo.f2 ∧ z2F2 s.fifo.toFifo = z1F2 s.fifo.toFifo then
      some { s with fifo := chipClose s.fifo, sent := s.sent ++ [s.sending], sending := [] }
    else none

/-- The octets that have been sent of the first frame come before those that have not. -/
def continued (sending : List UInt8) : List (List UInt8) → List (List UInt8)
  | [] => []
  | data :: rest => (sending ++ data) :: rest

/-- The frames sent and those that are not sent are the ones accepted, in order, one for each frame
counter from F2 to F1; no cell is one of two of these; and the next frame begins where the last ends. -/
structure KeepsFrames (s : FrameQueue) : Prop where
  on : s.fifo.InRange
  queue : s.sent ++ continued s.sending (s.fifo.unsent.map (List.map s.fifo.mem)) = s.accepted
  apart : s.fifo.unsent.flatten.Nodup
  joined : endFrom s.fifo s.fifo.z1 s.fifo.f2 (z2F2 s.fifo.toFifo) s.fifo.frameCount = z1F1 s.fifo.toFifo
  idle : s.fifo.f1 = s.fifo.f2 → s.sending = []

/-- There is a FIFO; and a frame that is not refused is not the one that makes F1 come to F2, and the
octets not sent and its own are no more than there are. -/
def FrameEvent.Fits (s : FrameQueue) : FrameEvent → Prop
  | .xmit data has_fifo => has_fifo = true ∧ (data.length ≤ (fifoFreeTx s.fifo.toFifo).toNat →
      s.fifo.frameCount + 1 < s.fifo.frames ∧ s.fifo.unsent.flatten.length + data.length ≤ s.fifo.octets)
  | _ => True

/-! ## The frames -/

variable {fifo : MemFifo} {s : FrameQueue} {z1 z1' : UInt8 → UInt16} {f : UInt8} {z : UInt16} {k : Nat}

theorem nextF_toNat (on : fifo.OnF f) : (nextF fifo f).toNat = fifo.stepF 1 f.toNat := incF_toNat on (Nat.succ_pos _)

theorem nextF_iterate (on : fifo.OnF f) (k : Nat) : ((nextF fifo)^[k] f).toNat = fifo.stepF k f.toNat ∧ fifo.OnF ((nextF fifo)^[k] f) := by
  induction k with
  | zero => exact ⟨rfl, on⟩
  | succ k ih =>
    obtain ⟨value, on_k⟩ := ih
    have next := nextF_toNat on_k
    rw [Function.iterate_succ_apply']
    refine ⟨?_, stepF_onF on_k next⟩
    rw [next, value, Geometry.stepF, Geometry.stepF, Geometry.stepF, ← Function.iterate_add_apply, Nat.add_comm]

/-- So many frames behind another comes the counter that is so far away. -/
theorem nextF_dist {g : UInt8} (on : fifo.OnF f) (on' : fifo.OnF g) : (nextF fifo)^[fifo.distF f g] f = g := by
  rw [← UInt8.toNat_inj, (nextF_iterate on _).1]
  exact iterate_dist on on'

theorem distF_iterate (on : fifo.OnF f) {k : Nat} (few : k < fifo.frames) : fifo.distF f ((nextF fifo)^[k] f) = k := by
  rw [Geometry.distF, (nextF_iterate on k).1]
  exact (dist_iterate on k).trans (Nat.mod_eq_of_lt few)

theorem nextF_ne (on : fifo.OnF f) {i j : Nat} (less : i < j) (round : j < fifo.frames) : (nextF fifo)^[i] f ≠ (nextF fifo)^[j] f := by
  intro same
  have values := congrArg UInt8.toNat same
  rw [(nextF_iterate on i).1, (nextF_iterate on j).1] at values
  exact iterate_ne on less round values

/-- What is in the other frame counters does not matter. -/
theorem framesFrom_congr (fifo : MemFifo) (z1 z1' : UInt8 → UInt16) (same : ∀ j < k, z1' ((nextF fifo)^[j] f) = z1 ((nextF fifo)^[j] f)) :
    framesFrom fifo z1' f z k = framesFrom fifo z1 f z k ∧ endFrom fifo z1' f z k = endFrom fifo z1 f z k := by
  induction k generalizing f z with
  | zero => exact ⟨rfl, rfl⟩
  | succ k ih =>
    have first : z1' f = z1 f := same 0 (Nat.succ_pos k)
    obtain ⟨frames, ends⟩ := ih (f := nextF fifo f) (z := z1 f) fun j below => same (j + 1) (Nat.succ_lt_succ below)
    rw [framesFrom, framesFrom, endFrom, endFrom, first, frames, ends]
    exact ⟨rfl, rfl⟩

/-- Neither do the octets and the frame counters. -/
theorem framesFrom_layout (fifo : MemFifo) (mem : Nat → UInt8) (f1 f2 : UInt8) (y1 y2 z1 : UInt8 → UInt16) (k : Nat) :
    framesFrom { fifo with mem, f1, f2, z1 := y1, z2 := y2 } z1 f z k = framesFrom fifo z1 f z k ∧
      endFrom { fifo with mem, f1, f2, z1 := y1, z2 := y2 } z1 f z k = endFrom fifo z1 f z k := by
  induction k generalizing f z with
  | zero => exact ⟨rfl, rfl⟩
  | succ k ih =>
    obtain ⟨frames, ends⟩ := ih (f := nextF fifo f) (z := z1 f)
    exact ⟨congrArg (cells fifo z (fifo.distZ z (z1 f)) :: ·) frames, ends⟩

/-- One frame more comes behind those that are there. -/
theorem framesFrom_succ (fifo : MemFifo) (z1 : UInt8 → UInt16) (k : Nat) :
    framesFrom fifo z1 f z (k + 1) = framesFrom fifo z1 f z k ++
        [cells fifo (endFrom fifo z1 f z k) (fifo.distZ (endFrom fifo z1 f z k) (z1 ((nextF fifo)^[k] f)))] ∧
      endFrom fifo z1 f z (k + 1) = z1 ((nextF fifo)^[k] f) := by
  induction k generalizing f z with
  | zero => exact ⟨rfl, rfl⟩
  | succ k ih =>
    obtain ⟨frames, ends⟩ := ih (f := nextF fifo f) (z := z1 f)
    exact ⟨congrArg (cells fifo z (fifo.distZ z (z1 f)) :: ·) frames, ends⟩

/-- The frames lie one behind the other. -/
theorem flatten_framesFrom (on_z1 : ∀ f, fifo.OnF f → fifo.OnZ (z1 f)) (on : fifo.OnF f) (on_z : fifo.OnZ z) (k : Nat) :
    ∃ n, (framesFrom fifo z1 f z k).flatten = cells fifo z n ∧ fifo.OnZ (endFrom fifo z1 f z k) ∧
      cell fifo (endFrom fifo z1 f z k) = (step fifo.mem_base fifo.octets)^[n] (cell fifo z) := by
  induction k generalizing f z with
  | zero => exact ⟨0, rfl, on_z, rfl⟩
  | succ k ih =>
    obtain ⟨n, frames, on_end, ends⟩ := ih (f := nextF fifo f) (z := z1 f) (stepF_onF on (nextF_toNat on)) (on_z1 f on)
    have here : cell fifo (z1 f) = (step fifo.mem_base fifo.octets)^[fifo.distZ z (z1 f)] (cell fifo z) :=
      cell_step on_z (iterate_dist on_z (on_z1 f on)).symm
    refine ⟨fifo.distZ z (z1 f) + n, ?_, on_end, ?_⟩
    · rw [framesFrom, List.flatten_cons, frames, cells, cells, cells, here, ← places_add]
    · rw [endFrom, ends, here, ← Function.iterate_add_apply, Nat.add_comm]

theorem length_framesFrom (fifo : MemFifo) (z1 : UInt8 → UInt16) (f : UInt8) (z : UInt16) (k : Nat) :
    (framesFrom fifo z1 f z k).length = k := by
  induction k generalizing f z with
  | zero => rfl
  | succ k ih => rw [framesFrom, List.length_cons, ih]

theorem length_continued (sending : List UInt8) (l : List (List UInt8)) : (continued sending l).length = l.length := by
  cases l <;> rfl

theorem continued_nil (l : List (List UInt8)) : continued [] l = l := by
  cases l <;> rfl

/-- A frame behind others is not the first one. -/
theorem continued_append (sending data : List UInt8) {l : List (List UInt8)} (idle : l = [] → sending = []) :
    continued sending (l ++ [data]) = continued sending l ++ [data] := by
  cases l with
  | nil => rw [idle rfl]; rfl
  | cons d l => rfl

theorem frameCount_lt (fifo : MemFifo) : fifo.frameCount < fifo.frames := dist_lt (Nat.succ_pos _)

theorem frameCount_eq_zero (on : fifo.InRange) : fifo.frameCount = 0 ↔ fifo.f1 = fifo.f2 := by
  have last := nextF_dist on.f2 on.f1
  constructor
  · intro none
    rw [← MemFifo.frameCount, none] at last
    exact last.symm
  · intro same
    rw [MemFifo.frameCount, ← same]
    exact distF_iterate on.f1 (Nat.succ_pos _) (k := 0)

/-! ## A frame to be sent -/

/-- What has become of a FIFO that has taken a frame. -/
def taken (fifo : MemFifo) (data : List UInt8) (newz1 : UInt16) : MemFifo :=
  { fifo with
    mem := store fifo.mem_base fifo.octets fifo.mem (cell fifo (z1F1 fifo.toFifo)) data
    f1 := nextF fifo fifo.f1
    z1 := Function.update (Function.update fifo.z1 fifo.f1 newz1) (nextF fifo fifo.f1) newz1 }

theorem stChanFrameXmit_eq (on : fifo.InRange) (data : List UInt8) :
    ((fifoFreeTx fifo.toFifo).toNat < data.length ∧ stChanFrameXmit fifo data = (fifo, false)) ∨
      data.length ≤ (fifoFreeTx fifo.toFifo).toNat ∧ data.length < fifo.octets ∧
        ∃ newz1, stChanFrameXmit fifo data = (taken fifo data newz1, true) ∧
          newz1.toNat = fifo.stepZ data.length (z1F1 fifo.toFifo).toNat := by
  by_cases full : (fifoFreeTx fifo.toFifo).toNat < data.length
  · exact .inl ⟨full, if_pos full⟩
  · have free : (fifoFreeTx fifo.toFifo).toNat = fifo.octets - 1 - fifo.distZ (z2F1 fifo.toFifo) (z1F1 fifo.toFifo) :=
      freeTxZ_toNat (on_z1F1 on) (on.z2 _ on.f1)
    have below : data.length < fifo.octets := by
      have some_octet : 0 < fifo.octets := Nat.succ_pos _
      omega
    refine .inr ⟨Nat.not_lt.mp full, below, _, ?_, incZ_small (on_z1F1 on) below⟩
    unfold stChanFrameXmit
    rw [if_neg full, fifoMemWrite_eq fifo (on_z1F1 on) (Nat.le_of_lt below)]
    rfl

section
variable {data : List UInt8} {newz1 : UInt16}

theorem taken_inRange (data : List UInt8) (on : fifo.InRange) (on_z : fifo.OnZ newz1) : (taken fifo data newz1).InRange := by
  have on_next := stepF_onF on.f1 (nextF_toNat on.f1)
  refine ⟨on_next, on.f2, fun f on_f => ?_, on.z2⟩
  change fifo.OnZ (Function.update (Function.update fifo.z1 fifo.f1 newz1) (nextF fifo fifo.f1) newz1 f)
  rw [Function.update_apply, Function.update_apply]
  split_ifs
  · exact on_z
  · exact on_z
  · exact on.z1 f on_f

/-- One frame more waits, unless F1 has come round to F2. -/
theorem taken_frameCount (on : fifo.InRange) :
    (taken fifo data newz1).frameCount = if fifo.frameCount + 1 < fifo.frames then fifo.frameCount + 1 else 0 := by
  have few := frameCount_lt fifo
  have last : (nextF fifo fifo.f1).toNat = fifo.stepF (fifo.frameCount + 1) fifo.f2.toNat := by
    rw [nextF_toNat on.f1, Geometry.stepF, Geometry.stepF, Nat.add_comm, Function.iterate_add_apply]
    exact congrArg _ (iterate_dist on.f2 on.f1).symm
  have dist : (taken fifo data newz1).frameCount = (fifo.frameCount + 1) % fifo.frames := by
    have value : fifo.distF fifo.f2 (nextF fifo fifo.f1) = (fifo.frameCount + 1) % fifo.frames := by
      rw [Geometry.distF, last]
      exact dist_iterate on.f2 _
    exact value
  rw [dist]
  split
  · next less => exact Nat.mod_eq_of_lt less
  · next full =>
    rw [show fifo.frameCount + 1 = fifo.frames by omega]
    exact Nat.mod_self _

/-- The new frame is behind those that wait. -/
theorem taken_unsent (on : fifo.InRange) (room : fifo.frameCount + 1 < fifo.frames) (below : data.length < fifo.octets)
    (joined : endFrom fifo fifo.z1 fifo.f2 (z2F2 fifo.toFifo) fifo.frameCount = z1F1 fifo.toFifo)
    (stepped : newz1.toNat = fifo.stepZ data.length (z1F1 fifo.toFifo).toNat) :
    (taken fifo data newz1).unsent = fifo.unsent ++ [cells fifo (z1F1 fifo.toFifo) data.length] ∧
      endFrom (taken fifo data newz1) (taken fifo data newz1).z1 fifo.f2 (z2F2 fifo.toFifo) (taken fifo data newz1).frameCount = newz1 := by
  have count : (taken fifo data newz1).frameCount = fifo.frameCount + 1 := by
    rw [taken_frameCount on, if_pos room]
  have here : (nextF fifo)^[fifo.frameCount] fifo.f2 = fifo.f1 := nextF_dist on.f2 on.f1
  have next : (nextF fifo)^[fifo.frameCount + 1] fifo.f2 = nextF fifo fifo.f1 := by
    rw [Function.iterate_succ_apply', here]
  obtain ⟨frames, ends⟩ := framesFrom_congr fifo fifo.z1 (taken fifo data newz1).z1 (f := fifo.f2)
    (z := z2F2 fifo.toFifo) (k := fifo.frameCount) fun j less => by
      have not_here : (nextF fifo)^[j] fifo.f2 ≠ fifo.f1 := here ▸ nextF_ne on.f2 less (by omega)
      have not_next : (nextF fifo)^[j] fifo.f2 ≠ nextF fifo fifo.f1 := next ▸ nextF_ne on.f2 (by omega) room
      exact (Function.update_of_ne not_next ..).trans (Function.update_of_ne not_here ..)
  obtain ⟨frames_succ, ends_succ⟩ := framesFrom_succ fifo (taken fifo data newz1).z1 (f := fifo.f2)
    (z := z2F2 fifo.toFifo) fifo.frameCount
  have z1_here : (taken fifo data newz1).z1 fifo.f1 = newz1 := by
    change Function.update (Function.update fifo.z1 fifo.f1 newz1) (nextF fifo fifo.f1) newz1 fifo.f1 = newz1
    rw [Function.update_apply, Function.update_self, ite_self]
  have far : fifo.distZ (z1F1 fifo.toFifo) newz1 = data.length := by
    rw [Geometry.distZ, stepped]
    exact (dist_iterate (on_z1F1 on) _).trans (Nat.mod_eq_of_lt below)
  rw [here, z1_here] at ends_succ
  rw [here, z1_here, frames, ends, joined, far] at frames_succ
  obtain ⟨frames_taken, ends_taken⟩ := framesFrom_layout fifo (taken fifo data newz1).mem (taken fifo data newz1).f1 fifo.f2
    (taken fifo data newz1).z1 fifo.z2 (taken fifo data newz1).z1 (f := fifo.f2) (z := z2F2 fifo.toFifo) (fifo.frameCount + 1)
  rw [count]
  refine ⟨?_, ends_taken.trans ends_succ⟩
  unfold MemFifo.unsent
  rw [count]
  exact frames_taken.trans frames_succ

/-- The cells of the new frame are others if there is room for all. -/
theorem taken_apart_iff (on : fifo.InRange) (room : fifo.frameCount + 1 < fifo.frames) (below : data.length < fifo.octets)
    (joined : endFrom fifo fifo.z1 fifo.f2 (z2F2 fifo.toFifo) fifo.frameCount = z1F1 fifo.toFifo)
    (stepped : newz1.toNat = fifo.stepZ data.length (z1F1 fifo.toFifo).toNat) :
    (taken fifo data newz1).unsent.flatten.Nodup ↔ fifo.unsent.flatten.length + data.length ≤ fifo.octets := by
  obtain ⟨n, frames, -, ends⟩ := flatten_framesFrom on.z1 on.f2 (on_z2F2 on) fifo.frameCount
  have unsent : fifo.unsent.flatten = cells fifo (z2F2 fifo.toFifo) n := frames
  rw [joined] at ends
  rw [(taken_unsent on room below joined stepped).1, List.flatten_append, unsent, List.flatten_singleton, cells, cells, ends, ← places_add,
    length_places]
  exact nodup_places_iff (on_cell (on_z2F2 on))

/-- The octets of the frames that wait stay where they are, and those of the new one come behind. -/
theorem taken_content (on : fifo.InRange) (room : fifo.frameCount + 1 < fifo.frames) (below : data.length < fifo.octets)
    (joined : endFrom fifo fifo.z1 fifo.f2 (z2F2 fifo.toFifo) fifo.frameCount = z1F1 fifo.toFifo)
    (stepped : newz1.toNat = fifo.stepZ data.length (z1F1 fifo.toFifo).toNat)
    (few : fifo.unsent.flatten.length + data.length ≤ fifo.octets) :
    (taken fifo data newz1).unsent.map (List.map (taken fifo data newz1).mem) = fifo.unsent.map (List.map fifo.mem) ++ [data] := by
  obtain ⟨n, frames, -, ends⟩ := flatten_framesFrom on.z1 on.f2 (on_z2F2 on) fifo.frameCount
  have unsent : fifo.unsent.flatten = cells fifo (z2F2 fifo.toFifo) n := frames
  rw [joined] at ends
  rw [unsent, cells, length_places] at few
  have own : (cells fifo (z1F1 fifo.toFifo) data.length).map (taken fifo data newz1).mem = data := by
    rw [cells, map_places]
    exact window_store (on_cell (on_z1F1 on)) (Nat.le_of_lt below)
  have others : ∀ frame ∈ fifo.unsent, frame.map (taken fifo data newz1).mem = frame.map fifo.mem := by
    intro frame member
    refine List.map_congr_left fun c mem_c => store_apart fun j less same => ?_
    have mem_all : c ∈ fifo.unsent.flatten := List.mem_flatten.mpr ⟨frame, member, mem_c⟩
    rw [unsent, cells, mem_places] at mem_all
    obtain ⟨i, before, rfl⟩ := mem_all
    rw [ends, ← Function.iterate_add_apply] at same
    exact iterate_ne (on_cell (on_z2F2 on)) (by omega) (by omega) same.symm
  rw [(taken_unsent on room below joined stepped).1, List.map_append, List.map_congr_left others, List.map_cons, own, List.map_nil]

theorem xmit_keeps_iff (keeps : KeepsFrames s) (data : List UInt8) (has_fifo : Bool) :
    (∀ t, frameNext s (.xmit data has_fifo) = some t → KeepsFrames t) ↔ FrameEvent.Fits s (.xmit data has_fifo) := by
  have on := keeps.on
  cases has_fifo with
  | false =>
    refine iff_of_false (fun all => ?_) (fun fits => by cases fits.1)
    have lengths := congrArg List.length ((all _ rfl).queue.trans (congrArg (· ++ [data]) keeps.queue.symm))
    simp at lengths
  | true =>
    unfold FrameEvent.Fits
    dsimp only
    rw [and_iff_right rfl]
    obtain ⟨full, refused⟩ | ⟨free, below, newz1, accepted, stepped⟩ := stChanFrameXmit_eq on data
    · simp only [frameNext, refused]
      refine iff_of_true (fun t is => ?_) fun free => absurd free (Nat.not_le.mpr full)
      cases is
      exact keeps
    · rw [forall_prop_of_true free]
      have on_z := stepZ_onZ (on_z1F1 on) stepped
      have one : (∀ t, frameNext s (.xmit data true) = some t → KeepsFrames t) ↔
          KeepsFrames { s with fifo := taken s.fifo data newz1, accepted := s.accepted ++ [data] } := by
        simp only [frameNext, accepted, Bool.not_true, Bool.false_eq_true, if_false, if_true]
        exact ⟨fun all => all _ rfl, fun one t is => by cases is; exact one⟩
      rw [one]
      by_cases room : s.fifo.frameCount + 1 < s.fifo.frames
      · rw [and_iff_right room]
        refine ⟨fun after => (taken_apart_iff on room below keeps.joined stepped).mp after.apart, fun few => ?_⟩
        have on' := taken_inRange data on on_z
        refine ⟨on', ?_, (taken_apart_iff on room below keeps.joined stepped).mpr few, ?_, fun same => ?_⟩
        · have content := taken_content on room below keeps.joined stepped few
          have idle : s.fifo.unsent.map (List.map s.fifo.mem) = [] → s.sending = [] := fun none => by
            have count := length_framesFrom s.fifo s.fifo.z1 s.fifo.f2 (z2F2 s.fifo.toFifo) s.fifo.frameCount
            rw [← MemFifo.unsent, List.map_eq_nil_iff.mp none] at count
            exact keeps.idle ((frameCount_eq_zero on).mp count.symm)
          have queue : s.sent ++ continued s.sending (s.fifo.unsent.map (List.map s.fifo.mem) ++ [data]) = s.accepted ++ [data] := by
            rw [continued_append _ _ idle, ← List.append_assoc, keeps.queue]
          rw [← content] at queue
          exact queue
        · obtain ⟨-, ends⟩ := taken_unsent on room below keeps.joined stepped
          have newest : z1F1 (taken s.fifo data newz1).toFifo = newz1 := Function.update_self ..
          exact ends.trans newest.symm
        · have none := (frameCount_eq_zero on').mpr same
          rw [taken_frameCount on, if_pos room] at none
          cases none
      · refine iff_of_false (fun after => ?_) fun fits => room fits.1
        have none : (taken s.fifo data newz1).unsent = [] := by
          rw [MemFifo.unsent, taken_frameCount on, if_neg room, framesFrom]
        have queue' := after.queue
        rw [none] at queue'
        have lengths := congrArg List.length queue'
        have before := congrArg List.length keeps.queue
        simp only [List.length_append, List.map_nil, continued, List.length_nil, List.length_singleton] at lengths before
        omega

end

/-! ## The chip -/

theorem unsent_cons (fifo : MemFifo) (some_frame : fifo.frameCount = k + 1) :
    fifo.unsent = cells fifo (z2F2 fifo.toFifo) (fifo.distZ (z2F2 fifo.toFifo) (z1F2 fifo.toFifo)) ::
      framesFrom fifo fifo.z1 (nextF fifo fifo.f2) (z1F2 fifo.toFifo) k := by
  rw [MemFifo.unsent, some_frame, framesFrom]
  rfl

theorem exists_frame (on : fifo.InRange) (more : fifo.f1 ≠ fifo.f2) : ∃ k, fifo.frameCount = k + 1 :=
  Nat.exists_eq_succ_of_ne_zero (mt (frameCount_eq_zero on).mp more)

/-- Octets that are taken are the next ones of the first frame. -/
theorem take_keeps (keeps : KeepsFrames s) (more : s.fifo.f1 ≠ s.fifo.f2) {n : Nat}
    (few : n ≤ s.fifo.distZ (z2F2 s.fifo.toFifo) (z1F2 s.fifo.toFifo)) (stepped : z.toNat = s.fifo.stepZ n (z2F2 s.fifo.toFifo).toNat) :
    KeepsFrames { s with fifo := putZ2F2 s.fifo z, sending := s.sending ++ content s.fifo (z2F2 s.fifo.toFifo) n } := by
  obtain ⟨on, queue, apart, joined, idle⟩ := keeps
  obtain ⟨k, count⟩ := exists_frame on more
  have nearer : s.fifo.distZ z (z1F2 s.fifo.toFifo) = s.fifo.distZ (z2F2 s.fifo.toFifo) (z1F2 s.fifo.toFifo) - n :=
    distZ_taken (on_z2F2 on) (on.z1 _ on.f2) few stepped
  have moved : z2F2 (putZ2F2 s.fifo z).toFifo = z := Function.update_self ..
  obtain ⟨frames, ends⟩ := framesFrom_layout s.fifo s.fifo.mem s.fifo.f1 s.fifo.f2 s.fifo.z1 (putZ2F2 s.fifo z).z2 s.fifo.z1
    (f := nextF s.fifo s.fifo.f2) (z := z1F2 s.fifo.toFifo) k
  have before := unsent_cons s.fifo count
  have after : (putZ2F2 s.fifo z).unsent = cells s.fifo z (s.fifo.distZ z (z1F2 s.fifo.toFifo)) ::
      framesFrom s.fifo s.fifo.z1 (nextF s.fifo s.fifo.f2) (z1F2 s.fifo.toFifo) k := by
    have unfolded := unsent_cons (putZ2F2 s.fifo z) count
    rw [moved] at unfolded
    exact unfolded.trans (congrArg (cells s.fifo z (s.fifo.distZ z (z1F2 s.fifo.toFifo)) :: ·) frames)
  have parts : cells s.fifo (z2F2 s.fifo.toFifo) (s.fifo.distZ (z2F2 s.fifo.toFifo) (z1F2 s.fifo.toFifo)) =
      cells s.fifo (z2F2 s.fifo.toFifo) n ++ cells s.fifo z (s.fifo.distZ z (z1F2 s.fifo.toFifo)) := by
    rw [nearer, cells, cells, cells, cell_step (on_z2F2 on) stepped, ← places_add, Nat.add_sub_cancel' few]
  have octets : content s.fifo (z2F2 s.fifo.toFifo) n = (cells s.fifo (z2F2 s.fifo.toFifo) n).map s.fifo.mem := map_places.symm
  rw [parts] at before
  rw [before] at queue apart
  refine ⟨putZ2F2_inRange on (stepZ_onZ (on_z2F2 on) stepped), ?_, ?_, ?_, fun same => absurd same more⟩
  · change s.sent ++ continued _ ((putZ2F2 s.fifo z).unsent.map (List.map s.fifo.mem)) = s.accepted
    rw [after, octets, ← queue, List.map_cons, List.map_cons, continued, continued, List.map_append, List.append_assoc]
  · rw [after]
    rw [List.flatten_cons, List.append_assoc] at apart
    exact (List.nodup_append.mp apart).2.1
  · rw [count, endFrom] at joined
    change endFrom (putZ2F2 s.fifo z) s.fifo.z1 s.fifo.f2 _ s.fifo.frameCount = _
    rw [count, endFrom]
    exact ends.trans joined

theorem octets_keeps (keeps : KeepsFrames s) {n : Nat} {t : FrameQueue} (took : frameNext s (.octets n) = some t) : KeepsFrames t := by
  by_cases there : s.fifo.f1 ≠ s.fifo.f2 ∧ n ≤ s.fifo.distZ (z2F2 s.fifo.toFifo) (z1F2 s.fifo.toFifo)
  · rw [frameNext, if_pos there] at took
    cases took
    exact take_keeps keeps there.1 there.2 (toNat_stepZ (on_z2F2 keeps.on) n)
  · rw [frameNext, if_neg there] at took
    cases took

/-- The frame that has been sent to its end is done, and the next one begins where it ends. -/
theorem closing_keeps (keeps : KeepsFrames s) {t : FrameQueue} (took : frameNext s .closing = some t) : KeepsFrames t := by
  obtain ⟨on, queue, apart, joined, idle⟩ := keeps
  by_cases ended : s.fifo.f1 ≠ s.fifo.f2 ∧ z2F2 s.fifo.toFifo = z1F2 s.fifo.toFifo
  · rw [frameNext, if_pos ended] at took
    cases took
    obtain ⟨more, ended⟩ := ended
    obtain ⟨k, count⟩ := exists_frame on more
    have on_next := stepF_onF on.f2 (nextF_toNat on.f2)
    have moved : z2F2 (chipClose s.fifo).toFifo = z1F2 s.fifo.toFifo := (Function.update_self ..).trans ended
    have count' : (chipClose s.fifo).frameCount = k := by
      have near : s.fifo.distF (nextF s.fifo s.fifo.f2) s.fifo.f1 = k := by
        have few := frameCount_lt s.fifo
        have last := nextF_dist on.f2 on.f1
        rw [← MemFifo.frameCount, count, Function.iterate_succ_apply] at last
        rw [← last]
        exact distF_iterate on_next (by omega)
      exact near
    obtain ⟨frames, ends⟩ := framesFrom_layout s.fifo s.fifo.mem s.fifo.f1 (chipClose s.fifo).f2 s.fifo.z1 (chipClose s.fifo).z2 s.fifo.z1
      (f := nextF s.fifo s.fifo.f2) (z := z1F2 s.fifo.toFifo) k
    have after : (chipClose s.fifo).unsent = framesFrom s.fifo s.fifo.z1 (nextF s.fifo s.fifo.f2) (z1F2 s.fifo.toFifo) k := by
      rw [MemFifo.unsent, count', moved]
      exact frames
    have nothing : s.fifo.distZ (z1F2 s.fifo.toFifo) (z1F2 s.fifo.toFifo) = 0 :=
      (dist_iterate (on.z1 _ on.f2) 0).trans (Nat.zero_mod _)
    have before := unsent_cons s.fifo count
    rw [ended, nothing, ← after] at before
    rw [before] at queue apart
    refine ⟨⟨on.f1, on_next, on.z1, fun f on_f => ?_⟩, ?_, ?_, ?_, fun _ => rfl⟩
    · change s.fifo.OnZ (Function.update s.fifo.z2 (nextF s.fifo s.fifo.f2) (z2F2 s.fifo.toFifo) f)
      rw [Function.update_apply]
      split
      · exact on_z2F2 on
      · exact on.z2 f on_f
    · change (s.sent ++ [s.sending]) ++ continued [] ((chipClose s.fifo).unsent.map (List.map s.fifo.mem)) = s.accepted
      rw [continued_nil, List.append_assoc, ← queue, List.map_cons, continued]
      exact congrArg (fun first => s.sent ++ first :: _) (List.append_nil s.sending).symm
    · exact apart
    · rw [count, endFrom] at joined
      change endFrom (chipClose s.fifo) s.fifo.z1 (nextF s.fifo s.fifo.f2) (z2F2 (chipClose s.fifo).toFifo) (chipClose s.fifo).frameCount = _
      rw [count', moved]
      exact ends.trans joined
  · rw [frameNext, if_neg ended] at took
    cases took

/-! ## All runs -/

/-- A FIFO for frames when it has been reset. -/
def frameQueue (fifo : MemFifo) : FrameQueue where
  fifo := fifoReset fifo
  accepted := []
  sent := []
  sending := []

theorem frameQueue_keeps (fifo : MemFifo) : KeepsFrames (frameQueue fifo) := by
  obtain ⟨same, together⟩ := reset_transparent fifo
  have on := reset_inRange fifo
  have none : (fifoReset fifo).frameCount = 0 := (frameCount_eq_zero on).mpr same
  have no_frame : (frameQueue fifo).fifo.unsent = [] := by
    change (fifoReset fifo).unsent = []
    rw [MemFifo.unsent, none, framesFrom]
  refine ⟨on, ?_, ?_, ?_, fun _ => rfl⟩
  · rw [no_frame]
    rfl
  · rw [no_frame]
    exact List.nodup_nil
  · change endFrom (fifoReset fifo) _ _ (z2F2 (fifoReset fifo).toFifo) (fifoReset fifo).frameCount = z1F1 (fifoReset fifo).toFifo
    rw [none, endFrom, together]

/-- The FIFO memory is a queue: octets that are written come out as they have been accepted, and so do
octets that are received and frames that are written; and what is read and written is in the cells one
behind the other. -/
structure IsQueue (fifo : MemFifo) (writes : List TxEvent) (reads : List RxEvent) (frames : List FrameEvent) : Prop where
  tx : ∀ before, before <+: writes → ∀ s, Run txNext Any (stream fifo) before s → Carries s
  rx : ∀ before, before <+: reads → ∀ s, Run rxNext Any (stream fifo) before s → Carries s
  frames : ∀ before, before <+: frames → ∀ s, Run frameNext Any (frameQueue fifo) before s → KeepsFrames s
  read : ∀ z, fifo.OnZ z → ∀ size ≤ fifo.octets, fifoMemReadZ fifo z size = content fifo z size
  write : fifo.OnZ (z1F1 fifo.toFifo) → ∀ data : List UInt8, data.length ≤ fifo.octets →
    fifoMemWrite fifo data = { fifo with mem := store fifo.mem_base fifo.octets fifo.mem (cell fifo (z1F1 fifo.toFifo)) data }

theorem isQueue_iff (fifo : MemFifo) (writes : List TxEvent) (reads : List RxEvent) (frames : List FrameEvent) :
    IsQueue fifo writes reads frames ↔
      Throughout txNext TxEvent.Fits (stream fifo) writes ∧ Throughout frameNext FrameEvent.Fits (frameQueue fifo) frames := by
  have frames_iff : (∀ before, before <+: frames → ∀ s, Run frameNext Any (frameQueue fifo) before s → KeepsFrames s) ↔
      Throughout frameNext FrameEvent.Fits (frameQueue fifo) frames := by
    refine good_iff (fun _ => True) KeepsFrames (fun {s e} _ keeps => ?_) (fun _ _ => trivial) frames trivial (frameQueue_keeps fifo)
    cases e with
    | xmit data has_fifo => exact xmit_keeps_iff keeps data has_fifo
    | octets n => exact iff_of_true (fun _ took => octets_keeps keeps took) trivial
    | closing => exact iff_of_true (fun _ took => closing_keeps keeps took) trivial
  constructor
  · intro queue
    exact ⟨(tx_carries_iff fifo writes).mp queue.tx, frames_iff.mp queue.frames⟩
  · rintro ⟨tx, through⟩
    exact {
      tx := (tx_carries_iff fifo writes).mpr tx
      rx := fun _ _ _ run => rx_carries fifo run
      frames := frames_iff.mpr through
      read := fun _ on _ room => fifoMemReadZ_eq on room
      write := fun on _ room => fifoMemWrite_eq fifo on room }

theorem short_runs_are_queued : IsQueue (fifoInit dTx) [.write [1, 2, 3] 0, .consume 2, .write [4] 0] [.fill [7, 8], .read 4]
    [.xmit [1, 2] true, .octets 2, .closing] :=
  (isQueue_iff _ _ _ _).mpr ⟨⟨.inl (by decide), trivial, .inl (by decide), trivial⟩,
    ⟨rfl, fun _ => ⟨by decide, by decide⟩⟩, trivial, trivial, trivial⟩

/-- With more than 10 octets waiting a write is accepted and does nothing. -/
theorem trimmed_write_is_accepted : ¬∀ (fifo : MemFifo) (writes : List TxEvent) (reads : List RxEvent) (frames : List FrameEvent),
    IsQueue fifo writes reads frames := by
  intro claim
  obtain ⟨tx, -⟩ := (isQueue_iff (fifoInit dTx) [.write (List.replicate 12 1) 0, .write [2] 0] [] []).mp (claim _ _ _ _)
  exact absurd tx.2.1 (by unfold TxEvent.Fits; decide)

end Vstuff.Hfc.Pci
