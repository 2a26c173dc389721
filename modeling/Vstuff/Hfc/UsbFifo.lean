import Vstuff.Lib.Machine
import Mathlib.Data.List.Basic
import Mathlib.Algebra.Ring.Int.Defs

/-! The receive FIFOs of the HFC-USB (`modules/hfc-usb/fifo.c`). A URB brings what has
arrived behind two octets of control, and a frame may take several of them: they are put
together in a buffer until one of them has the end of the frame. The LEDs, the wake-up of the
transmit queues and the change of the line state are left out, a URB is always submitted
again, and memory allocation is taken to succeed. -/
namespace Vstuff.Hfc.Usb
open Transition
set_option linter.all false

/-- `sizeof(struct hfc_fifo_control)`. -/
def controlSize : Nat := 2

/-- `sizeof(fifo->urb_buf)`. -/
def urbBufSize : Nat := 128

/-- `sizeof(fifo->frame_buf)`. -/
def frameBufSize : Nat := 512

/-- The errors that are reported to the leg. -/
inductive RxError where
  | dropped | frAbort | crc
  deriving DecidableEq, Repr

/-- `struct hfc_fifo`, of a FIFO whose channel is connected. `frameBuf` has the first
`frame_buf_len` octets of the buffer; `received` and `errors` are what the leg was given. -/
structure Fifo where
  urbBuf : List UInt8 := List.replicate urbBufSize 0
  frameBuf : List UInt8 := []
  received : List (List UInt8) := []
  errors : List RxError := []
  deriving DecidableEq, Repr

/-- A copy reads or writes behind a buffer. -/
inductive Fault where
  | behindBuffer
  deriving DecidableEq, Repr

/-- A difference with a `sizeof` is unsigned, of 64 bits. -/
def sizeT (n : Int) : Nat := (n % 18446744073709551616).toNat

/-- `fifo_control->eof`. -/
def eof (urbBuf : List UInt8) : Bool := (urbBuf.getD 0 0).toNat % 2 == 1

/-- The end of a frame: two octets of CRC and the status are behind it. -/
def frameEnd (fifo : Fifo) (frame : List UInt8) : Fifo :=
  if frame.length < 3 then { fifo with errors := fifo.errors ++ [.dropped] }
  else if frame.length = 3 then { fifo with errors := fifo.errors ++ [.dropped] }
  else
    let stat := frame.getD (frame.length - 1) 0
    if stat = 0xff then { fifo with errors := fifo.errors ++ [.frAbort] }
    else if stat ≠ 0 then { fifo with errors := fifo.errors ++ [.crc] }
    else { fifo with received := fifo.received ++ [frame.take (frame.length - 3)] }

/-- `hfc_fifo_rx_complete`, for a URB that has brought these octets. A URB that does not fit is
dropped, with the end of the frame if it has one. -/
def rxComplete (fifo : Fifo) (urb : List UInt8) : Except Fault Fifo :=
  let fifo := { fifo with urbBuf := urb ++ fifo.urbBuf.drop urb.length }
  if sizeT (fifo.frameBuf.length + urb.length - controlSize) > frameBufSize then .ok fifo
  else
    let n := sizeT (urb.length - controlSize)
    if controlSize + n > urbBufSize ∨ fifo.frameBuf.length + n > frameBufSize then .error .behindBuffer
    else
      let frame := fifo.frameBuf ++ (fifo.urbBuf.drop controlSize).take n
      if eof fifo.urbBuf then .ok (frameEnd { fifo with frameBuf := [] } frame)
      else .ok { fifo with frameBuf := frame }

/-! ## The frames of a stream -/

/-- What a URB has of the stream, and whether a frame ends there. -/
def piece (urb : List UInt8) : List UInt8 × Bool := (urb.drop controlSize, eof urb)

/-- The frames of a stream of pieces that begins with the rest of a frame, and what is left
of the last one. -/
def cut : List (List UInt8 × Bool) → List UInt8 → List (List UInt8) × List UInt8
  | [], rest => ([], rest)
  | (data, eof) :: more, rest =>
    if eof then ((rest ++ data) :: (cut more []).1, (cut more []).2) else cut more (rest ++ data)

/-- What is to be passed on of a frame: one that is not empty and whose status is good. -/
def passed (frame : List UInt8) : Option (List UInt8) :=
  if 4 ≤ frame.length ∧ frame.getLast? = some 0 then some (frame.take (frame.length - 3)) else none

/-! ## One URB -/

section Urb
variable {fifo t : Fifo} {urb : List UInt8}

theorem sizeT_nonneg {n : Int} (nonneg : 0 ≤ n) (small : n < 18446744073709551616) : sizeT n = n.toNat := by
  rw [sizeT, Int.emod_eq_of_lt nonneg small]

theorem sizeT_neg {n : Int} (neg : n < 0) (near : -2 ≤ n) : 18446744073709551614 ≤ sizeT n := by
  unfold sizeT
  omega

/-- A frame that ends is passed on or reported. -/
theorem frameEnd_eq (fifo : Fifo) (frame : List UInt8) :
    (frameEnd fifo frame).received = fifo.received ++ (passed frame).toList ∧
      (frameEnd fifo frame).frameBuf = fifo.frameBuf := by
  unfold frameEnd passed
  split
  · rename_i short
    rw [if_neg (by omega)]
    simp
  · split
    · rename_i empty
      rw [if_neg (by omega)]
      simp
    · rename_i some
      have last : frame.getLast? = .some (frame.getD (frame.length - 1) 0) := by
        rw [List.getLast?_eq_getElem?, List.getD_eq_getElem?_getD,
          List.getElem?_eq_getElem (by omega : frame.length - 1 < frame.length)]
        rfl
      rw [last]
      dsimp only
      split
      · rename_i abort
        rw [abort, if_neg (by simp)]
        simp
      · split
        · rename_i wrong
          rw [if_neg fun both => wrong (Option.some.inj both.2)]
          simp
        · rename_i good
          rw [if_pos ⟨by omega, by simpa using good⟩]
          simp

/-- A URB with its control octets. -/
theorem rxComplete_whole (held : fifo.frameBuf.length ≤ frameBufSize) (long : controlSize ≤ urb.length)
    (short : urb.length ≤ urbBufSize) :
    rxComplete fifo urb = .ok (
      if fifo.frameBuf.length + (urb.drop controlSize).length > frameBufSize then
        { fifo with urbBuf := urb ++ fifo.urbBuf.drop urb.length }
      else if eof urb then
        frameEnd { fifo with urbBuf := urb ++ fifo.urbBuf.drop urb.length, frameBuf := [] }
          (fifo.frameBuf ++ urb.drop controlSize)
      else { fifo with
        urbBuf := urb ++ fifo.urbBuf.drop urb.length
        frameBuf := fifo.frameBuf ++ urb.drop controlSize }) := by
  simp only [controlSize, urbBufSize, frameBufSize] at held long short
  have total : sizeT (fifo.frameBuf.length + urb.length - controlSize) = fifo.frameBuf.length + (urb.length - 2) := by
    rw [sizeT_nonneg] <;> simp only [controlSize] <;> omega
  have count : sizeT (urb.length - controlSize) = urb.length - 2 := by
    rw [sizeT_nonneg] <;> simp only [controlSize] <;> omega
  have same : eof (urb ++ fifo.urbBuf.drop urb.length) = eof urb := by
    match urb, long with
    | _ :: _, _ => rfl
  have data : ((urb ++ fifo.urbBuf.drop urb.length).drop controlSize).take (urb.length - 2) = urb.drop 2 := by
    rw [controlSize, List.drop_append_of_le_length long, ← List.length_drop, List.take_left' rfl]
  unfold rxComplete
  dsimp only
  rw [total, count, List.length_drop, same, data]
  simp only [controlSize, urbBufSize, frameBufSize]
  by_cases much : fifo.frameBuf.length + (urb.length - 2) > 512
  · simp only [much, ↓reduceIte]
  · have inside : ¬ 2 + (urb.length - 2) > 128 := by omega
    simp only [much, inside, or_self, ↓reduceIte]
    split <;> rfl

/-- A URB without them is dropped, or leads behind the buffers. -/
theorem rxComplete_short (held : fifo.frameBuf.length ≤ frameBufSize) (short : urb.length < controlSize) :
    rxComplete fifo urb = if fifo.frameBuf.length + urb.length < controlSize then
      .ok { fifo with urbBuf := urb ++ fifo.urbBuf.drop urb.length } else .error .behindBuffer := by
  simp only [controlSize, frameBufSize] at held short ⊢
  have count := sizeT_neg (n := urb.length - (2 : Nat)) (by omega) (by omega)
  unfold rxComplete
  simp only [controlSize, urbBufSize, frameBufSize]
  by_cases few : fifo.frameBuf.length + urb.length < 2
  · have total := sizeT_neg (n := fifo.frameBuf.length + urb.length - (2 : Nat)) (by omega) (by omega)
    have much : sizeT (fifo.frameBuf.length + urb.length - (2 : Nat)) > 512 := by omega
    simp only [much, few, ↓reduceIte]
  · have total : sizeT (fifo.frameBuf.length + urb.length - (2 : Nat)) = fifo.frameBuf.length + urb.length - 2 := by
      rw [sizeT_nonneg] <;> omega
    have under : ¬ sizeT (fifo.frameBuf.length + urb.length - (2 : Nat)) > 512 := by omega
    have many : 2 + sizeT (urb.length - (2 : Nat)) > 128 := by omega
    simp only [under, many, few, true_or, ↓reduceIte]

end Urb

/-! ## Runs -/

/-- A URB that is safe to receive: one with its control octets, or one that is dropped. -/
def Sized (fifo : Fifo) (urb : List UInt8) : Prop :=
  controlSize ≤ urb.length ∨ fifo.frameBuf.length + urb.length < controlSize

instance (fifo : Fifo) (urb : List UInt8) : Decidable (Sized fifo urb) := inferInstanceAs (Decidable (_ ∨ _))

/-- A URB the host controller can bring. -/
abbrev Urb := { urb : List UInt8 // urb.length ≤ urbBufSize }

def receive (fifo : Fifo) (urb : Urb) : Except Fault Fifo := rxComplete fifo urb.val

section Runs
variable {fifo t : Fifo}

theorem frameEnd_frameBuf (fifo : Fifo) (frame : List UInt8) : (frameEnd fifo frame).frameBuf = fifo.frameBuf :=
  (frameEnd_eq fifo frame).2

/-- The buffer holds what it has room for, whatever comes. -/
theorem receive_held (held : fifo.frameBuf.length ≤ frameBufSize) (urb : Urb) (took : receive fifo urb = .ok t) :
    t.frameBuf.length ≤ frameBufSize := by
  obtain ⟨urb, short⟩ := urb
  change rxComplete fifo urb = .ok t at took
  by_cases whole : controlSize ≤ urb.length
  · rw [rxComplete_whole held whole short] at took
    cases took
    split
    · exact held
    · rename_i fits
      split
      · rw [frameEnd_frameBuf]
        exact Nat.zero_le _
      · simpa using fits
  · rw [rxComplete_short held (by omega)] at took
    split at took
    · cases took
      exact held
    · cases took

theorem receives_held (urbs : List Urb) (held : fifo.frameBuf.length ≤ frameBufSize)
    (done : urbs.foldlM receive fifo = .ok t) : t.frameBuf.length ≤ frameBufSize := by
  induction urbs generalizing fifo with
  | nil =>
    cases done
    exact held
  | cons urb urbs ih =>
    rw [List.foldlM_cons] at done
    obtain ⟨mid, took, rest⟩ := bind_ok done
    exact ih (receive_held held urb took) rest

theorem receive_ok_iff (held : fifo.frameBuf.length ≤ frameBufSize) (urb : Urb) :
    (∃ t, receive fifo urb = .ok t) ↔ Sized fifo urb.val := by
  obtain ⟨urb, short⟩ := urb
  change (∃ t, rxComplete fifo urb = .ok t) ↔ Sized fifo urb
  unfold Sized
  by_cases whole : controlSize ≤ urb.length
  · rw [rxComplete_whole held whole short]
    exact ⟨fun _ => .inl whole, fun _ => ⟨_, rfl⟩⟩
  · rw [rxComplete_short held (by omega)]
    split
    · rename_i few
      exact ⟨fun _ => .inr few, fun _ => ⟨_, rfl⟩⟩
    · rename_i some
      refine ⟨fun both => ?_, fun either => absurd either (by omega)⟩
      obtain ⟨t, took⟩ := both
      cases took

/-- The buffers are kept in bounds by the URBs that bring their control octets, and by those
that do not while the buffer has next to nothing; by no others. The buffer for frames
never holds more than it has room for. -/
theorem receives_in_bounds_iff (urbs : List Urb) :
    ((∃ t, urbs.foldlM receive {} = .ok t) ↔ Throughout (taken receive) (fun fifo urb => Sized fifo urb.val) {} urbs) ∧
      ∀ t, urbs.foldlM receive {} = .ok t → t.frameBuf.length ≤ frameBufSize := by
  have start : ({} : Fifo).frameBuf.length ≤ frameBufSize := Nat.zero_le _
  constructor
  · exact foldlM_ok_iff (fun fifo => fifo.frameBuf.length ≤ frameBufSize) (fun held => receive_ok_iff held _)
      (fun held took => receive_held held _ took) urbs start
  · exact fun t done => receives_held urbs start done

/-- The channel is stopped while a frame is received, which takes back the URB with nothing in it. -/
example : [⟨[0, 0, 1, 2], by decide⟩, ⟨[], by decide⟩].foldlM receive {} = .error .behindBuffer := by
  decide

/-! ## The frames that are passed on -/

/-- What has been received is the stream: the frames that are complete have been passed on, if
they are to be, and the rest is in the buffer. -/
structure Follows (pieces : List (List UInt8 × Bool)) (rest : List UInt8) (before after : Fifo) : Prop where
  frameBuf : after.frameBuf = (cut pieces rest).2
  received : after.received = before.received ++ (cut pieces rest).1.filterMap passed

/-- At any time. -/
def Tracks (fifo : Fifo) (urbs : List Urb) : Prop :=
  ∀ before, before <+: urbs → ∀ t, before.foldlM receive fifo = .ok t →
    Follows (before.map fun urb => piece urb.val) fifo.frameBuf fifo t

/-- Every frame of the stream, and what is left at its end, has room in the buffer. -/
def Fits (pieces : List (List UInt8 × Bool)) (rest : List UInt8) : Prop :=
  ∀ frame ∈ (cut pieces rest).2 :: (cut pieces rest).1, frame.length ≤ frameBufSize

instance (pieces : List (List UInt8 × Bool)) (rest : List UInt8) : Decidable (Fits pieces rest) :=
  inferInstanceAs (Decidable (∀ frame ∈ _, _))

end Runs

end Vstuff.Hfc.Usb
