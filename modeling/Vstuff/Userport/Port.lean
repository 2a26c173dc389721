import Vstuff.Lib.Machine
import Vstuff.Lib.RingBuffer
import Mathlib.Algebra.Order.Group.Int
import Mathlib.Algebra.GroupWithZero.Nat

/-! The ports of user space (`userport_main.c`). In stream mode the octets of the pipeline wait in a
FIFO of the kernel for the reads; in frame mode each frame is a buffer of its own, and the frames of
the pipeline wait in a queue. -/
namespace Vstuff.Userport
open Transition Cyclic RingBuffer
set_option linter.all false

/-- The size of a FIFO: a power of two that an unsigned number holds. -/
structure Capacity where
  size : UInt32
  exponent : Nat
  power : size.toNat = 2 ^ exponent

/-- `struct kfifo`, but for its size; the counters only go up. -/
structure Kfifo where
  buffer : Nat → UInt8
  «in» : UInt32
  out : UInt32

/-- `struct sk_buff`: a number for it, and the memory of which `len` octets are its data. -/
structure Skb where
  id : Nat
  data : List UInt8
  len : Nat

def Skb.octets (skb : Skb) : List UInt8 := skb.data.take skb.len

/-- An error; `pipeline` stands for what the pipeline has answered. -/
inductive Errno where
  | ebadf | enotconn | enomem | efault | ebusy | einval | pipeline
  deriving DecidableEq, Repr

/-- A channel of the port: not there, in no pipeline that flows, or in one. -/
inductive Link where
  | missing | stopped | flowing
  deriving DecidableEq, Repr

/-- What `kss_chan_push_frame` answers. -/
inductive TxResult where
  | ok | busy | locked | other
  deriving DecidableEq, Repr

namespace Kfifo
variable (cap : Capacity) (fifo : Kfifo)

/-- A counter as a place in the buffer. -/
def mask (pos : UInt32) : Nat := (pos &&& (cap.size - 1)).toNat

def used : Nat := (fifo.in - fifo.out).toNat

/-- The kernel's FIFO takes as much as fits. -/
def put (octets : List UInt8) : Kfifo :=
  let taken := octets.take (cap.size.toNat - fifo.used)
  { fifo with
    buffer := store 0 cap.size.toNat fifo.buffer (mask cap fifo.in) taken
    «in» := fifo.in + UInt32.ofNat taken.length }

/-- `__kfifo_get_user`, and whether each of the two copies to user space succeeds; so many octets as
are less than none do not. -/
def getUser (len : Int) (first second : Bool) : Except Errno (Kfifo × List UInt8) :=
  let len := min len fifo.used
  let l := min len (cap.size.toNat - mask cap fifo.out)
  if !first ∨ l < 0 then .error .efault
  else if !second ∨ len - l < 0 then .error .efault
  else
    .ok ({ fifo with out := fifo.out + UInt32.ofNat len.toNat },
      block fifo.buffer (mask cap fifo.out) l.toNat ++ block fifo.buffer 0 (len - l).toNat)

end Kfifo

/-- `struct ksup_chan`. What is not in it: the octets the FIFO has taken and those the reads have
returned; of the frames, those the pipeline has brought, those taken from the queue, and those
released; and the octets of each write that succeeded, with those of the frame it pushed. -/
structure Port where
  framed : Bool
  read_fifo : Kfifo
  read_queue : List Skb
  accepted : List UInt8
  returned : List UInt8
  pushed : List Nat
  taken : List Nat
  released : List Nat
  written : List (List UInt8 × List UInt8)

/-- Octets and frames come from the pipeline; and user space reads and writes. With a read and a
write comes what else happens: how the channel is, whether copies succeed, whether there is memory,
and what the softswitch answers. -/
inductive Event where
  | pushRaw (octets : List UInt8)
  | pushFrame (skb : Skb)
  | read (link : Link) (count : Nat) (first second : Bool)
  | write (link : Link) (octets : List UInt8) (memory copied : Bool) (result : TxResult)

namespace Port
variable (cap : Capacity) (port : Port)

/-- `ksup_chan_rx_chan_push_raw`. -/
def pushRaw (octets : List UInt8) : Port :=
  { port with
    read_fifo := port.read_fifo.put cap octets
    accepted := port.accepted ++ octets.take (cap.size.toNat - port.read_fifo.used) }

/-- `ksup_chan_rx_chan_push_frame`. -/
def pushFrame (skb : Skb) : Port :=
  { port with read_queue := port.read_queue ++ [skb], pushed := port.pushed ++ [skb.id] }

/-- The reading of a frame. -/
def readFrame (count : Nat) (copied : Bool) : Port × Except Errno (List UInt8) :=
  match port.read_queue with
  | [] => (port, .ok [])
  | skb :: queue =>
    let port := { port with read_queue := queue, taken := port.taken ++ [skb.id] }
    let octets := skb.octets.take (min (count % 2 ^ 32) skb.len)
    if copied then (port, .ok octets)
    else ({ port with released := port.released ++ [skb.id] }, .error .efault)

/-- The reading of a stream: the answer of `__kfifo_get_user` becomes an `int`. -/
def readStream (count : Nat) (first second : Bool) : Port × Except Errno (List UInt8) :=
  match port.read_fifo.getUser cap (Int.bmod count (2 ^ 64)) first second with
  | .error _ => (port, .error .efault)
  | .ok (read_fifo, octets) =>
    let port := { port with read_fifo }
    if Int.bmod octets.length (2 ^ 32) < 0 then (port, .error .efault)
    else ({ port with returned := port.returned ++ octets }, .ok octets)

/-- `ksup_cdev_read`. -/
def read (link : Link) (count : Nat) (first second : Bool) : Port × Except Errno (List UInt8) :=
  match link with
  | .missing => (port, .error .ebadf)
  | .stopped => (port, .error .enotconn)
  | .flowing => if port.framed then port.readFrame count first else port.readStream cap count first second

/-- `ksup_cdev_write_frame`: the octets are copied to where the data begin, and the length is that of
the buffer when it is made. -/
def writeFrame (octets : List UInt8) (memory copied : Bool) (result : TxResult) : Port × Except Errno Nat :=
  if !memory then (port, .error .enomem)
  else if !copied then (port, .error .efault)
  else
    let skb : Skb := { id := 0, data := octets, len := 0 }
    match result with
    | .ok => ({ port with written := port.written ++ [(octets, skb.octets)] }, .ok octets.length)
    | .busy | .locked => (port, .error .ebusy)
    | .other => (port, .error .einval)

/-- `ksup_cdev_write_stream`: a stream frame has room for 1016 octets. -/
def writeStream (octets : List UInt8) (memory copied : Bool) (result : TxResult) : Except Errno Nat :=
  if !memory then .error .enomem
  else if !copied then .error .efault
  else if result = .ok then .ok (min octets.length 1016)
  else .error .pipeline

/-- `ksup_cdev_write`; in stream mode nothing of it is kept. -/
def write (link : Link) (octets : List UInt8) (memory copied : Bool) (result : TxResult) : Port × Except Errno Nat :=
  match link with
  | .missing => (port, .error .ebadf)
  | .stopped => (port, .error .enotconn)
  | .flowing => if port.framed then port.writeFrame octets memory copied result else (port, writeStream octets memory copied result)

def handle : Event → Port
  | .pushRaw octets => port.pushRaw cap octets
  | .pushFrame skb => port.pushFrame skb
  | .read link count first second => (port.read cap link count first second).1
  | .write link octets memory copied result => (port.write link octets memory copied result).1

end Port

def next (cap : Capacity) (port : Port) (e : Event) : Option Port := some (port.handle cap e)

/-- What waits in the FIFO. -/
def Kfifo.content (cap : Capacity) (fifo : Kfifo) : List UInt8 :=
  window 0 cap.size.toNat fifo.buffer (Kfifo.mask cap fifo.out) fifo.used

/-- Nothing is lost and nothing comes twice: the octets taken are those returned and those that wait,
in order. The frames brought are those taken from the queue and those that wait, and those taken are
released. A frame written is the octets of the write. -/
structure Carries (cap : Capacity) (port : Port) : Prop where
  stream : port.returned ++ port.read_fifo.content cap = port.accepted
  order : port.taken ++ port.read_queue.map Skb.id = port.pushed
  release : port.released = port.taken
  frames : ∀ w ∈ port.written, w.2 = w.1

/-- No read of a stream returns 2 ^ 31 octets or more, no read of a frame succeeds, and no write of a
frame but an empty one. -/
def Event.Fits (port : Port) : Event → Prop
  | .read .flowing count first second =>
    if port.framed then port.read_queue = [] ∨ first = false
    else first = true → second = true → 0 ≤ Int.bmod count (2 ^ 64) → min (Int.bmod count (2 ^ 64)) port.read_fifo.used < 2 ^ 31
  | .write .flowing octets memory copied result =>
    port.framed = true → memory = true → copied = true → result = .ok → octets = []
  | _ => True

/-! ## The FIFO -/

variable {cap : Capacity} {fifo : Kfifo} {port : Port} {e : Event} {octets : List UInt8}

theorem Capacity.pos (cap : Capacity) : 0 < cap.size.toNat := by
  rw [cap.power]
  exact Nat.two_pow_pos _

theorem Capacity.dvd (cap : Capacity) : cap.size.toNat ∣ 2 ^ 32 := by
  have below := cap.size.toNat_lt
  rw [cap.power] at below ⊢
  exact Nat.pow_dvd_pow 2 ((Nat.pow_lt_pow_iff_right (by decide)).mp below).le

namespace Kfifo

theorem mask_eq (pos : UInt32) : mask cap pos = pos.toNat % cap.size.toNat := by
  have one : (cap.size - 1).toNat = 2 ^ cap.exponent - 1 := by
    have least : 1 ≤ cap.size := UInt32.le_iff_toNat_le.mpr cap.pos
    rw [UInt32.toNat_sub_of_le _ _ least, cap.power]
    rfl
  rw [mask, UInt32.toNat_and, one, Nat.and_two_pow_sub_one_eq_mod, cap.power]

theorem on_mask (cap : Capacity) (pos : UInt32) : On 0 cap.size.toNat (mask cap pos) := by
  rw [mask_eq]
  exact ⟨Nat.zero_le _, by rw [Nat.zero_add]; exact Nat.mod_lt _ cap.pos⟩

/-- A counter that goes on is so many cells further, also where it wraps. -/
theorem mask_add (pos : UInt32) (j : Nat) : mask cap (pos + UInt32.ofNat j) = (step 0 cap.size.toNat)^[j] (mask cap pos) := by
  rw [iterate_eq (on_mask cap pos), Nat.zero_add, Nat.sub_zero, mask_eq, mask_eq, UInt32.toNat_add, UInt32.toNat_ofNat',
    Nat.add_mod_mod, Nat.mod_mod_of_dvd _ cap.dvd, Nat.mod_add_mod]

theorem in_eq : fifo.in = fifo.out + UInt32.ofNat fifo.used := by
  rw [used, UInt32.ofNat_toNat, UInt32.add_comm, UInt32.sub_add_cancel]

/-- With more in it, the FIFO has as much more used. -/
theorem used_in (more : Nat) (room : fifo.used + more < 2 ^ 32) : (fifo.in + UInt32.ofNat more - fifo.out).toNat = fifo.used + more := by
  have before := fifo.in.toNat_lt
  have behind := fifo.out.toNat_lt
  simp only [used, UInt32.toNat_sub, UInt32.toNat_add, UInt32.toNat_ofNat'] at room ⊢
  omega

/-- And with some taken out, as much less. -/
theorem used_out {less : Nat} (there : less ≤ fifo.used) : (fifo.in - (fifo.out + UInt32.ofNat less)).toNat = fifo.used - less := by
  have before := fifo.in.toNat_lt
  have behind := fifo.out.toNat_lt
  simp only [used, UInt32.toNat_sub, UInt32.toNat_add, UInt32.toNat_ofNat'] at there ⊢
  omega

/-- What is taken is behind what waits. -/
theorem put_content (inside : fifo.used ≤ cap.size.toNat) (octets : List UInt8) :
    (fifo.put cap octets).content cap = fifo.content cap ++ octets.take (cap.size.toNat - fifo.used) ∧
      (fifo.put cap octets).used ≤ cap.size.toNat := by
  have few : (octets.take (cap.size.toNat - fifo.used)).length ≤ cap.size.toNat - fifo.used := List.length_take_le _ _
  have bound := cap.size.toNat_lt
  have used_eq : (fifo.put cap octets).used = fifo.used + (octets.take (cap.size.toNat - fifo.used)).length := used_in _ (by omega)
  refine ⟨?_, by omega⟩
  rw [content, used_eq, put, in_eq, mask_add]
  exact window_append (on_mask cap fifo.out) (by omega)

/-- What is got is what has waited longest, and the rest waits. -/
theorem getUser_spec (inside : fifo.used ≤ cap.size.toNat) (len : Int) (first second : Bool) :
    (¬(first = true ∧ second = true ∧ 0 ≤ len) ∧ fifo.getUser cap len first second = .error .efault) ∨
      (first = true ∧ second = true ∧ 0 ≤ len) ∧ ∃ fifo' octets, fifo.getUser cap len first second = .ok (fifo', octets) ∧
        (octets.length : Int) = min len fifo.used ∧ fifo.content cap = octets ++ fifo'.content cap ∧ fifo'.used ≤ cap.size.toNat := by
  obtain ⟨least, most⟩ := on_mask cap fifo.out
  by_cases copied : first = true ∧ second = true ∧ 0 ≤ len
  · right
    obtain ⟨rfl, rfl, positive⟩ := copied
    refine ⟨⟨rfl, rfl, positive⟩, ?_⟩
    obtain ⟨k, count⟩ : ∃ k : Nat, min len fifo.used = k := ⟨(min len fifo.used).toNat, by omega⟩
    have within : k ≤ fifo.used := by omega
    have rest := cap.size.toNat_lt
    have octets_length : (block fifo.buffer (mask cap fifo.out) (min k (cap.size.toNat - mask cap fifo.out)) ++
        block fifo.buffer 0 (k - (cap.size.toNat - mask cap fifo.out))).length = k := by
      rw [List.length_append, length_block, length_block]
      omega
    refine ⟨{ fifo with out := fifo.out + UInt32.ofNat k }, block fifo.buffer (mask cap fifo.out) (min k (cap.size.toNat - mask cap fifo.out)) ++
      block fifo.buffer 0 (k - (cap.size.toNat - mask cap fifo.out)), ?_, ?_, ?_, ?_⟩
    · have first_part : (min (k : Int) (cap.size.toNat - mask cap fifo.out)).toNat = min k (cap.size.toNat - mask cap fifo.out) := by omega
      have second_part : ((k : Int) - min (k : Int) (cap.size.toNat - mask cap fifo.out)).toNat = k - (cap.size.toNat - mask cap fifo.out) := by
        omega
      unfold getUser
      dsimp only
      rw [count, if_neg (by simp; omega), if_neg (by simp), first_part, second_part, Int.toNat_natCast]
    · rw [octets_length, count]
    · have window_eq := window_eq_blocks (m := fifo.buffer) ⟨least, most⟩ (k := k) (by omega)
      rw [Nat.zero_add] at window_eq
      have used_eq : Kfifo.used { fifo with out := fifo.out + UInt32.ofNat k } = fifo.used - k := used_out within
      have whole : fifo.used = k + (fifo.used - k) := by omega
      rw [content, content, used_eq, mask_add, ← window_eq, ← window_add, ← whole]
    · have used_eq : Kfifo.used { fifo with out := fifo.out + UInt32.ofNat k } = fifo.used - k := used_out within
      omega
  · left
    refine ⟨copied, ?_⟩
    unfold getUser
    dsimp only
    cases first with
    | false => rfl
    | true =>
      by_cases negative : len < 0
      · rw [if_pos (.inr (by omega))]
      · cases second with
        | false =>
          rw [if_neg (by simp; omega)]
          rfl
        | true => exact absurd ⟨rfl, rfl, by omega⟩ copied

end Kfifo

/-! ## The port -/

/-- The FIFO does not hold more than it has room for. -/
def Inv (cap : Capacity) (port : Port) : Prop := port.read_fifo.used ≤ cap.size.toNat

theorem int_negative_iff {n : Nat} (below : n < 2 ^ 32) : Int.bmod n (2 ^ 32) < 0 ↔ 2 ^ 31 ≤ n := by
  rw [Int.bmod_def]
  omega

theorem readStream_inv (inside : Inv cap port) (count : Nat) (first second : Bool) : Inv cap (port.readStream cap count first second).1 := by
  unfold Port.readStream
  obtain ⟨-, failed⟩ | ⟨-, fifo', octets, got, -, -, inside'⟩ :=
    Kfifo.getUser_spec inside (Int.bmod count (2 ^ 64)) first second
  · rw [failed]
    exact inside
  · rw [got]
    dsimp only
    split <;> exact inside'

/-- A read takes what has waited longest, and returns it unless it is too much for an `int`. -/
theorem readStream_iff (inside : Inv cap port) (stream : port.returned ++ port.read_fifo.content cap = port.accepted)
    (count : Nat) (first second : Bool) :
    (port.readStream cap count first second).1.returned ++ (port.readStream cap count first second).1.read_fifo.content cap = port.accepted ↔
      (first = true → second = true → 0 ≤ Int.bmod count (2 ^ 64) → min (Int.bmod count (2 ^ 64)) port.read_fifo.used < 2 ^ 31) := by
  have bound := cap.size.toNat_lt
  unfold Inv at inside
  unfold Port.readStream
  obtain ⟨not_copied, failed⟩ | ⟨⟨rfl, rfl, positive⟩, fifo', octets, got, length, content, inside'⟩ :=
    Kfifo.getUser_spec inside (Int.bmod count (2 ^ 64)) first second
  · rw [failed]
    exact iff_of_true stream fun one two three => absurd ⟨one, two, three⟩ not_copied
  · rw [got, ← length]
    dsimp only
    rw [content] at stream
    by_cases negative : Int.bmod octets.length (2 ^ 32) < 0
    · rw [if_pos negative]
      have many := (int_negative_iff (by omega)).mp negative
      refine iff_of_false (fun same => ?_) fun few => by
        have := few rfl rfl positive
        omega
      have lengths : (fifo'.content cap).length = (octets ++ fifo'.content cap).length :=
        congrArg List.length (List.append_cancel_left (same.trans stream.symm))
      rw [List.length_append] at lengths
      omega
    · rw [if_neg negative]
      have few := mt (int_negative_iff (by omega)).mpr negative
      exact iff_of_true (by rw [List.append_assoc]; exact stream) fun _ _ _ => by omega

/-- It leaves the frames as they are, and what the FIFO has taken. -/
theorem readStream_same (cap : Capacity) (port : Port) (count : Nat) (first second : Bool) : ∃ read_fifo returned,
    (port.readStream cap count first second).1 = { port with read_fifo, returned } := by
  unfold Port.readStream
  cases port.read_fifo.getUser cap (Int.bmod count (2 ^ 64)) first second with
  | error => exact ⟨port.read_fifo, port.returned, rfl⟩
  | ok got =>
    dsimp only
    by_cases negative : Int.bmod got.2.length (2 ^ 32) < 0
    · exact ⟨got.1, port.returned, by rw [if_pos negative]⟩
    · exact ⟨got.1, port.returned ++ got.2, by rw [if_neg negative]⟩

/-- A write of a frame succeeds, or leaves the port as it is. -/
theorem writeFrame_cases (port : Port) (octets : List UInt8) (memory copied : Bool) (result : TxResult) :
    ((memory = true ∧ copied = true ∧ result = .ok) ∧
        (port.writeFrame octets memory copied result).1 = { port with written := port.written ++ [(octets, [])] }) ∨
      ¬(memory = true ∧ copied = true ∧ result = .ok) ∧ (port.writeFrame octets memory copied result).1 = port := by
  unfold Port.writeFrame
  cases memory
  · exact .inr ⟨by simp, rfl⟩
  cases copied
  · exact .inr ⟨by simp, rfl⟩
  cases result
  · exact .inl ⟨⟨rfl, rfl, rfl⟩, rfl⟩
  all_goals exact .inr ⟨by simp, rfl⟩

/-- A frame is taken from the queue, and released where it cannot be copied. -/
theorem readFrame_cases (port : Port) (count : Nat) (copied : Bool) :
    (port.read_queue = [] ∧ (port.readFrame count copied).1 = port) ∨
      ∃ skb queue, port.read_queue = skb :: queue ∧ (port.readFrame count copied).1 =
        { port with
          read_queue := queue
          taken := port.taken ++ [skb.id]
          released := if copied then port.released else port.released ++ [skb.id] } := by
  unfold Port.readFrame
  cases queue : port.read_queue with
  | nil => exact .inl ⟨rfl, rfl⟩
  | cons skb rest =>
    refine .inr ⟨skb, rest, rfl, ?_⟩
    cases copied <;> rfl

theorem handle_inv (inside : Inv cap port) : Inv cap (port.handle cap e) := by
  cases e with
  | pushRaw octets => exact (Kfifo.put_content inside octets).2
  | pushFrame skb => exact inside
  | read link count first second =>
    cases link with
    | missing => exact inside
    | stopped => exact inside
    | flowing =>
      change Inv cap (if port.framed then port.readFrame count first else port.readStream cap count first second).1
      cases port.framed with
      | false => exact readStream_inv inside count first second
      | true =>
        change Inv cap (port.readFrame count first).1
        obtain ⟨-, same⟩ | ⟨skb, queue, -, took⟩ := readFrame_cases port count first
        · rw [same]
          exact inside
        · rw [took]
          exact inside
  | write link octets memory copied result =>
    cases link with
    | missing => exact inside
    | stopped => exact inside
    | flowing =>
      change Inv cap (if port.framed then port.writeFrame octets memory copied result
        else (port, Port.writeStream octets memory copied result)).1
      cases port.framed with
      | false => exact inside
      | true =>
        change Inv cap (port.writeFrame octets memory copied result).1
        obtain ⟨-, wrote⟩ | ⟨-, same⟩ := writeFrame_cases port octets memory copied result
        · rw [wrote]
          exact inside
        · rw [same]
          exact inside

/-- A call keeps what the port carries if it fits, and no other does. -/
theorem handle_carries_iff (inside : Inv cap port) (carries : Carries cap port) : Carries cap (port.handle cap e) ↔ e.Fits port := by
  cases e with
  | pushRaw octets =>
    refine iff_of_true ⟨?_, carries.order, carries.release, carries.frames⟩ trivial
    change port.returned ++ (port.read_fifo.put cap octets).content cap = port.accepted ++ _
    rw [(Kfifo.put_content inside octets).1, ← List.append_assoc, carries.stream]
  | pushFrame skb =>
    refine iff_of_true ⟨carries.stream, ?_, carries.release, carries.frames⟩ trivial
    change port.taken ++ (port.read_queue ++ [skb]).map Skb.id = port.pushed ++ [skb.id]
    rw [List.map_append, ← List.append_assoc, carries.order]
    rfl
  | read link count first second =>
    cases link with
    | missing => exact iff_of_true carries trivial
    | stopped => exact iff_of_true carries trivial
    | flowing =>
      change Carries cap (if port.framed then port.readFrame count first else port.readStream cap count first second).1 ↔
        if port.framed then port.read_queue = [] ∨ first = false else _
      cases port.framed with
      | false =>
        rw [if_neg Bool.false_ne_true, if_neg Bool.false_ne_true, ← readStream_iff inside carries.stream]
        obtain ⟨read_fifo, returned, same⟩ := readStream_same cap port count first second
        rw [same]
        exact ⟨Carries.stream, fun stream => ⟨stream, carries.order, carries.release, carries.frames⟩⟩
      | true =>
        rw [if_pos rfl, if_pos rfl]
        obtain ⟨empty, same⟩ | ⟨skb, queue, waits, took⟩ := readFrame_cases port count first
        · rw [same]
          exact iff_of_true carries (.inl empty)
        · have order := carries.order
          rw [waits] at order
          rw [took, waits]
          cases first with
          | true =>
            refine iff_of_false (fun after => ?_) (by simp)
            have lengths := congrArg List.length (after.release.trans (congrArg (· ++ [skb.id]) carries.release.symm))
            simp at lengths
          | false =>
            refine iff_of_true ⟨carries.stream, ?_, ?_, carries.frames⟩ (.inr rfl)
            · exact (List.append_assoc _ _ _).trans order
            · exact congrArg (· ++ [skb.id]) carries.release
  | write link octets memory copied result =>
    cases link with
    | missing => exact iff_of_true carries trivial
    | stopped => exact iff_of_true carries trivial
    | flowing =>
      change Carries cap (if port.framed then port.writeFrame octets memory copied result
        else (port, Port.writeStream octets memory copied result)).1 ↔ (port.framed = true → _)
      cases port.framed with
      | false => exact iff_of_true carries (fun no => by cases no)
      | true =>
        rw [if_pos rfl]
        obtain ⟨⟨rfl, rfl, rfl⟩, wrote⟩ | ⟨not_all, same⟩ := writeFrame_cases port octets memory copied result
        · rw [wrote]
          refine ⟨fun after _ _ _ _ => (after.frames (octets, []) (List.mem_append_right _ (List.mem_singleton_self _))).symm, fun empty => ?_⟩
          refine ⟨carries.stream, carries.order, carries.release, fun w mem => ?_⟩
          obtain before | new := List.mem_append.mp mem
          · exact carries.frames w before
          · rw [List.mem_singleton.mp new]
            exact (empty rfl rfl rfl rfl).symm
        · rw [same]
          exact iff_of_true carries fun _ one two three => absurd ⟨one, two, three⟩ not_all

/-- A port as it is opened; its counters may stand anywhere. -/
def start (framed : Bool) (counter : UInt32) (buffer : Nat → UInt8) : Port where
  framed := framed
  read_fifo := { buffer, «in» := counter, out := counter }
  read_queue := []
  accepted := []
  returned := []
  pushed := []
  taken := []
  released := []
  written := []

theorem start_used (framed : Bool) (counter : UInt32) (buffer : Nat → UInt8) : (start framed counter buffer).read_fifo.used = 0 := by
  change (counter - counter).toNat = 0
  rw [UInt32.sub_self]
  rfl

theorem start_carries (framed : Bool) (counter : UInt32) (buffer : Nat → UInt8) : Carries cap (start framed counter buffer) where
  stream := by
    rw [Kfifo.content, start_used]
    rfl
  order := rfl
  release := rfl
  frames _ mem := by cases mem

/-- Whatever comes from the pipeline and whatever user space reads and writes, in any order, the port
carries all of it as long as each call fits. -/
theorem port_carries_iff (cap : Capacity) (framed : Bool) (counter : UInt32) (buffer : Nat → UInt8) (es : List Event) :
    (∀ before, before <+: es → ∀ port, Run (next cap) Any (start framed counter buffer) before port → Carries cap port) ↔
      Throughout (next cap) Event.Fits (start framed counter buffer) es := by
  have inside : Inv cap (start framed counter buffer) := (start_used framed counter buffer).le.trans (Nat.zero_le _)
  refine good_iff (Inv cap) (Carries cap) (fun inside carries => ?_) (fun inside took => ?_) es inside (start_carries framed counter buffer)
  · rw [← handle_carries_iff inside carries]
    exact ⟨fun all => all _ rfl, fun one _ is => Option.some.inj is ▸ one⟩
  · cases took
    exact handle_inv inside

/-- A FIFO of 16 octets. -/
def fifo16 : Capacity where
  size := 16
  exponent := 4
  power := rfl

/-- 12 octets twice, and reads in between: the counters wrap, and so do the positions. -/
theorem stream_carried_past_wrap : ∀ before, before <+: [Event.pushRaw (List.replicate 12 1), .read .flowing 10 true true,
      .pushRaw (List.replicate 12 2), .read .flowing 20 true false, .read .flowing 20 true true] →
    ∀ port, Run (next fifo16) Any (start false 0xfffffff8 fun _ => 0) before port → Carries fifo16 port :=
  (port_carries_iff fifo16 false 0xfffffff8 _ _).mpr
    ⟨trivial, fun _ _ _ => by decide, trivial, fun _ no => absurd no (by decide), fun _ _ _ => by decide, trivial⟩

/-- A frame that is read is taken from the queue, and nobody releases it. -/
theorem frame_read_not_released : ¬∀ (cap : Capacity) (framed : Bool) (counter : UInt32) (buffer : Nat → UInt8) (es before : List Event),
    before <+: es → ∀ port, Run (next cap) Any (start framed counter buffer) before port → Carries cap port := by
  intro claim
  have through := (port_carries_iff fifo16 true 0 (fun _ => 0) [.pushFrame { id := 1, data := [7], len := 1 }, .read .flowing 1 true true]).mp
    (claim fifo16 true 0 _ _)
  obtain waits | failed := through.2.1
  · cases waits
  · cases failed

end Vstuff.Userport
