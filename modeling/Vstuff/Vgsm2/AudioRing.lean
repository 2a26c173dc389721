import Vstuff.Lib.Machine
import Mathlib.Algebra.GroupWithZero.Nat

/-! The audio rings of an ME of the vGSM-II card (`vgsm2/me.c`): the card writes samples into one and
reads them from the other, at positions it reports, and the driver goes on from its own. A sample is
an octet where the channel is companded and two octets where it is linear. -/
namespace Vstuff.Vgsm2
open Transition
set_option linter.all false

/-- `fifo_base` and `fifo_size` of a channel. The size is even. -/
structure Ring where
  fifo_base : UInt32
  fifo_size : UInt16
  even : fifo_size.toNat % 2 = 0

namespace Ring
variable (ring : Ring)

def size : Nat := ring.fifo_size.toNat

/-- The cell of `card->fifo_mem` at a position. -/
def cell (pos : UInt32) : Nat := ring.fifo_base.toNat + pos.toNat

/-- A position behind a sample. -/
def advance (pos : UInt32) (sample_size : Nat) : UInt32 :=
  let pos := pos + UInt32.ofNat sample_size
  if pos ≥ ring.fifo_size.toUInt32 then 0 else pos

/-- The cells of a sample. -/
def sample (pos : UInt32) (sample_size : Nat) : List Nat := (List.range sample_size).map (ring.cell pos + ·)

end Ring

/-- `struct vgsm_me_rx` and `struct vgsm_me_tx`: `pos` is `fifo_out` of the one and `fifo_in` of the
other. -/
structure Channel where
  compander_enabled : Bool
  compander_mu_mode : Bool
  pos : UInt32

def Channel.sampleSize (chan : Channel) : Nat := if chan.compander_enabled then 1 else 2

/-- The channel when it is created. -/
def created : Channel where
  compander_enabled := false
  compander_mu_mode := false
  pos := 0

/-- `vgsm_me_rx_chan_start`, `vgsm_me_tx_chan_start`: the position is the card's. -/
def Channel.start (chan : Channel) (reported : UInt32) : Channel := { chan with pos := reported }

/-- The value of an attribute: too short for a descriptor, or one. -/
inductive Descr where
  | short
  | descr (enabled mu_mode : Bool)

/-- `vgsm_me_rx_chan_set_attr`, `vgsm_me_tx_chan_set_attr`; whether the attribute is that of the
compander. -/
def Channel.setAttr (chan : Channel) (compander : Bool) : Descr → Channel
  | .short => chan
  | .descr enabled mu_mode => if compander then { chan with compander_enabled := enabled, compander_mu_mode := mu_mode } else chan

/-! ## Receiving -/

/-- A stream frame being filled, the position, and the cells looked at. -/
structure Filling where
  pos : UInt32
  data : List UInt8
  cells : List Nat

/-- The loop of `vgsm_me_rx_chan_stimulus`; `none` where it goes on. -/
def fill (ring : Ring) (mem : Nat → UInt8) (inpos : UInt32) (size sample_size : Nat) : Nat → Filling → Option Filling
  | 0, _ => none
  | fuel + 1, f =>
    if f.pos ≠ inpos ∧ f.data.length < size then
      if size - f.data.length < sample_size then some f
      else
        fill ring mem inpos size sample_size fuel
          { pos := ring.advance f.pos sample_size
            data := f.data ++ (ring.sample f.pos sample_size).map mem
            cells := f.cells ++ ring.sample f.pos sample_size }
    else some f

/-- `& ~1`. -/
def clearLow (pos : UInt32) : UInt32 := pos &&& 0xfffffffe

/-- `vgsm_me_rx_chan_stimulus`, with a frame that has room for so many octets. -/
def stimulus (ring : Ring) (mem : Nat → UInt8) (chan : Channel) (reported : UInt32) (size : UInt16) : Option Filling :=
  let sample_size := chan.sampleSize
  let inpos := if sample_size > 1 then clearLow reported else reported
  let fifo_out := if sample_size > 1 then clearLow chan.pos else chan.pos
  fill ring mem inpos size.toNat sample_size (size.toNat + 1) { pos := fifo_out, data := [], cells := [] }

/-! ## Sending -/

/-- `struct ks_streamframe`: the memory from the data on, of which `len` octets belong to the frame. -/
structure StreamFrame where
  len : UInt16
  data : Nat → UInt8

/-- The card's memory, the position, and the octets of the frame and the cells touched. -/
structure Pushing where
  mem : Nat → UInt8
  pos : UInt32
  octets : List Nat
  cells : List Nat

/-- The loop of `vgsm_me_tx_chan_push_raw`; `none` where it goes on. -/
def push (ring : Ring) (sf : StreamFrame) (sample_size : Nat) : Nat → Nat → Pushing → Option Pushing
  | 0, _, _ => none
  | fuel + 1, i, p =>
    if i < sf.len.toNat then
      push ring sf sample_size fuel (i + sample_size)
        { mem := fun a => if ring.cell p.pos ≤ a ∧ a < ring.cell p.pos + sample_size then sf.data (i + (a - ring.cell p.pos)) else p.mem a
          pos := ring.advance p.pos sample_size
          octets := p.octets ++ (List.range sample_size).map (i + ·)
          cells := p.cells ++ ring.sample p.pos sample_size }
    else some p

/-- `vgsm_me_tx_chan_push_raw`; the position is then told to the card. -/
def pushRaw (ring : Ring) (mem : Nat → UInt8) (chan : Channel) (sf : StreamFrame) : Option Pushing :=
  push ring sf chan.sampleSize (sf.len.toNat + 1) 0 { mem, pos := chan.pos, octets := [], cells := [] }

/-- `vgsm_me_tx_chan_get_pressure`, in unsigned numbers of 32 bits. -/
def getPressure (ring : Ring) (chan : Channel) (outpos : UInt32) : UInt32 :=
  (chan.pos - outpos + ring.fifo_size.toUInt32) % ring.fifo_size.toUInt32

/-! ## Runs -/

/-- What is done with the rings: a cell of one of them, an octet of a frame of some length, a frame
filled, the pressure given for an output position, and a loop that goes on. -/
inductive Deed where
  | rx (cell : Nat)
  | tx (cell : Nat)
  | frame (octet len : Nat)
  | filled (len size : Nat)
  | pressure (value : UInt32) (fifo_in outpos : UInt32)
  | endless
  deriving DecidableEq

/-- Both channels, the card's memory, and all that has been done. -/
structure Me where
  rx : Channel
  tx : Channel
  mem : Nat → UInt8
  deeds : List Deed

/-- A call, with the position the card reports, or the frame. Of the memory the card itself writes,
`card` says what there is afterwards. -/
inductive Event where
  | rxStart (reported : UInt32)
  | txStart (reported : UInt32)
  | rxSetAttr (compander : Bool) (descr : Descr)
  | txSetAttr (compander : Bool) (descr : Descr)
  | rxStimulus (reported : UInt32) (size : UInt16)
  | txPushRaw (sf : StreamFrame)
  | txGetPressure (outpos : UInt32)
  | card (mem : Nat → UInt8)

/-- What a call does. -/
def handle (rx tx : Ring) (me : Me) : Event → Me
  | .rxStart reported => { me with rx := me.rx.start reported }
  | .txStart reported => { me with tx := me.tx.start reported }
  | .rxSetAttr compander descr => { me with rx := me.rx.setAttr compander descr }
  | .txSetAttr compander descr => { me with tx := me.tx.setAttr compander descr }
  | .rxStimulus reported size =>
    match stimulus rx me.mem me.rx reported size with
    | none => { me with deeds := me.deeds ++ [.endless] }
    | some f =>
      { me with
        rx := { me.rx with pos := f.pos }
        deeds := me.deeds ++ f.cells.map .rx ++ [.filled f.data.length size.toNat] }
  | .txPushRaw sf =>
    match pushRaw tx me.mem me.tx sf with
    | none => { me with deeds := me.deeds ++ [.endless] }
    | some p =>
      { me with
        mem := p.mem
        tx := { me.tx with pos := p.pos }
        deeds := me.deeds ++ p.octets.map (.frame · sf.len.toNat) ++ p.cells.map .tx }
  | .txGetPressure outpos => { me with deeds := me.deeds ++ [.pressure (getPressure tx me.tx outpos) me.tx.pos outpos] }
  | .card mem => { me with mem }

def next (rx tx : Ring) (me : Me) (e : Event) : Option Me := some (handle rx tx me e)

namespace Ring

/-- The cell belongs to the ring. -/
def Has (ring : Ring) (a : Nat) : Prop := ring.fifo_base.toNat ≤ a ∧ a < ring.fifo_base.toNat + ring.size

end Ring

/-- What may be done: from the output position to `fifo_in` it is so many octets round the ring. -/
def Deed.Inside (rx tx : Ring) : Deed → Prop
  | .rx a => rx.Has a
  | .tx a => tx.Has a
  | .frame octet len => octet < len
  | .filled len size => len ≤ size
  | .pressure value fifo_in outpos => (value.toNat : Int) = ((fifo_in.toNat : Int) - outpos.toNat) % tx.size ∧ value.toNat < tx.size
  | .endless => False

/-- The positions are in their rings, and so is all that has been done. -/
structure Bounded (rx tx : Ring) (me : Me) : Prop where
  fifo_out : me.rx.pos.toNat < rx.size
  fifo_in : me.tx.pos.toNat < tx.size
  deeds : ∀ deed ∈ me.deeds, deed.Inside rx tx

/-- The position a channel starts from is in its ring. A frame of linear samples has none half, and
they begin at an even position or do not come to the end of the ring. The output position is not
farther behind `fifo_in` than the ring is long, or the ring divides what a number can count. -/
def Event.Fits (rx tx : Ring) (me : Me) : Event → Prop
  | .rxStart reported => reported.toNat < rx.size
  | .txStart reported => reported.toNat < tx.size
  | .txPushRaw sf => me.tx.compander_enabled = true ∨
      sf.len.toNat % 2 = 0 ∧ (me.tx.pos.toNat % 2 = 0 ∨ me.tx.pos.toNat + sf.len.toNat < tx.size)
  | .txGetPressure outpos => outpos.toNat ≤ me.tx.pos.toNat + tx.size ∨ 2 ^ 32 % tx.size = 0
  | _ => True

instance Event.Fits.decidable (rx tx : Ring) (me : Me) : (e : Event) → Decidable (e.Fits rx tx me)
  | .rxStart reported => inferInstanceAs (Decidable (reported.toNat < rx.size))
  | .txStart reported => inferInstanceAs (Decidable (reported.toNat < tx.size))
  | .txPushRaw sf => inferInstanceAs (Decidable (me.tx.compander_enabled = true ∨
      sf.len.toNat % 2 = 0 ∧ (me.tx.pos.toNat % 2 = 0 ∨ me.tx.pos.toNat + sf.len.toNat < tx.size)))
  | .txGetPressure outpos => inferInstanceAs (Decidable (outpos.toNat ≤ me.tx.pos.toNat + tx.size ∨ 2 ^ 32 % tx.size = 0))
  | .rxSetAttr _ _ | .txSetAttr _ _ | .rxStimulus _ _ | .card _ => inferInstanceAs (Decidable True)

/-! ## One sample -/

variable {ring rx tx : Ring} {pos inpos : UInt32} {sample_size fuel : Nat}

theorem toNat_advance (inside : pos.toNat < ring.size) (small : sample_size ≤ 2) :
    (ring.advance pos sample_size).toNat = if pos.toNat + sample_size < ring.size then pos.toNat + sample_size else 0 := by
  have most : ring.size < 65536 := ring.fifo_size.toNat_lt
  have sum : (pos + UInt32.ofNat sample_size).toNat = pos.toNat + sample_size := by
    rw [UInt32.toNat_add, UInt32.toNat_ofNat', Nat.mod_eq_of_lt (by omega), Nat.mod_eq_of_lt (by omega)]
  have size : ring.fifo_size.toUInt32.toNat = ring.size := UInt16.toNat_toUInt32 _
  unfold Ring.advance
  dsimp only
  by_cases behind : pos.toNat + sample_size < ring.size
  · rw [if_pos behind, if_neg (by rw [ge_iff_le, UInt32.le_iff_toNat_le, sum, size]; omega), sum]
  · rw [if_neg behind, if_pos (by rw [ge_iff_le, UInt32.le_iff_toNat_le, sum, size]; omega)]
    rfl

theorem has_cell {a : Nat} : ring.Has (ring.cell pos + a) ↔ pos.toNat + a < ring.size := by
  unfold Ring.Has Ring.cell
  omega

theorem sample_inside_iff (some_octet : 0 < sample_size) :
    (∀ a ∈ ring.sample pos sample_size, ring.Has a) ↔ pos.toNat + sample_size ≤ ring.size := by
  simp only [Ring.sample, List.mem_map, List.mem_range, forall_exists_index, and_imp, forall_apply_eq_imp_iff₂, has_cell]
  constructor
  · intro all
    have last := all (sample_size - 1) (by omega)
    omega
  · intro room a inside
    omega

theorem clearLow_spec (pos : UInt32) : (clearLow pos).toNat % 2 = 0 ∧ (clearLow pos).toNat ≤ pos.toNat := by
  have value : (clearLow pos).toNat = pos.toNat &&& 4294967294 := UInt32.toNat_and _ _
  rw [value]
  refine ⟨?_, Nat.and_le_left⟩
  have low := Nat.and_mod_two_pow (a := pos.toNat) (b := 4294967294) (n := 1)
  simpa using low

/-! ## Receiving -/

/-- The loop ends with a frame that is not too long, and looks at cells of the ring only. -/
theorem fill_spec (mem : Nat → UInt8) (inpos : UInt32) {size : Nat} (some_octet : 0 < sample_size) (small : sample_size ≤ 2) {f : Filling}
    (inside : f.pos.toNat < ring.size) (whole : f.pos.toNat % sample_size = 0) (room : f.data.length ≤ size)
    (enough : size < fuel + f.data.length) :
    ∃ g, fill ring mem inpos size sample_size fuel f = some g ∧ g.pos.toNat < ring.size ∧ g.data.length ≤ size ∧
      ∀ a ∈ g.cells, a ∈ f.cells ∨ ring.Has a := by
  induction fuel generalizing f with
  | zero => omega
  | succ fuel ih =>
    rw [fill]
    by_cases stops : ¬(f.pos ≠ inpos ∧ f.data.length < size)
    · rw [if_neg stops]
      exact ⟨f, rfl, inside, room, fun a member => .inl member⟩
    rw [if_pos (Classical.not_not.mp stops)]
    by_cases full : size - f.data.length < sample_size
    · rw [if_pos full]
      exact ⟨f, rfl, inside, room, fun a member => .inl member⟩
    rw [if_neg full]
    have even := ring.even
    have size_eq : ring.fifo_size.toNat = ring.size := rfl
    have fits : f.pos.toNat + sample_size ≤ ring.size := by
      obtain rfl | rfl : sample_size = 1 ∨ sample_size = 2 := by omega
      · omega
      · omega
    have place := toNat_advance inside small
    obtain ⟨g, ended, inside', room', cells⟩ := ih (f :=
        { pos := ring.advance f.pos sample_size
          data := f.data ++ (ring.sample f.pos sample_size).map mem
          cells := f.cells ++ ring.sample f.pos sample_size })
      (by dsimp only; rw [place]; split <;> omega)
      (by
        dsimp only
        rw [place]
        split
        · rw [Nat.add_mod_right]
          exact whole
        · exact Nat.zero_mod _)
      (by simp [Ring.sample]; omega) (by simp [Ring.sample]; omega)
    refine ⟨g, ended, inside', room', fun a member => ?_⟩
    obtain old | here := cells a member
    · obtain old | here := List.mem_append.mp old
      · exact .inl old
      · exact .inr ((sample_inside_iff some_octet).mpr fits a here)
    · exact .inr here

theorem stimulus_spec (mem : Nat → UInt8) {chan : Channel} (inside : chan.pos.toNat < ring.size) (reported : UInt32) (size : UInt16) :
    ∃ g, stimulus ring mem chan reported size = some g ∧ g.pos.toNat < ring.size ∧ g.data.length ≤ size.toNat ∧
      ∀ a ∈ g.cells, ring.Has a := by
  have low := clearLow_spec chan.pos
  have start : (if chan.sampleSize > 1 then clearLow chan.pos else chan.pos).toNat < ring.size ∧
      (if chan.sampleSize > 1 then clearLow chan.pos else chan.pos).toNat % chan.sampleSize = 0 := by
    unfold Channel.sampleSize
    cases chan.compander_enabled
    · exact ⟨by simp; omega, by simpa using low.1⟩
    · exact ⟨by simpa using inside, by simp [Nat.mod_one]⟩
  have bounds : 0 < chan.sampleSize ∧ chan.sampleSize ≤ 2 := by
    unfold Channel.sampleSize
    split <;> omega
  obtain ⟨g, ended, inside', room, cells⟩ := fill_spec mem (if chan.sampleSize > 1 then clearLow reported else reported)
    bounds.1 bounds.2 (f := { pos := if chan.sampleSize > 1 then clearLow chan.pos else chan.pos, data := [], cells := [] })
    start.1 start.2 (Nat.zero_le _) (show size.toNat < size.toNat + 1 + 0 from Nat.lt_succ_self _)
  exact ⟨g, ended, inside', room, fun a member => (cells a member).resolve_left (by simp)⟩

/-! ## Sending -/

/-- No octet behind the frame, and no cell outside the ring. -/
def Pushing.Inside (ring : Ring) (len : Nat) (p : Pushing) : Prop := (∀ octet ∈ p.octets, octet < len) ∧ ∀ a ∈ p.cells, ring.Has a

/-- The rest of a frame can be pushed from a position on. -/
def Pushable (ring : Ring) (sample_size rest pos : Nat) : Prop :=
  sample_size = 1 ∨ rest % 2 = 0 ∧ (pos % 2 = 0 ∨ pos + rest < ring.size)

/-- One sample is inside, and so is what comes behind it. -/
theorem pushable_step {len i : Nat} (two : sample_size = 1 ∨ sample_size = 2) (inside : pos.toNat < ring.size) (more : i < len) :
    Pushable ring sample_size (len - i) pos.toNat ↔
      i + sample_size ≤ len ∧ pos.toNat + sample_size ≤ ring.size ∧
        Pushable ring sample_size (len - (i + sample_size)) (ring.advance pos sample_size).toNat := by
  have even := ring.even
  have size_eq : ring.fifo_size.toNat = ring.size := rfl
  rw [toNat_advance inside (by omega)]
  unfold Pushable
  obtain rfl | rfl := two
  · simp only [true_or, true_iff, and_true]
    omega
  · split <;> omega

/-- The loop ends in the ring, and all is inside if the frame can be pushed. -/
theorem push_spec (ring : Ring) (sf : StreamFrame) {i : Nat} (two : sample_size = 1 ∨ sample_size = 2) {p : Pushing}
    (inside : p.pos.toNat < ring.size) (some_fuel : 0 < fuel) (enough : sf.len.toNat < fuel + i) :
    ∃ q, push ring sf sample_size fuel i p = some q ∧ q.pos.toNat < ring.size ∧
      (q.Inside ring sf.len.toNat ↔ p.Inside ring sf.len.toNat ∧ Pushable ring sample_size (sf.len.toNat - i) p.pos.toNat) := by
  induction fuel generalizing i p with
  | zero => exact absurd some_fuel (Nat.lt_irrefl 0)
  | succ fuel ih =>
    rw [push]
    by_cases more : i < sf.len.toNat
    · rw [if_pos more]
      obtain ⟨q, ended, inside', q_iff⟩ := ih (i := i + sample_size) (p :=
          { mem := fun a => if ring.cell p.pos ≤ a ∧ a < ring.cell p.pos + sample_size then sf.data (i + (a - ring.cell p.pos)) else p.mem a
            pos := ring.advance p.pos sample_size
            octets := p.octets ++ (List.range sample_size).map (i + ·)
            cells := p.cells ++ ring.sample p.pos sample_size })
        (by dsimp only; rw [toNat_advance inside (by omega)]; split <;> omega) (by omega) (by omega)
      refine ⟨q, ended, inside', ?_⟩
      have octets : (∀ octet ∈ p.octets ++ (List.range sample_size).map (i + ·), octet < sf.len.toNat) ↔
          (∀ octet ∈ p.octets, octet < sf.len.toNat) ∧ i + sample_size ≤ sf.len.toNat := by
        simp only [List.mem_append, or_imp, forall_and, List.mem_map, List.mem_range, forall_exists_index, and_imp,
          forall_apply_eq_imp_iff₂]
        refine and_congr_right fun _ => ⟨fun all => ?_, fun room a below => by omega⟩
        have last := all (sample_size - 1) (by omega)
        omega
      have cells : (∀ a ∈ p.cells ++ ring.sample p.pos sample_size, ring.Has a) ↔
          (∀ a ∈ p.cells, ring.Has a) ∧ p.pos.toNat + sample_size ≤ ring.size := by
        rw [← sample_inside_iff (by omega)]
        simp only [List.mem_append, or_imp, forall_and]
      rw [q_iff, pushable_step two inside more, Pushing.Inside, octets, cells, Pushing.Inside]
      constructor
      · rintro ⟨⟨⟨old, room⟩, old', room'⟩, rest⟩
        exact ⟨⟨old, old'⟩, room, room', rest⟩
      · rintro ⟨⟨old, old'⟩, room, room', rest⟩
        exact ⟨⟨⟨old, room⟩, old', room'⟩, rest⟩
    · rw [if_neg more]
      refine ⟨p, rfl, inside, (and_iff_left ?_).symm⟩
      refine .inr ⟨by rw [Nat.sub_eq_zero_of_le (by omega)], .inr (by omega)⟩

theorem pushRaw_spec (mem : Nat → UInt8) {chan : Channel} (inside : chan.pos.toNat < ring.size) (sf : StreamFrame) :
    ∃ q, pushRaw ring mem chan sf = some q ∧ q.pos.toNat < ring.size ∧
      (q.Inside ring sf.len.toNat ↔ chan.compander_enabled = true ∨
        sf.len.toNat % 2 = 0 ∧ (chan.pos.toNat % 2 = 0 ∨ chan.pos.toNat + sf.len.toNat < ring.size)) := by
  have two : chan.sampleSize = 1 ∨ chan.sampleSize = 2 := by
    unfold Channel.sampleSize
    split
    · exact .inl rfl
    · exact .inr rfl
  have enabled : chan.sampleSize = 1 ↔ chan.compander_enabled = true := by
    unfold Channel.sampleSize
    cases chan.compander_enabled <;> simp
  obtain ⟨q, ended, inside', q_iff⟩ := push_spec ring sf two
    (p := { mem, pos := chan.pos, octets := [], cells := [] }) inside (Nat.succ_pos _) (show sf.len.toNat < sf.len.toNat + 1 + 0 by omega)
  refine ⟨q, ended, inside', ?_⟩
  rw [q_iff, Pushable, enabled, Nat.sub_zero]
  exact and_iff_right ⟨by simp, by simp⟩

/-- The pressure is right unless the difference is negative, and the ring does not divide what a
number counts. -/
theorem getPressure_iff (rx : Ring) {chan : Channel} (inside : chan.pos.toNat < ring.size) (outpos : UInt32) :
    (Deed.pressure (getPressure ring chan outpos) chan.pos outpos).Inside rx ring ↔
      outpos.toNat ≤ chan.pos.toNat + ring.size ∨ 2 ^ 32 % ring.size = 0 := by
  have most : ring.size < 65536 := ring.fifo_size.toNat_lt
  have few := chan.pos.toNat_lt
  have few' := outpos.toNat_lt
  have size : ring.fifo_size.toUInt32.toNat = ring.size := UInt16.toNat_toUInt32 _
  -- the sum before the remainder, which is 2 ^ 32 too large where the difference is negative
  have sum : (chan.pos - outpos + ring.fifo_size.toUInt32).toNat =
      if outpos.toNat ≤ chan.pos.toNat + ring.size then chan.pos.toNat + ring.size - outpos.toNat
      else 2 ^ 32 + chan.pos.toNat + ring.size - outpos.toNat := by
    rw [UInt32.toNat_add, UInt32.toNat_sub, size]
    split <;> omega
  have value : (getPressure ring chan outpos).toNat = (chan.pos - outpos + ring.fifo_size.toUInt32).toNat % ring.size := by
    rw [getPressure, UInt32.toNat_mod, size]
  have below : (getPressure ring chan outpos).toNat < ring.size := by
    rw [value]
    exact Nat.mod_lt _ (by omega)
  have inside_iff : (Deed.pressure (getPressure ring chan outpos) chan.pos outpos).Inside rx ring ↔
      (ring.size : Int) ∣ ((chan.pos - outpos + ring.fifo_size.toUInt32).toNat : Int) - ((chan.pos.toNat : Int) - outpos.toNat) := by
    change _ = _ % _ ∧ _ < ring.size ↔ _
    rw [and_iff_left below, value, Int.natCast_emod, Int.emod_eq_emod_iff_emod_sub_eq_zero, Int.dvd_iff_emod_eq_zero]
  rw [inside_iff, sum]
  split
  · next near =>
    refine iff_of_true ⟨1, by omega⟩ (.inl near)
  · next far =>
    have difference : ((2 ^ 32 + chan.pos.toNat + ring.size - outpos.toNat : Nat) : Int) - ((chan.pos.toNat : Int) - outpos.toNat) =
        ((2 ^ 32 : Nat) : Int) + ring.size := by omega
    rw [difference, Int.dvd_add_left (Int.dvd_refl _), Int.natCast_dvd_natCast, Nat.dvd_iff_mod_eq_zero, or_iff_right far]

/-! ## All calls -/

variable {me : Me} {e : Event}

theorem setAttr_pos (chan : Channel) (compander : Bool) (descr : Descr) : (chan.setAttr compander descr).pos = chan.pos := by
  cases descr with
  | short => rfl
  | descr enabled mu_mode => cases compander <;> rfl

theorem deeds_append {more : List Deed} (old : ∀ deed ∈ me.deeds, deed.Inside rx tx) :
    (∀ deed ∈ me.deeds ++ more, deed.Inside rx tx) ↔ ∀ deed ∈ more, deed.Inside rx tx := by
  constructor
  · exact fun all deed member => all deed (List.mem_append_right _ member)
  · intro new deed member
    exact (List.mem_append.mp member).elim (old deed) (new deed)

/-- A call keeps all inside if it fits, and no other does. -/
theorem handle_bounded_iff (bounded : Bounded rx tx me) : Bounded rx tx (handle rx tx me e) ↔ e.Fits rx tx me := by
  obtain ⟨out_inside, in_inside, old⟩ := bounded
  cases e with
  | rxStart reported => exact ⟨fun after => after.fifo_out, fun fits => ⟨fits, in_inside, old⟩⟩
  | txStart reported => exact ⟨fun after => after.fifo_in, fun fits => ⟨out_inside, fits, old⟩⟩
  | rxSetAttr compander descr =>
    refine iff_of_true ⟨?_, in_inside, old⟩ trivial
    rw [handle, setAttr_pos]
    exact out_inside
  | txSetAttr compander descr =>
    refine iff_of_true ⟨out_inside, ?_, old⟩ trivial
    rw [handle, setAttr_pos]
    exact in_inside
  | rxStimulus reported size =>
    obtain ⟨g, ended, inside, room, cells⟩ := stimulus_spec me.mem out_inside reported size
    have deeds : ∀ deed ∈ me.deeds ++ g.cells.map Deed.rx ++ [Deed.filled g.data.length size.toNat], deed.Inside rx tx := by
      rw [List.append_assoc, deeds_append old]
      simp only [List.mem_append, List.mem_map, List.mem_singleton]
      rintro deed (⟨a, member, rfl⟩ | rfl)
      · exact cells a member
      · exact room
    rw [handle, ended]
    exact iff_of_true ⟨inside, in_inside, deeds⟩ trivial
  | txPushRaw sf =>
    obtain ⟨q, ended, inside, q_iff⟩ := pushRaw_spec me.mem in_inside sf
    rw [Event.Fits, ← q_iff, handle, ended]
    have deeds : (∀ deed ∈ me.deeds ++ q.octets.map (Deed.frame · sf.len.toNat) ++ q.cells.map Deed.tx, deed.Inside rx tx) ↔
        q.Inside tx sf.len.toNat := by
      rw [List.append_assoc, deeds_append old]
      simp only [List.mem_append, List.mem_map, or_imp, forall_and, forall_exists_index, and_imp, forall_apply_eq_imp_iff₂]
      rfl
    exact ⟨fun after => deeds.mp after.deeds, fun held => ⟨out_inside, inside, deeds.mpr held⟩⟩
  | txGetPressure outpos =>
    rw [Event.Fits, ← getPressure_iff rx in_inside]
    have deeds : (∀ deed ∈ me.deeds ++ [.pressure (getPressure tx me.tx outpos) me.tx.pos outpos], deed.Inside rx tx) ↔
        (Deed.pressure (getPressure tx me.tx outpos) me.tx.pos outpos).Inside rx tx := by
      rw [deeds_append old]
      simp only [List.mem_singleton, forall_eq]
    exact ⟨fun after => deeds.mp after.deeds, fun right => ⟨out_inside, in_inside, deeds.mpr right⟩⟩
  | card mem => exact iff_of_true ⟨out_inside, in_inside, old⟩ trivial

/-- Both channels as they are created. -/
def start (mem : Nat → UInt8) : Me where
  rx := created
  tx := created
  mem := mem
  deeds := []

/-- Whatever the order of calls, all stays in the rings as long as they fit, and the rings are not
empty. -/
theorem rings_bounded_iff (rx tx : Ring) (mem : Nat → UInt8) (es : List Event) :
    (∀ before, before <+: es → ∀ me, Run (next rx tx) Any (start mem) before me → Bounded rx tx me) ↔
      0 < rx.size ∧ 0 < tx.size ∧ Throughout (next rx tx) (Event.Fits rx tx) (start mem) es := by
  by_cases empty : 0 < rx.size ∧ 0 < tx.size
  · obtain ⟨some_rx, some_tx⟩ := empty
    have bounded : Bounded rx tx (start mem) := ⟨some_rx, some_tx, fun deed nothing => by cases nothing⟩
    rw [good_iff (fun _ => True) (Bounded rx tx) (fun _ held => ?_) (fun _ _ => trivial) es trivial bounded]
    · exact ⟨fun through => ⟨some_rx, some_tx, through⟩, fun held => held.2.2⟩
    · rw [← handle_bounded_iff held]
      exact ⟨fun all => all _ rfl, fun one _ is => Option.some.inj is ▸ one⟩
  · refine iff_of_false (fun reached => empty ?_) fun held => empty ⟨held.1, held.2.1⟩
    have first := reached [] List.nil_prefix _ (.nil _)
    exact ⟨Nat.zero_lt_of_lt first.fifo_out, Nat.zero_lt_of_lt first.fifo_in⟩

/-- A ring of 512 octets. -/
def ring512 : Ring where
  fifo_base := 0x1000
  fifo_size := 512
  even := rfl

/-- A companded frame of three octets, and then a linear one of four, from an odd position. -/
def frames : List Event :=
  [.txStart 508, .txSetAttr true (.descr true false), .txPushRaw { len := 3, data := fun _ => 0 }, .txSetAttr true (.descr false false)]

theorem bounded_up_to_odd_position : ∀ before, before <+: frames →
    ∀ me, Run (next ring512 ring512) Any (start fun _ => 0) before me → Bounded ring512 ring512 me :=
  (rings_bounded_iff ring512 ring512 _ frames).mpr ⟨by decide, by decide, by decide⟩

/-- From the last position of the ring on, the second octet of a linear sample is behind it. -/
theorem linear_sample_crosses_end : ¬∀ (rx tx : Ring) (mem : Nat → UInt8) (es before : List Event), before <+: es →
    ∀ me, Run (next rx tx) Any (start mem) before me → Bounded rx tx me := by
  intro claim
  have through := (rings_bounded_iff ring512 ring512 (fun _ => 0) [.txStart 511, .txPushRaw { len := 2, data := fun _ => 0 }]).mp
    (claim ring512 ring512 _ _)
  exact absurd through.2.2.2.1 (by decide)

end Vstuff.Vgsm2
