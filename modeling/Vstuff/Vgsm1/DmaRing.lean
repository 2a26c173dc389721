import Vstuff.Lib.Machine
import Vstuff.Lib.RingBuffer
import Mathlib.Data.Fin.VecNotation

/-! What the modules of the first card are heard saying (`modules/vgsm/me.c`). The card stores a
sample of four octets at a time, one for each module, and goes round in its memory; behind it each
receiver that runs collects the octets of its timeslot, when the pipeline stimulates it. -/
namespace Vstuff.Vgsm1
open Transition Cyclic RingBuffer
set_option linter.all false

/-- `vgsm_DMA_SAMPLES`, which is `fifo_size` of a receiver. -/
def dmaSamples : Nat := 0x2000

/-- `sf->size` of a stream frame that has been allocated. -/
def sfSize : Nat := 1016

/-- `me->timeslot_offset`. -/
def timeslotOffset (id : Fin 4) : Nat := 3 - id.val

/-- `struct vgsm_me_rx`. The last two fields are not in the source: they remember the frames
pushed and the octets that have been sampled for the module since it was started. -/
structure MeRx where
  fifoPos : Nat := 0
  running : Bool := false
  pushed : List (List UInt8) := []
  sampled : List UInt8 := []

/-- `rdCur` is what `VGSM_DMA_RD_CUR` tells: the sample that the card stores next. -/
structure Card where
  readdmaMem : Nat → UInt8 := fun _ => 0
  rdCur : Nat := 0
  rx : Fin 4 → MeRx := fun _ => {}

inductive Fault where
  | behindFrame
  | endless
  deriving DecidableEq

/-- The loop of `vgsm_me_rx_chan_stimulus`. Its limit is no limit: `copied_octets` stays 0. -/
def stimulusLoop (readdmaMem : Nat → UInt8) (id : Fin 4) (inpos : Nat) : Nat → Nat → List UInt8 → Except Fault (Nat × List UInt8)
  | 0, _, _ => .error .endless
  | fuel + 1, fifoPos, data =>
    if fifoPos ≠ inpos ∧ 0 < sfSize then
      if data.length ≥ sfSize then .error .behindFrame
      else
        let data := data ++ [readdmaMem (fifoPos * 4 + timeslotOffset id)]
        let fifoPos := fifoPos + 1
        stimulusLoop readdmaMem id inpos fuel (if fifoPos ≥ dmaSamples then 0 else fifoPos) data
    else .ok (fifoPos, data)

section Card
variable (card : Card)

/-- The card stores a sample. -/
def Card.sample (octets : Fin 4 → UInt8) : Card where
  readdmaMem := fun a => if a / 4 = card.rdCur then octets ⟨a % 4, Nat.mod_lt _ (by decide)⟩ else card.readdmaMem a
  rdCur := step 0 dmaSamples card.rdCur
  rx := fun id =>
    let rx := card.rx id
    if rx.running then { rx with sampled := rx.sampled ++ [octets (Fin.rev id)] } else rx

/-- `vgsm_me_rx_chan_start`. -/
def Card.start (id : Fin 4) : Card :=
  { card with rx := Function.update card.rx id { fifoPos := card.rdCur, running := true } }

/-- `vgsm_me_rx_chan_stop`. -/
def Card.stop (id : Fin 4) : Card :=
  { card with rx := Function.update card.rx id { card.rx id with running := false } }

/-- `vgsm_me_rx_chan_stimulus`, when there is a frame for it or not. -/
def Card.stimulus (id : Fin 4) (sf : Bool) : Except Fault Card :=
  if sf then do
    let (fifoPos, data) ← stimulusLoop card.readdmaMem id card.rdCur (dmaSamples + 1) (card.rx id).fifoPos []
    pure { card with
      rx := Function.update card.rx id
        { card.rx id with fifoPos := fifoPos, pushed := (card.rx id).pushed ++ [data] } }
  else pure card

end Card

inductive Event where
  | sample (octets : Fin 4 → UInt8)
  | start (id : Fin 4)
  | stop (id : Fin 4)
  | stimulus (id : Fin 4) (sf : Bool)

/-- Only a receiver that runs is stimulated. -/
def next (card : Card) : Event → Option Card
  | .sample octets => some (card.sample octets)
  | .start id => some (card.start id)
  | .stop id => some (card.stop id)
  | .stimulus id sf => if (card.rx id).running then (card.stimulus id sf).toOption else none

/-- How many samples a receiver has not looked at. -/
def MeRx.unread (rx : MeRx) (rdCur : Nat) : Nat := dist 0 dmaSamples rx.fifoPos rdCur

/-- The card does not come round to a receiver that runs. -/
def Careful (card : Card) : Event → Prop
  | .sample _ => ∀ id, (card.rx id).running = true → (card.rx id).unread card.rdCur + 1 < dmaSamples
  | _ => True

instance (card : Card) (e : Event) : Decidable (Careful card e) :=
  match e with
  | .sample _ => inferInstanceAs (Decidable (∀ _, _ → _))
  | .start _ | .stop _ | .stimulus _ _ => inferInstanceAs (Decidable True)

/-! ## One stimulus -/

/-- The octets of a timeslot. -/
def slot (readdmaMem : Nat → UInt8) (id : Fin 4) (pos : Nat) : UInt8 := readdmaMem (pos * 4 + timeslotOffset id)

/-- What has been sampled for a receiver has been pushed, or is in the memory from its position on. -/
structure MeRx.Follows (rx : MeRx) (readdmaMem : Nat → UInt8) (rdCur : Nat) (id : Fin 4) : Prop where
  on : On 0 dmaSamples rx.fifoPos
  rest : rx.sampled = rx.pushed.flatten ++ window 0 dmaSamples (slot readdmaMem id) rx.fifoPos (rx.unread rdCur)

/-- The receivers that run follow the card. -/
structure Kept (card : Card) : Prop where
  on : On 0 dmaSamples card.rdCur
  follows : ∀ id, (card.rx id).running = true → (card.rx id).Follows card.readdmaMem card.rdCur id

/-- A receiver after a stimulus: the samples it had not looked at are in a frame. -/
def MeRx.stimulated (rx : MeRx) (readdmaMem : Nat → UInt8) (rdCur : Nat) (id : Fin 4) : MeRx :=
  { rx with
    fifoPos := rdCur
    pushed := rx.pushed ++ [window 0 dmaSamples (slot readdmaMem id) rx.fifoPos (rx.unread rdCur)] }

section Steps
variable {card t : Card} {id : Fin 4}

/-- The loop collects the octets up to where the card is, if they have room in the frame. -/
theorem stimulusLoop_eq (readdmaMem : Nat → UInt8) (id : Fin 4) {inpos : Nat} (here : On 0 dmaSamples inpos) (far : Nat) :
    ∀ (fuel fifoPos : Nat) (data : List UInt8), On 0 dmaSamples fifoPos → dist 0 dmaSamples fifoPos inpos = far →
      far < fuel → data.length ≤ sfSize →
      stimulusLoop readdmaMem id inpos fuel fifoPos data =
        if data.length + far ≤ sfSize then .ok (inpos, data ++ window 0 dmaSamples (slot readdmaMem id) fifoPos far)
        else .error .behindFrame := by
  induction far with
  | zero =>
    intro fuel fifoPos data on steps more room
    obtain ⟨fuel, rfl⟩ := Nat.exists_eq_add_one_of_ne_zero (Nat.ne_of_gt more)
    have same : fifoPos = inpos := by
      have reached := iterate_dist on here
      rwa [steps, Function.iterate_zero_apply] at reached
    rw [stimulusLoop, if_neg (fun both => both.1 same), Nat.add_zero, if_pos room, same, window, List.append_nil]
  | succ far ih =>
    intro fuel fifoPos data on steps more room
    obtain ⟨fuel, rfl⟩ := Nat.exists_eq_add_one_of_ne_zero (Nat.ne_zero_of_lt more)
    have other : fifoPos ≠ inpos := by
      rintro rfl
      have none := dist_iterate on 0
      rw [Function.iterate_zero_apply, Nat.zero_mod, steps] at none
      cases none
    have further : (if fifoPos + 1 ≥ dmaSamples then 0 else fifoPos + 1) = step 0 dmaSamples fifoPos := by
      unfold step
      rw [Nat.zero_add]
      split <;> split <;> omega
    have on' : On 0 dmaSamples (step 0 dmaSamples fifoPos) := iterate_on on 1
    have nearer : dist 0 dmaSamples (step 0 dmaSamples fifoPos) inpos = far := by
      have within : far + 1 < dmaSamples := steps ▸ dist_lt (by decide)
      have reached := iterate_dist on here
      rw [steps, Function.iterate_succ_apply] at reached
      rw [← reached, dist_iterate on', Nat.mod_eq_of_lt (by omega)]
    rw [stimulusLoop, if_pos ⟨other, by decide⟩]
    by_cases full : data.length ≥ sfSize
    · rw [if_pos full, if_neg (by omega)]
    · have room' : (data ++ [slot readdmaMem id fifoPos]).length ≤ sfSize := by
        rw [List.length_append, List.length_singleton]
        omega
      have sum : (data ++ [slot readdmaMem id fifoPos]).length + far = data.length + (far + 1) := by
        rw [List.length_append, List.length_singleton]
        omega
      have rest := ih fuel _ _ on' nearer (by omega) room'
      rw [sum, List.append_assoc, List.singleton_append] at rest
      rw [if_neg full]
      dsimp only
      rw [further]
      exact rest

/-- A stimulus pushes what has not been pushed, if that has room in a frame. -/
theorem MeRx.Follows.stimulus (follows : (card.rx id).Follows card.readdmaMem card.rdCur id) (here : On 0 dmaSamples card.rdCur) :
    card.stimulus id true =
      if (card.rx id).sampled.length ≤ (card.rx id).pushed.flatten.length + sfSize then
        .ok { card with rx := Function.update card.rx id ((card.rx id).stimulated card.readdmaMem card.rdCur id) }
      else .error .behindFrame := by
  have within : (card.rx id).unread card.rdCur < dmaSamples := dist_lt (by decide)
  have collected := stimulusLoop_eq card.readdmaMem id here _ (dmaSamples + 1) _ [] follows.on
    rfl (Nat.lt_succ_of_lt within) (Nat.zero_le _)
  rw [List.length_nil, Nat.zero_add, List.nil_append] at collected
  have same : (card.rx id).sampled.length ≤ (card.rx id).pushed.flatten.length + sfSize ↔
      dist 0 dmaSamples (card.rx id).fifoPos card.rdCur ≤ sfSize := by
    rw [follows.rest, List.length_append, length_window, MeRx.unread]
    exact Nat.add_le_add_iff_left
  unfold Card.stimulus
  rw [if_pos rfl, collected]
  simp only [same]
  split <;> rfl

/-- Nothing is left to push where the card is. -/
theorem MeRx.Follows.stimulated {rx : MeRx} {readdmaMem : Nat → UInt8} {rdCur : Nat} (follows : rx.Follows readdmaMem rdCur id)
    (here : On 0 dmaSamples rdCur) :
    (rx.stimulated readdmaMem rdCur id).pushed.flatten = rx.sampled ∧
      (rx.stimulated readdmaMem rdCur id).Follows readdmaMem rdCur id := by
  have all : (rx.stimulated readdmaMem rdCur id).pushed.flatten = rx.sampled := by
    rw [follows.rest, MeRx.stimulated, List.flatten_append, List.flatten_singleton]
  refine ⟨all, here, ?_⟩
  have none : (rx.stimulated readdmaMem rdCur id).unread rdCur = 0 := dist_iterate here 0
  rw [none, all, window, List.append_nil]
  rfl

/-! ## Runs -/

/-- A sample is stored behind those that a receiver has not looked at. -/
theorem MeRx.Follows.sample (follows : (card.rx id).Follows card.readdmaMem card.rdCur id) (here : On 0 dmaSamples card.rdCur)
    (running : (card.rx id).running = true) (room : (card.rx id).unread card.rdCur + 1 < dmaSamples) (octets : Fin 4 → UInt8) :
    ((card.sample octets).rx id).Follows (card.sample octets).readdmaMem (card.sample octets).rdCur id := by
  have stored : slot (card.sample octets).readdmaMem id =
      store 0 dmaSamples (slot card.readdmaMem id) card.rdCur [octets (Fin.rev id)] := by
    funext pos
    have place : (pos * 4 + timeslotOffset id) / 4 = pos := by
      unfold timeslotOffset
      omega
    have turn : (⟨(pos * 4 + timeslotOffset id) % 4, Nat.mod_lt _ (by decide)⟩ : Fin 4) = Fin.rev id := by
      apply Fin.ext
      rw [Fin.val_rev]
      change (pos * 4 + (3 - id.val)) % 4 = 4 - (id.val + 1)
      omega
    simp only [slot, Card.sample, place, turn, store, Function.update_apply]
  have farther : ((card.sample octets).rx id).unread (card.sample octets).rdCur = (card.rx id).unread card.rdCur + 1 := by
    have steps := dist_step follows.on here 1
    rw [Function.iterate_one] at steps
    simp only [Card.sample, running, ↓reduceIte, MeRx.unread] at room ⊢
    rw [steps, Nat.mod_eq_of_lt room]
  have fifoPos : ((card.sample octets).rx id).fifoPos = (card.rx id).fifoPos := by simp [Card.sample, running]
  refine ⟨fifoPos ▸ follows.on, ?_⟩
  have appended := window_append (m := slot card.readdmaMem id) (l := [octets (Fin.rev id)]) follows.on (Nat.le_of_lt room)
  rw [MeRx.unread, iterate_dist follows.on here, List.length_singleton] at appended
  rw [farther, stored, fifoPos, MeRx.unread, appended]
  simp only [Card.sample, running, ↓reduceIte, follows.rest, MeRx.unread, List.append_assoc]

theorem Kept.update (kept : Kept card) {rx : MeRx}
    (follows : rx.running = true → rx.Follows card.readdmaMem card.rdCur id) :
    Kept { card with rx := Function.update card.rx id rx } where
  on := kept.on
  follows := by
    intro other running
    by_cases same : other = id
    · subst same
      dsimp only at running ⊢
      rw [Function.update_self] at running ⊢
      exact follows running
    · dsimp only at running ⊢
      rw [Function.update_of_ne same] at running ⊢
      exact kept.follows other running

theorem Kept.next {e : Event} (kept : Kept card) (careful : Careful card e) (took : next card e = some t) : Kept t := by
  cases e with
  | sample octets =>
    cases took
    refine ⟨iterate_on kept.on 1, fun id running => ?_⟩
    have before : (card.rx id).running = true := by
      simp only [Card.sample] at running
      split at running <;> assumption
    exact (kept.follows id before).sample kept.on before (careful id before) octets
  | start id =>
    cases took
    refine kept.update fun _ => ⟨kept.on, ?_⟩
    have none : dist 0 dmaSamples card.rdCur card.rdCur = 0 := dist_iterate kept.on 0
    simp only [MeRx.unread, none, window, List.flatten_nil, List.append_nil]
  | stop id =>
    cases took
    exact kept.update fun running => absurd running Bool.false_ne_true
  | stimulus id sf =>
    rw [Vgsm1.next] at took
    split at took
    · rename_i running
      cases sf with
      | false =>
        cases took
        exact kept
      | true =>
        have follows := kept.follows id running
        rw [follows.stimulus kept.on] at took
        split at took
        · cases took
          exact kept.update fun _ => (follows.stimulated kept.on).2
        · cases took
    · cases took

end Steps

/-- In every run in which the card does not come round to a receiver, each receiver has pushed the first of the octets sampled
for its module; it is stimulated without harm exactly if the rest has room in one frame, and then has pushed all of them. -/
theorem samples_are_pushed_once {events : List Event} {card : Card} (run : Run next Careful {} events card) {id : Fin 4}
    (running : (card.rx id).running = true) :
    (card.rx id).pushed.flatten <+: (card.rx id).sampled ∧
      ((∃ t, card.stimulus id true = .ok t) ↔ (card.rx id).sampled.length ≤ (card.rx id).pushed.flatten.length + sfSize) ∧
      ∀ t, card.stimulus id true = .ok t →
        (t.rx id).sampled = (card.rx id).sampled ∧ (t.rx id).pushed.flatten = (card.rx id).sampled := by
  have kept : Kept card := run.invariant Kept (fun kept careful took => kept.next careful took)
    ⟨⟨Nat.le_refl _, by decide⟩, fun _ running => absurd running Bool.false_ne_true⟩
  have follows := kept.follows id running
  rw [follows.stimulus kept.on]
  refine ⟨⟨_, follows.rest.symm⟩, ?_, fun t took => ?_⟩
  · split
    · rename_i room
      exact ⟨fun _ => room, fun _ => ⟨_, rfl⟩⟩
    · rename_i little
      refine ⟨fun both => ?_, fun room => absurd room little⟩
      obtain ⟨t, took⟩ := both
      cases took
  · split at took
    · cases took
      dsimp only
      rw [Function.update_self]
      exact ⟨rfl, (follows.stimulated kept.on).1⟩
    · cases took

/-- Two samples for the module 3. -/
theorem two_samples_are_pushed : ∃ card t, follow next Careful {} [.start 3, .sample ![1, 2, 3, 4], .sample ![5, 6, 7, 8]] = some card ∧
    card.stimulus 3 true = .ok t ∧ (t.rx 3).pushed.flatten = [1, 5] := by
  have follows : ∃ card, follow next Careful {} [.start 3, .sample ![1, 2, 3, 4], .sample ![5, 6, 7, 8]] = some card ∧
      (card.rx 3).running = true ∧ (card.rx 3).sampled = [1, 5] ∧ (card.rx 3).pushed = [] := ⟨_, rfl, rfl, rfl, rfl⟩
  obtain ⟨card, follows, running, sampled, pushed⟩ := follows
  obtain ⟨-, succeeds, pushes⟩ := samples_are_pushed_once (follow_run _ _ _ _ follows) running
  obtain ⟨t, took⟩ := succeeds.mpr (by rw [sampled, pushed]; decide)
  exact ⟨card, t, follows, took, (pushes t took).2.trans sampled⟩

end Vstuff.Vgsm1
