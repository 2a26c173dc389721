import Vstuff.Lib.Machine
import Vstuff.Lib.Peek

/-! The answer to reset of a local SIM (`mesim_local.c`, `atr.h`): a chain of groups, each of which
says what is in the next, walked once to see whether it is all there and once more to show it. -/
namespace Vstuff.Vgsm.Atr
open Peek Transition
set_option linter.all false

/-- The upper half of T0 and of a TD: what the group behind it has. -/
structure Presence where
  ta : Bool
  tb : Bool
  tc : Bool
  td : Bool
  deriving DecidableEq, Repr

def presence (octet : UInt8) : Presence where
  ta := octet.toNat.testBit 4
  tb := octet.toNat.testBit 5
  tc := octet.toNat.testBit 6
  td := octet.toNat.testBit 7

/-- The lower half: `k` of T0, and `protocol_type` of a TD. -/
def low (octet : UInt8) : Nat := octet.toNat % 16

/-- How many octets of a group come before its TD. -/
def Presence.before (present : Presence) : Nat := present.ta.toNat + present.tb.toNat + present.tc.toNat

/-! ## What is announced -/

/-- From a place on there are groups, the first with what is said to be present, up to another place;
with one of a protocol other than 0, or not. -/
inductive Groups (m : Nat → UInt8) : Nat → Presence → Nat → Bool → Prop
  | last {pos present} (no_td : present.td = false) : Groups m pos present (pos + present.before) false
  | more {pos present stop tck} (td : present.td = true)
      (rest : Groups m (pos + present.before + 1) (presence (m (pos + present.before))) stop tck) :
      Groups m pos present stop (low (m (pos + present.before)) != 0 || tck)

/-- So many octets: TS, T0, the groups, `k` historical octets, and TCK if it is needed. -/
def Announces (m : Nat → UInt8) (n : Nat) : Prop :=
  ∃ stop tck, Groups m 2 (presence (m 1)) stop tck ∧ n = stop + low (m 1) + tck.toNat

/-! ## The two walks -/

/-- How the first walk ends. -/
inductive Walk where
  | unfinished
  | short
  | passed (pos : Nat) (tck_needed : Bool)
  deriving DecidableEq, Repr

/-- Over one octet, where it is present. -/
def skip (len : Int) (present : Bool) (pos : Nat) : Option Nat :=
  if present then if len < pos + 1 then none else some (pos + 1) else some pos

/-- The loop of `vgsm_sim_atr_is_complete`. -/
def walk (len : Int) : Nat → Presence → Nat → Bool → Peek UInt8 Walk
  | 0, _, _, _ => pure .unfinished
  | fuel + 1, present, pos, tck_needed =>
    match skip len present.ta pos >>= skip len present.tb >>= skip len present.tc with
    | none => pure .short
    | some pos =>
      if present.td then
        if len < pos + 1 then pure .short
        else do
          let td ← cell pos
          walk len fuel (presence td) (pos + 1) (tck_needed || low td != 0)
      else pure (.passed pos tck_needed)

/-- What comes behind the groups is there. -/
def endIsThere (len : Int) (pos k : Nat) (tck_needed : Bool) : Bool :=
  if len < pos + k then false
  else if tck_needed then if len < pos + k + 1 then false else true
  else true

/-- `vgsm_sim_atr_is_complete`; `none` where the loop goes on. -/
def isComplete (fuel : Nat) (len : Int) : Peek UInt8 (Option Bool) :=
  if len < 1 then pure (some false)
  else if len < 2 then pure (some false)
  else do
    let t0 ← cell 1
    match ← walk len fuel (presence t0) 2 false with
    | .unfinished => pure none
    | .short => pure (some false)
    | .passed pos tck_needed =>
      let t0 ← cell 1
      pure (some (endIsThere len pos (low t0) tck_needed))

/-- One octet shown, where it is present. -/
def shown (present : Bool) (pos : Nat) : Peek UInt8 Nat :=
  if present then do
    let _ ← cell pos
    pure (pos + 1)
  else pure pos

/-- TA, TB and TC of a group. -/
def shownGroup (present : Presence) (pos : Nat) : Peek UInt8 Nat := do
  let pos ← shown present.ta pos
  let pos ← shown present.tb pos
  shown present.tc pos

/-- The loop of `vgsm_mesim_local_receive_atr`: no length is looked at. -/
def showGroups : Nat → Presence → Nat → Peek UInt8 (Option Nat)
  | 0, _, _ => pure none
  | fuel + 1, present, pos => do
    let pos ← shownGroup present pos
    if present.td then
      let td ← cell pos
      showGroups fuel (presence td) (pos + 1)
    else pure (some pos)

/-- What is done with the octets there are. -/
inductive Verdict where
  | unfinished
  | incomplete
  | unexpectedTs
  | ready
  deriving DecidableEq, Repr

/-- The decoding of `vgsm_mesim_local_receive_atr`. -/
def decoded (fuel : Nat) : Peek UInt8 Verdict := do
  let ts ← cell 0
  if ts ≠ 0x3b then pure .unexpectedTs
  else
    let t0 ← cell 1
    match ← showGroups fuel (presence t0) 2 with
    | none => pure .unfinished
    | some _ => pure .ready

/-- `atr_buf`, of 64 octets, and `atr_buf_len`. -/
structure Buffer where
  octets : Nat → UInt8
  len : Int

/-- What `read` gives: -1, or some octets. -/
def Buffer.filled (buf : Buffer) : Option (List UInt8) → Buffer
  | none => { buf with len := buf.len - 1 }
  | some octets =>
    { octets := fun i => if (i : Int) < buf.len then buf.octets i else octets.getD (i - buf.len).toNat (buf.octets i)
      len := buf.len + octets.length }

/-- The octets that wait, as many as are asked for. -/
def Buffer.got (buf : Buffer) (waiting : Option (List UInt8)) : Option (List UInt8) :=
  waiting.map fun octets => octets.take (64 - buf.len).toNat

/-- `vgsm_mesim_local_receive_atr`, but for what is done when it is ready. -/
def receiveAtr (fuel : Nat) (buf : Buffer) (waiting : Option (List UInt8)) : Buffer × Verdict :=
  let buf := buf.filled (buf.got waiting)
  match (isComplete fuel buf.len).value buf.octets with
  | none => (buf, .unfinished)
  | some false => (buf, .incomplete)
  | some true => (buf, (decoded fuel).value buf.octets)

/-! ## The first walk -/

variable {m m' : Nat → UInt8} {len len' : Int} {fuel pos stop n : Nat} {present : Presence} {tck : Bool}

theorem Groups.unique {stop' : Nat} {tck' : Bool} (one : Groups m pos present stop tck) (other : Groups m pos present stop' tck') :
    stop' = stop ∧ tck' = tck := by
  induction one generalizing stop' tck' with
  | last no_td =>
    cases other with
    | last => exact ⟨rfl, rfl⟩
    | more td => rw [no_td] at td; cases td
  | more td _ ih =>
    cases other with
    | last no_td => rw [no_td] at td; cases td
    | more _ rest =>
      obtain ⟨rfl, rfl⟩ := ih rest
      exact ⟨rfl, rfl⟩

theorem Groups.start_le (groups : Groups m pos present stop tck) : pos + present.before ≤ stop := by
  induction groups with
  | last => exact Nat.le_refl _
  | more _ _ ih => omega

/-- The octets alone say how long the answer is. -/
theorem Announces.unique {n' : Nat} (one : Announces m n) (other : Announces m n') : n' = n := by
  obtain ⟨stop, tck, groups, rfl⟩ := one
  obtain ⟨stop', tck', groups', rfl⟩ := other
  obtain ⟨rfl, rfl⟩ := groups.unique groups'
  rfl

theorem bind_skip (len : Int) (pos : Nat) (one : Bool) :
    ((if len < pos then none else some pos) >>= skip len one) =
      if len < (pos + one.toNat : Nat) then none else some (pos + one.toNat) := by
  by_cases short : len < pos
  · rw [if_pos short, if_pos (by push_cast; omega)]
    rfl
  · rw [if_neg short, Option.bind_eq_bind, Option.bind_some, skip]
    cases one
    · rw [if_neg (by simp), if_neg (by simpa using short)]
      rfl
    · rw [if_pos rfl]
      rfl

/-- What is behind the answer does not matter. -/
theorem Groups.local (groups : Groups m pos present stop tck) (agree : ∀ i < stop, m' i = m i) : Groups m' pos present stop tck := by
  induction groups with
  | last no_td => exact .last no_td
  | @more pos present stop tck td rest ih =>
    have same : m' (pos + present.before) = m (pos + present.before) := agree _ (by
      have := rest.start_le
      omega)
    have rest' := ih agree
    rw [← same] at rest' ⊢
    exact .more td rest'

theorem Announces.local (announced : Announces m n) (agree : ∀ i < n, m' i = m i) : Announces m' n := by
  obtain ⟨stop, tck, groups, rfl⟩ := announced
  have far := groups.start_le
  have t0 : m' 1 = m 1 := agree 1 (by omega)
  refine ⟨stop, tck, ?_, by rw [t0]⟩
  rw [t0]
  exact groups.local fun i below => agree i (by omega)

/-- The octets before TD are there, or not. -/
theorem skipped (inside : (pos : Int) ≤ len) :
    (skip len present.ta pos >>= skip len present.tb >>= skip len present.tc) =
      if len < (pos + present.before : Nat) then none else some (pos + present.before) := by
  have first := bind_skip len pos present.ta
  rw [if_neg (by omega), Option.bind_eq_bind, Option.bind_some] at first
  rw [first, bind_skip, bind_skip, Nat.add_assoc, Nat.add_assoc, Presence.before, Nat.add_assoc]

/-- The walk looks at no octet from the length on. It comes to where the groups end if this is
inside, and else says that there is too little. -/
theorem walk_spec (m : Nat → UInt8) (present : Presence) (inside : (pos : Int) ≤ len) (enough : len < fuel + pos) (tck_needed : Bool) :
    (walk len fuel present pos tck_needed).reach m ≤ len.toNat ∧
      ((∃ stop tck, Groups m pos present stop tck ∧ (stop : Int) ≤ len ∧
          (walk len fuel present pos tck_needed).value m = .passed stop (tck_needed || tck)) ∨
        ((walk len fuel present pos tck_needed).value m = .short ∧
          ∀ stop tck, Groups m pos present stop tck → len < stop)) := by
  induction fuel generalizing pos present tck_needed with
  | zero => omega
  | succ fuel ih =>
    rw [walk, skipped inside]
    by_cases short : len < (pos + present.before : Nat)
    · rw [if_pos short]
      refine ⟨by simp, .inr ⟨rfl, fun stop tck groups => ?_⟩⟩
      have := groups.start_le
      omega
    rw [if_neg short]
    dsimp only
    cases td : present.td with
    | false =>
      refine ⟨by simp, .inl ⟨_, _, .last td, by omega, ?_⟩⟩
      simp
    | true =>
      rw [if_pos rfl]
      by_cases no_td : len < (pos + present.before : Nat) + 1
      · rw [if_pos no_td]
        refine ⟨by simp, .inr ⟨rfl, fun stop tck groups => ?_⟩⟩
        cases groups with
        | last no => rw [td] at no; cases no
        | more _ rest =>
          have := rest.start_le
          omega
      · rw [if_neg no_td]
        obtain ⟨reach, result⟩ := ih (presence (m (pos + present.before)))
          (show ((pos + present.before + 1 : Nat) : Int) ≤ len by push_cast; omega) (by push_cast; omega) (tck_needed || low (m (pos + present.before)) != 0)
        refine ⟨?_, ?_⟩
        · rw [reach_bind, reach_cell, value_cell]
          omega
        · rw [value_bind, value_cell]
          obtain ⟨stop, tck, groups, within, value⟩ | ⟨value, beyond⟩ := result
          · refine .inl ⟨stop, _, .more td groups, within, ?_⟩
            rw [value, Bool.or_assoc]
          · refine .inr ⟨value, fun stop tck groups => ?_⟩
            cases groups with
            | last no => rw [td] at no; cases no
            | more _ rest => exact beyond _ _ rest

/-- The answer is complete if it is as long as it says, and no octet from the length on is looked at. -/
theorem isComplete_spec (m : Nat → UInt8) (enough : len < fuel) :
    (isComplete fuel len).reach m ≤ len.toNat ∧
      ∃ complete, (isComplete fuel len).value m = some complete ∧ (complete = true ↔ ∃ n, Announces m n ∧ (n : Int) ≤ len) := by
  have least {n : Nat} (announced : Announces m n) : 2 ≤ n := by
    obtain ⟨stop, tck, groups, rfl⟩ := announced
    have := groups.start_le
    omega
  have none_below {n : Nat} (two : len < 2) (announced : Announces m n) : ¬ (n : Int) ≤ len := by
    have := least announced
    omega
  unfold isComplete
  by_cases no_ts : len < 1
  · rw [if_pos no_ts]
    exact ⟨by simp, false, rfl, by simpa using fun n announced => by have := none_below (by omega) announced; omega⟩
  rw [if_neg no_ts]
  by_cases no_t0 : len < 2
  · rw [if_pos no_t0]
    exact ⟨by simp, false, rfl, by simpa using fun n announced => by have := none_below no_t0 announced; omega⟩
  rw [if_neg no_t0]
  obtain ⟨reach, result⟩ := walk_spec m (presence (m 1)) (show ((2 : Nat) : Int) ≤ len by omega) (show len < fuel + (2 : Nat) by omega) false
  simp only [value_bind, reach_bind, value_cell, reach_cell]
  obtain ⟨stop, tck, groups, within, value⟩ | ⟨value, beyond⟩ := result
  · have announced_iff {n : Nat} : Announces m n ↔ n = stop + low (m 1) + tck.toNat := by
      constructor
      · rintro ⟨stop', tck', groups', rfl⟩
        obtain ⟨rfl, rfl⟩ := groups.unique groups'
        rfl
      · rintro rfl
        exact ⟨stop, tck, groups, rfl⟩
    rw [value]
    simp only [value_bind, reach_bind, value_cell, reach_cell, value_pure, reach_pure, Bool.false_or]
    refine ⟨by omega, _, rfl, ?_⟩
    simp only [announced_iff, exists_eq_left, endIsThere]
    cases tck <;> simp
    omega
  · rw [value]
    refine ⟨by simp; omega, false, rfl, ?_⟩
    simp only [Bool.false_eq_true, false_iff, not_exists, not_and]
    rintro n ⟨stop, tck, groups, rfl⟩
    have := beyond stop tck groups
    omega

/-- What is complete stays complete. -/
theorem isComplete_longer (enough : len' < fuel) (longer : len ≤ len') (agree : ∀ i : Nat, (i : Int) < len → m' i = m i)
    (complete : (isComplete fuel len).value m = some true) : (isComplete fuel len').value m' = some true := by
  obtain ⟨reach, found, value, complete_iff⟩ := isComplete_spec m (show len < fuel by omega)
  have same : (isComplete fuel len).value m' = some true := by
    rw [value_eq_of_reach_le (n := len.toNat) (fun i below => agree i (by omega)) reach, complete]
  obtain ⟨-, first, value', first_iff⟩ := isComplete_spec m' (show len < fuel by omega)
  rw [value', Option.some.injEq] at same
  obtain ⟨n, announced, within⟩ := first_iff.mp same
  obtain ⟨-, second, value'', second_iff⟩ := isComplete_spec m' enough
  rw [value'', second_iff.mpr ⟨n, announced, by omega⟩]

/-! ## The second walk -/

theorem value_shown (one : Bool) : (shown one pos).value m = pos + one.toNat := by
  cases one <;> rfl

theorem reach_shown (m : Nat → UInt8) (pos : Nat) (one : Bool) : (shown one pos).reach m ≤ pos + one.toNat := by
  cases one
  · exact Nat.zero_le _
  · simp [shown]

theorem value_shownGroup : (shownGroup present pos).value m = pos + present.before := by
  rw [shownGroup, value_bind, value_bind, value_shown, value_shown, value_shown, Presence.before, Nat.add_assoc, Nat.add_assoc,
    Nat.add_assoc]

theorem reach_shownGroup (m : Nat → UInt8) (present : Presence) (pos : Nat) : (shownGroup present pos).reach m ≤ pos + present.before := by
  have ta := reach_shown m pos present.ta
  have tb := reach_shown m (pos + present.ta.toNat) present.tb
  have tc := reach_shown m (pos + present.ta.toNat + present.tb.toNat) present.tc
  rw [shownGroup, reach_bind, reach_bind, value_shown, value_shown, Presence.before]
  omega

/-- It comes to where the groups end, and looks at nothing behind. -/
theorem showGroups_spec (groups : Groups m pos present stop tck) (enough : stop < fuel + pos) :
    (showGroups fuel present pos).value m = some stop ∧ (showGroups fuel present pos).reach m ≤ stop := by
  induction groups generalizing fuel with
  | @last pos present no_td =>
    obtain _ | fuel := fuel
    · omega
    have before := reach_shownGroup m present pos
    rw [showGroups, value_bind, reach_bind, value_shownGroup, no_td, if_neg Bool.false_ne_true, value_pure, reach_pure]
    exact ⟨rfl, by omega⟩
  | @more pos present stop tck td rest ih =>
    have far := rest.start_le
    obtain _ | fuel := fuel
    · omega
    have before := reach_shownGroup m present pos
    obtain ⟨value, reach⟩ := ih (show stop < fuel + (pos + present.before + 1) by omega)
    rw [showGroups, value_bind, reach_bind, value_shownGroup, td, if_pos rfl, value_bind, reach_bind, value_cell, reach_cell]
    exact ⟨value, by omega⟩

/-- An answer that is complete is decoded to the end, inside the length. -/
theorem decoded_inside (enough : len < fuel) (complete : (isComplete fuel len).value m = some true) :
    (decoded fuel).value m ≠ .unfinished ∧ ((decoded fuel).reach m : Int) ≤ len := by
  obtain ⟨-, found, value, complete_iff⟩ := isComplete_spec m enough
  rw [value, Option.some.injEq] at complete
  obtain ⟨n, ⟨stop, tck, groups, rfl⟩, within⟩ := complete_iff.mp complete
  have far := groups.start_le
  obtain ⟨shows, reach⟩ := showGroups_spec groups (show stop < fuel + 2 by omega)
  rw [decoded, value_bind, reach_bind, reach_cell]
  by_cases ts : (cell 0).value m = 0x3b
  · rw [if_neg (not_not.mpr ts)]
    simp only [value_bind, reach_bind, value_cell, reach_cell, shows]
    exact ⟨by simp, by simp; omega⟩
  · rw [if_pos ts]
    exact ⟨by simp, by simp; omega⟩

/-! ## The reads -/

/-- What the walks are to do with octets and a length. -/
structure Recognised (fuel : Nat) (m : Nat → UInt8) (len : Int) : Prop where
  reach : (isComplete fuel len).reach m ≤ len.toNat
  complete : ∃ complete, (isComplete fuel len).value m = some complete ∧
    (complete = true ↔ ∃ n, Announces m n ∧ (n : Int) ≤ len)
  longer : (isComplete fuel len).value m = some true → ∀ m' (len' : Int), len ≤ len' → len' < fuel →
    (∀ i : Nat, (i : Int) < len → m' i = m i) → (isComplete fuel len').value m' = some true
  decodes : (isComplete fuel len).value m = some true →
    (decoded fuel).value m ≠ .unfinished ∧ ((decoded fuel).reach m : Int) ≤ len

theorem recognised (enough : len < fuel) : Recognised fuel m len where
  reach := (isComplete_spec m enough).1
  complete := (isComplete_spec m enough).2
  longer complete _ _ longer enough' agree := isComplete_longer enough' longer agree complete
  decodes complete := decoded_inside enough complete

def Buffer.InRange (buf : Buffer) : Prop := 0 ≤ buf.len ∧ buf.len ≤ 64

/-- One more read. -/
def next (fuel : Nat) (buf : Buffer) (waiting : Option (List UInt8)) : Option Buffer := some (receiveAtr fuel buf waiting).1

theorem receiveAtr_buffer (fuel : Nat) (buf : Buffer) (waiting : Option (List UInt8)) :
    (receiveAtr fuel buf waiting).1 = buf.filled (buf.got waiting) := by
  unfold receiveAtr
  dsimp only
  split <;> rfl

/-- An answer that is all there is either refused for its TS or ready. -/
theorem receiveAtr_cases {buf : Buffer} {waiting : Option (List UInt8)} (enough : (buf.filled (buf.got waiting)).len < fuel) :
    let after := buf.filled (buf.got waiting)
    ((receiveAtr fuel buf waiting).2 = .incomplete ∧ ¬∃ n, Announces after.octets n ∧ (n : Int) ≤ after.len) ∨
      (∃ n, Announces after.octets n ∧ (n : Int) ≤ after.len) ∧
        (receiveAtr fuel buf waiting).2 = if after.octets 0 = 0x3b then .ready else .unexpectedTs := by
  intro after
  obtain ⟨-, complete, value, complete_iff⟩ := isComplete_spec after.octets enough
  unfold receiveAtr
  dsimp only
  rw [value]
  cases complete with
  | false => exact .inl ⟨rfl, fun announced => by simpa using complete_iff.mpr announced⟩
  | true =>
    refine .inr ⟨complete_iff.mp rfl, ?_⟩
    have finished := (decoded_inside enough value).1
    change (decoded fuel).value after.octets = _
    change (decoded fuel).value after.octets ≠ _ at finished
    rw [decoded, value_bind] at finished ⊢
    by_cases ts : (cell 0).value after.octets = 0x3b
    · rw [if_neg (not_not.mpr ts), value_bind, value_bind] at finished ⊢
      rw [if_pos (show after.octets 0 = 0x3b from ts)]
      revert finished
      cases (showGroups fuel (presence ((cell 1).value after.octets)) 2).value after.octets with
      | none => exact fun finished => absurd rfl finished
      | some stop => exact fun _ => rfl
    · rw [if_pos ts, if_neg (show ¬after.octets 0 = 0x3b from ts)]
      rfl

/-- A read keeps the length in its range unless it fails with nothing read before. -/
theorem next_inRange {buf : Buffer} {waiting : Option (List UInt8)} (inside : buf.InRange) :
    (∀ after, next fuel buf waiting = some after → after.InRange) ↔ (buf.len = 0 → waiting ≠ none) := by
  obtain ⟨least, most⟩ := inside
  have after_eq {p : Buffer → Prop} : (∀ after, next fuel buf waiting = some after → p after) ↔ p (buf.filled (buf.got waiting)) := by
    rw [next, receiveAtr_buffer]
    exact ⟨fun all => all _ rfl, fun one _ is => Option.some.inj is ▸ one⟩
  rw [after_eq]
  cases waiting with
  | none =>
    simp only [Buffer.got, Buffer.filled, Option.map_none, Buffer.InRange]
    constructor
    · intro kept zero
      omega
    · intro some_read
      have nonzero : buf.len ≠ 0 := fun zero => some_read zero rfl
      omega
  | some octets =>
    have most_got := List.length_take_le (64 - buf.len).toNat octets
    simp only [Buffer.got, Buffer.filled, Option.map_some, Buffer.InRange]
    refine ⟨fun _ _ => Option.some_ne_none _, fun _ => ?_⟩
    omega

/-- Whatever is in the buffer and however long it is, an answer is recognised; and from read to read
the length stays in its range. -/
structure Sound (fuel : Nat) (start : Buffer) (reads : List (Option (List UInt8))) : Prop where
  recognises : ∀ (m : Nat → UInt8) (len : Int), len < fuel → Recognised fuel m len
  stays : ∀ before, before <+: reads → ∀ buf, Run (next fuel) Any start before buf → buf.InRange

theorem recognises_iff {start : Buffer} (inside : start.InRange) (reads : List (Option (List UInt8))) :
    Sound fuel start reads ↔ Throughout (next fuel) (fun buf waiting => buf.len = 0 → waiting ≠ none) start reads := by
  have run : (∀ before, before <+: reads → ∀ buf, Run (next fuel) Any start before buf → buf.InRange) ↔
      Throughout (next fuel) (fun buf waiting => buf.len = 0 → waiting ≠ none) start reads :=
    good_iff (fun _ => True) Buffer.InRange (fun _ inside => next_inRange inside) (fun _ _ => trivial) reads trivial inside
  constructor
  · intro sound
    exact run.mp sound.stays
  · intro through
    exact ⟨fun _ _ enough => recognised enough, run.mpr through⟩

/-- The buffer when the reset is removed. -/
def cleared : Buffer where
  octets _ := 0
  len := 0

theorem two_reads_are_sound : Sound 65 cleared [some [0x3b, 0x11], none, some [0x11, 0x05]] :=
  (recognises_iff ⟨by decide, by decide⟩ _).mpr (by simp [Throughout, next, receiveAtr_buffer, Buffer.filled, Buffer.got, cleared])

/-- A first read that fails leaves the length at -1. -/
theorem failed_read_is_minus_one : ¬∀ reads, Sound 65 cleared reads := by
  intro claim
  have reached := (claim [none]).stays [none] (List.prefix_refl _) _ (.cons trivial rfl (.nil _))
  rw [receiveAtr_buffer] at reached
  exact absurd reached.1 (by decide)

end Vstuff.Vgsm.Atr
