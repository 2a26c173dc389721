import Vstuff.Vgsm.Atr
import Vstuff.Vgsm.Mesim
import Mathlib.Data.List.GetD

/-! What goes between an ME and a local SIM (`mesim_local.c`, `mesim.c`) while the reset is removed:
the octets of the ME wait until the answer to reset is there, and then go through, and so do the
octets of the SIM behind the answer. The reset of the SIM, a holder that is removed and the timer that
waits for the answer all end this. -/
namespace Vstuff.Vgsm.LocalRelay
open Transition Atr
set_option linter.all false

/-- What is logged. -/
inductive Log where
  | outputBufferOverflow
  | sending
  | reading
  | atrBufferFull
  | unexpectedTs
  deriving DecidableEq, Repr

/-- `struct vgsm_mesim_local`, and what is not in it: the octets read from both sides and written to
both since the reset was removed, but for the false answer to reset that the ME is given. -/
structure Relay where
  state : LocalState
  out_buf : List UInt8
  atr : Buffer
  fromMe : List UInt8
  toSim : List UInt8
  fromSim : List UInt8
  toMe : List UInt8

/-- The octets that wait to be read, or that `read` fails; and how many octets `write` takes, or that
it fails. -/
inductive Event where
  | me (waiting : List UInt8) (accepted : Option Nat)
  | sim (waiting : Option (List UInt8)) (accepted : Option Nat)

/-- `vgsm_mesim_local_reset_removed`. -/
def resetRemoved : Relay where
  state := .readingAtr
  out_buf := []
  atr := cleared
  fromMe := []
  toSim := []
  fromSim := []
  toMe := []

namespace Relay
variable (s : Relay)

/-- `vgsm_mesim_local_write`; an answer of -1 has been logged. -/
def localWrite (octets : List UInt8) : Option Nat → Relay × List Log × Int
  | none => (s, [.sending], -1)
  | some taken => ({ s with toSim := s.toSim ++ octets.take taken }, [], 0)

/-- `vgsm_mesim_local_send`. -/
def send (octets : List UInt8) (accepted : Option Nat) : Relay × List Log :=
  match s.state with
  | .readingAtr =>
    if s.out_buf.length + octets.length > 64 then (s, [.outputBufferOverflow])
    else ({ s with out_buf := s.out_buf ++ octets }, [])
  | .ready =>
    let (s, logs, _) := s.localWrite octets accepted
    (s, logs)
  | _ => (s, [])

/-- `vgsm_mesim_receive_data`: the interface is ready. -/
def receiveFromMe (waiting : List UInt8) (accepted : Option Nat) : Relay × List Log :=
  let octets := waiting.take 32
  { s with fromMe := s.fromMe ++ octets }.send octets accepted

/-- `vgsm_mesim_local_receive_atr`; the length is at most 64, so that the walks end. -/
def receiveAtr (waiting : Option (List UInt8)) (accepted : Option Nat) : Relay × List Log :=
  let (atr, verdict) := Atr.receiveAtr 65 s.atr waiting
  let s := { s with atr, fromSim := s.fromSim ++ ((s.atr.got waiting).getD []) }
  let logs := (if waiting.isNone then [.reading] else []) ++ if atr.len = 64 then [.atrBufferFull] else []
  match verdict with
  | .unfinished | .incomplete => (s, logs)
  | .unexpectedTs => (s, logs ++ [.unexpectedTs])
  | .ready =>
    let s := { s with state := .ready }
    if s.out_buf = [] then (s, logs)
    else
      let (s, more, err) := s.localWrite s.out_buf accepted
      if err < 0 then (s, logs ++ more) else ({ s with out_buf := [] }, logs ++ more)

/-- `vgsm_mesim_local_receive_data`. Nothing is said of what `vgsm_mesim_write` answers, and nothing
done about it. -/
def receiveData (waiting : Option (List UInt8)) (accepted : Option Nat) : Relay × List Log :=
  match waiting with
  | none => (s, [.reading])
  | some waiting =>
    let octets := waiting.take 128
    ({ s with fromSim := s.fromSim ++ octets, toMe := s.toMe ++ octets.take (accepted.getD 0) }, [])

/-- A read from either side. -/
def receive : Event → Relay × List Log
  | .me waiting accepted => s.receiveFromMe waiting accepted
  | .sim waiting accepted =>
    match s.state with
    | .readingAtr => s.receiveAtr waiting accepted
    | .ready => s.receiveData waiting accepted
    | _ => (s, [])

end Relay

/-- One more read, unless it ends with something logged. -/
def next (s : Relay) (e : Event) : Option Relay :=
  match s.receive e with
  | (t, []) => some t
  | (_, _ :: _) => none

/-- The answer to reset is all there, and it has so many octets. -/
def Complete (octets : List UInt8) (n : Nat) : Prop := Announces (fun i => octets.getD i 0) n ∧ n ≤ octets.length

/-- What the SIM has been given is a beginning of what has come from the ME: nothing before the answer
to reset is complete, and all from then on, when the ME has what came behind the answer. -/
structure Relays (s : Relay) : Prop where
  order : s.toSim <+: s.fromMe
  before : (¬∃ n, Complete s.fromSim n) → s.toSim = [] ∧ s.toMe = []
  all : ∀ n, Complete s.fromSim n → s.toSim = s.fromMe ∧ s.toMe = s.fromSim.drop n

/-- A read of which nothing is logged loses nothing: `write` takes what it is given, and behind the
answer to reset nothing comes with the read that completes it. -/
def Lossless (s : Relay) (e : Event) : Prop :=
  (s.receive e).2 = [] →
    match e with
    | .me waiting accepted => s.state = .ready → (waiting.take 32).length ≤ accepted.getD 0
    | .sim waiting accepted =>
      (s.state = .ready → ((waiting.getD []).take 128).length ≤ accepted.getD 0) ∧
        (s.state = .readingAtr → ∀ n, Complete (s.fromSim ++ (s.atr.got waiting).getD []) n →
          (s.fromSim ++ (s.atr.got waiting).getD []).length ≤ n ∧ s.out_buf.length ≤ accepted.getD 0)

/-! ## The answer to reset -/

variable {s t : Relay} {e : Event} {octets more : List UInt8} {n : Nat}

theorem Complete.append (complete : Complete octets n) (more : List UInt8) : Complete (octets ++ more) n := by
  obtain ⟨announced, within⟩ := complete
  refine ⟨announced.local fun i below => ?_, by rw [List.length_append]; omega⟩
  exact List.getD_append _ _ _ _ (by omega)

theorem Complete.unique {n' : Nat} (one : Complete octets n) (other : Complete octets n') : n' = n := one.1.unique other.1

/-- The buffer has the octets of the SIM. -/
structure Holds (buf : Buffer) (octets : List UInt8) : Prop where
  len : buf.len = octets.length
  octets : ∀ i < octets.length, buf.octets i = octets.getD i 0

theorem Holds.complete_iff {buf : Buffer} (holds : Holds buf octets) :
    (∃ n, Announces buf.octets n ∧ (n : Int) ≤ buf.len) ↔ ∃ n, Complete octets n := by
  rw [holds.len]
  constructor
  · rintro ⟨n, announced, within⟩
    exact ⟨n, announced.local fun i below => (holds.octets i (by omega)).symm, by omega⟩
  · rintro ⟨n, announced, within⟩
    exact ⟨n, announced.local fun i below => holds.octets i (by omega), by omega⟩

theorem Holds.filled {buf : Buffer} (holds : Holds buf octets) (more : List UInt8) :
    Holds (buf.filled (some more)) (octets ++ more) where
  len := by simp [Buffer.filled, holds.len]
  octets i inside := by
    simp only [Buffer.filled, holds.len]
    by_cases old : i < octets.length
    · rw [if_pos (by omega), holds.octets i old, List.getD_append _ _ _ _ old]
    · rw [List.length_append] at inside
      rw [if_neg (by omega), List.getD_append_right _ _ _ _ (by omega)]
      have place : ((i : Int) - octets.length).toNat = i - octets.length := by omega
      have there : i - octets.length < more.length := by omega
      rw [place, List.getD_eq_getElem _ _ there, List.getD_eq_getElem _ _ there]

/-- While the answer to reset is awaited, the octets of the ME wait; afterwards there is an answer. -/
def Inv (s : Relay) : Prop :=
  match s.state with
  | .readingAtr => s.out_buf = s.fromMe ∧ s.toSim = [] ∧ s.toMe = [] ∧ Holds s.atr s.fromSim ∧ s.fromSim.length < 64 ∧
      ¬∃ n, Complete s.fromSim n
  | .ready => ∃ n, Complete s.fromSim n
  | _ => False

/-! ## One read -/

/-- A step, written out: it logs nothing. -/
theorem next_eq_some : next s e = some t ↔ s.receive e = (t, []) := by
  unfold next
  split
  · next other eq =>
    rw [eq]
    simp
  · next eq =>
    rw [eq]
    simp

/-- The octets of the ME that come before there is an answer wait. -/
theorem receive_me_waiting (waits : s.state = .readingAtr) (waiting : List UInt8) (accepted : Option Nat) :
    (s.receive (.me waiting accepted)).2 ≠ [] ∨
      s.receive (.me waiting accepted) =
        ({ s with fromMe := s.fromMe ++ waiting.take 32, out_buf := s.out_buf ++ waiting.take 32 }, []) := by
  simp only [Relay.receive, Relay.receiveFromMe, Relay.send, waits]
  split
  · exact .inl (by simp)
  · exact .inr rfl

/-- The others go through. -/
theorem receive_me_ready (ready : s.state = .ready) (waiting : List UInt8) (accepted : Option Nat) :
    (s.receive (.me waiting accepted)).2 ≠ [] ∨
      s.receive (.me waiting accepted) =
        ({ s with fromMe := s.fromMe ++ waiting.take 32, toSim := s.toSim ++ (waiting.take 32).take (accepted.getD 0) }, []) := by
  simp only [Relay.receive, Relay.receiveFromMe, Relay.send, ready]
  cases accepted with
  | none => exact .inl (by simp [Relay.localWrite])
  | some taken => exact .inr rfl

theorem receive_sim_ready (ready : s.state = .ready) (waiting : Option (List UInt8)) (accepted : Option Nat) :
    (s.receive (.sim waiting accepted)).2 ≠ [] ∨
      ∃ octets, waiting = some octets ∧ s.receive (.sim waiting accepted) =
        ({ s with fromSim := s.fromSim ++ octets.take 128, toMe := s.toMe ++ (octets.take 128).take (accepted.getD 0) }, []) := by
  simp only [Relay.receive, ready]
  cases waiting with
  | none => exact .inl (by simp [Relay.receiveData])
  | some octets => exact .inr ⟨octets, rfl, by simp [Relay.receiveData, ready]⟩

theorem receiveAtr_logs (waiting : Option (List UInt8)) (accepted : Option Nat) :
    ∃ more, (s.receiveAtr waiting accepted).2 =
      ((if waiting.isNone then [.reading] else []) ++
        if (s.atr.filled (s.atr.got waiting)).len = 64 then [.atrBufferFull] else []) ++ more := by
  rw [← receiveAtr_buffer 65]
  unfold Relay.receiveAtr
  dsimp only
  generalize ((if waiting.isNone then [Log.reading] else []) ++
    if (Atr.receiveAtr 65 s.atr waiting).1.len = 64 then [Log.atrBufferFull] else []) = logs
  split
  · exact ⟨[], (List.append_nil _).symm⟩
  · exact ⟨[], (List.append_nil _).symm⟩
  · exact ⟨_, rfl⟩
  · split
    · exact ⟨[], (List.append_nil _).symm⟩
    · split
      · exact ⟨_, rfl⟩
      · exact ⟨_, rfl⟩

/-- A read of the answer to reset: there is more to come, or it is complete and what waited goes to
the SIM. -/
theorem receive_sim_waiting (waits : s.state = .readingAtr) (holds : Holds s.atr s.fromSim) (room : s.fromSim.length < 64)
    (waiting : Option (List UInt8)) (accepted : Option Nat) :
    (s.receive (.sim waiting accepted)).2 ≠ [] ∨
      ∃ got, s.atr.got waiting = some got ∧ (s.fromSim ++ got).length < 64 ∧ Holds (s.atr.filled (some got)) (s.fromSim ++ got) ∧
        ((¬∃ n, Complete (s.fromSim ++ got) n) ∧ s.receive (.sim waiting accepted) =
            ({ s with atr := s.atr.filled (some got), fromSim := s.fromSim ++ got }, []) ∨
          (∃ n, Complete (s.fromSim ++ got) n) ∧ s.receive (.sim waiting accepted) =
            ({ s with
                atr := s.atr.filled (some got)
                fromSim := s.fromSim ++ got
                state := .ready
                toSim := s.toSim ++ s.out_buf.take (accepted.getD 0)
                out_buf := [] }, [])) := by
  have receive_eq : s.receive (.sim waiting accepted) = s.receiveAtr waiting accepted := by
    simp only [Relay.receive, waits]
  rw [receive_eq]
  obtain ⟨more, logs⟩ := receiveAtr_logs (s := s) waiting accepted
  by_cases silent : (s.receiveAtr waiting accepted).2 = []
  · right
    have quiet := silent
    rw [logs, List.append_eq_nil_iff, List.append_eq_nil_iff] at silent
    obtain ⟨⟨reads, below⟩, rfl⟩ := silent
    obtain _ | octets := waiting
    · simp at reads
    let got := octets.take (64 - s.atr.len).toNat
    have held : Holds (s.atr.filled (some got)) (s.fromSim ++ got) := holds.filled got
    have not_full : (s.atr.filled (some got)).len ≠ 64 := by
      intro full
      rw [show s.atr.got (some octets) = some got from rfl, if_pos full] at below
      cases below
    have inside : (s.fromSim ++ got).length < 64 := by
      have most : got.length ≤ (64 - s.atr.len).toNat := List.length_take_le _ _
      have start := holds.len
      have len := held.len
      rw [List.length_append] at len ⊢
      omega
    have buffer := receiveAtr_buffer 65 s.atr (some octets)
    have enough : (s.atr.filled (s.atr.got (some octets))).len < (65 : Nat) := by
      rw [show s.atr.got (some octets) = some got from rfl, held.len]
      omega
    have verdicts := receiveAtr_cases enough
    refine ⟨got, rfl, inside, held, ?_⟩
    obtain ⟨incomplete, none_yet⟩ | ⟨complete, verdict⟩ := verdicts
    · refine .inl ⟨fun complete => none_yet (held.complete_iff.mpr complete), ?_⟩
      have pair : Atr.receiveAtr 65 s.atr (some octets) = (s.atr.filled (some got), .incomplete) := Prod.ext buffer incomplete
      simp only [Relay.receiveAtr, pair, if_neg not_full]
      rfl
    · refine .inr ⟨held.complete_iff.mp complete, ?_⟩
      by_cases ts : (s.atr.filled (some got)).octets 0 = 0x3b
      · rw [if_pos (show (s.atr.filled (s.atr.got (some octets))).octets 0 = 0x3b from ts)] at verdict
        have pair : Atr.receiveAtr 65 s.atr (some octets) = (s.atr.filled (some got), .ready) := Prod.ext buffer verdict
        by_cases nothing : s.out_buf = []
        · simp only [Relay.receiveAtr, pair, if_neg not_full, nothing, List.take_nil, List.append_nil]
          rfl
        · simp only [Relay.receiveAtr, pair, if_neg not_full, if_neg nothing] at quiet ⊢
          cases accepted with
          | none => simp [Relay.localWrite] at quiet
          | some taken => rfl
      · rw [if_neg (show ¬(s.atr.filled (s.atr.got (some octets))).octets 0 = 0x3b from ts)] at verdict
        have pair : Atr.receiveAtr 65 s.atr (some octets) = (s.atr.filled (some got), .unexpectedTs) := Prod.ext buffer verdict
        simp [Relay.receiveAtr, pair] at quiet
  · exact .inl silent

/-! ## The relay -/

theorem next_inv (inv : Inv s) (took : next s e = some t) : Inv t := by
  rw [next_eq_some] at took
  have quiet : (s.receive e).2 = [] := by rw [took]
  cases state : s.state with
  | readingAtr =>
    simp only [Inv, state] at inv
    obtain ⟨waiting_out, none_sim, none_me, holds, room, none_yet⟩ := inv
    cases e with
    | me waiting accepted =>
      rw [(receive_me_waiting state waiting accepted).resolve_left (not_not.mpr quiet)] at took
      cases took
      simp only [Inv, state]
      exact ⟨by rw [waiting_out], none_sim, none_me, holds, room, none_yet⟩
    | sim waiting accepted =>
      obtain ⟨got, -, inside, held, ⟨none_still, eq⟩ | ⟨complete, eq⟩⟩ :=
        (receive_sim_waiting state holds room waiting accepted).resolve_left (not_not.mpr quiet)
      · rw [eq] at took
        cases took
        simp only [Inv, state]
        exact ⟨waiting_out, none_sim, none_me, held, inside, none_still⟩
      · rw [eq] at took
        cases took
        exact complete
  | ready =>
    simp only [Inv, state] at inv
    cases e with
    | me waiting accepted =>
      rw [(receive_me_ready state waiting accepted).resolve_left (not_not.mpr quiet)] at took
      cases took
      simp only [Inv, state]
      exact inv
    | sim waiting accepted =>
      obtain ⟨octets, -, eq⟩ := (receive_sim_ready state waiting accepted).resolve_left (not_not.mpr quiet)
      rw [eq] at took
      cases took
      obtain ⟨n, complete⟩ := inv
      simp only [Inv, state]
      exact ⟨n, complete.append _⟩
  | _ => simp [Inv, state] at inv

theorem take_eq_iff {k : Nat} : octets.take k = octets ↔ octets.length ≤ k := by
  constructor
  · intro whole
    have lengths := congrArg List.length whole
    rw [List.length_take] at lengths
    omega
  · exact List.take_of_length_le

theorem Relays.of_waiting (none_sim : s.toSim = []) (none_me : s.toMe = []) (none_yet : ¬∃ n, Complete s.fromSim n) : Relays s where
  order := none_sim ▸ List.nil_prefix
  before _ := ⟨none_sim, none_me⟩
  all n complete := absurd ⟨n, complete⟩ none_yet

/-- Once there is an answer it is about two streams only. -/
theorem relays_iff (complete : Complete s.fromSim n) :
    Relays s ↔ s.toSim = s.fromMe ∧ s.toMe = s.fromSim.drop n := by
  constructor
  · exact fun relays => relays.all n complete
  · rintro ⟨all_sim, all_me⟩
    refine ⟨all_sim ▸ List.prefix_refl _, fun none_yet => absurd ⟨n, complete⟩ none_yet, fun n' complete' => ?_⟩
    rw [complete.unique complete']
    exact ⟨all_sim, all_me⟩

/-- A read keeps the relay right if it loses nothing, and no other does. -/
theorem next_relays_iff (inv : Inv s) (relays : Relays s) : (∀ t, next s e = some t → Relays t) ↔ Lossless s e := by
  by_cases quiet : (s.receive e).2 = []
  swap
  · refine iff_of_true (fun t took => ?_) fun silent => absurd silent quiet
    rw [next_eq_some] at took
    exact absurd (by rw [took]) quiet
  have after {u : Relay} (eq : s.receive e = (u, [])) : (∀ t, next s e = some t → Relays t) ↔ Relays u := by
    simp only [next_eq_some, eq, Prod.mk.injEq, and_true]
    exact ⟨fun all => all u rfl, fun one t same => same ▸ one⟩
  have asked {p : Prop} : ((s.receive e).2 = [] → p) ↔ p := ⟨fun given => given quiet, fun held _ => held⟩
  unfold Lossless
  rw [asked]
  cases state : s.state with
  | readingAtr =>
    simp only [Inv, state] at inv
    obtain ⟨waiting_out, none_sim, none_me, holds, room, none_yet⟩ := inv
    cases e with
    | me waiting accepted =>
      rw [after ((receive_me_waiting state waiting accepted).resolve_left (not_not.mpr quiet))]
      exact iff_of_true (.of_waiting none_sim none_me none_yet) (by simp)
    | sim waiting accepted =>
      obtain ⟨got, got_eq, inside, held, ⟨none_still, eq⟩ | ⟨⟨n, complete⟩, eq⟩⟩ :=
        (receive_sim_waiting state holds room waiting accepted).resolve_left (not_not.mpr quiet)
      · simp only [after eq, got_eq, reduceCtorEq, IsEmpty.forall_iff, true_and, forall_const, Option.getD_some]
        exact iff_of_true (.of_waiting none_sim none_me none_still) fun n complete => absurd ⟨n, complete⟩ none_still
      · simp only [after eq, got_eq, reduceCtorEq, IsEmpty.forall_iff, true_and, forall_const, Option.getD_some]
        refine (relays_iff complete).trans ?_
        dsimp only
        rw [none_sim, none_me, List.nil_append, waiting_out, take_eq_iff, eq_comm, List.drop_eq_nil_iff, and_comm]
        constructor
        · rintro held n' complete'
          rw [complete.unique complete']
          exact held
        · exact fun all => all n complete
  | ready =>
    simp only [Inv, state] at inv
    obtain ⟨n, complete⟩ := inv
    obtain ⟨all_sim, all_me⟩ := relays.all n complete
    cases e with
    | me waiting accepted =>
      rw [after ((receive_me_ready state waiting accepted).resolve_left (not_not.mpr quiet))]
      simp only [forall_const]
      refine Iff.trans (relays_iff (n := n) ?_) ?_
      · exact complete
      dsimp only
      rw [all_sim, List.append_cancel_left_eq, take_eq_iff]
      exact and_iff_left all_me
    | sim waiting accepted =>
      obtain ⟨octets, rfl, eq⟩ := (receive_sim_ready state waiting accepted).resolve_left (not_not.mpr quiet)
      simp only [after eq, reduceCtorEq, IsEmpty.forall_iff, and_true, forall_const, Option.getD_some]
      refine (relays_iff (complete.append _)).trans ?_
      dsimp only
      rw [all_me, List.drop_append_of_le_length complete.2, List.append_cancel_left_eq, take_eq_iff]
      exact and_iff_right all_sim
  | _ => simp [Inv, state] at inv

theorem resetRemoved_inv : Inv resetRemoved := by
  refine ⟨rfl, rfl, rfl, ⟨rfl, fun i inside => absurd inside (Nat.not_lt_zero i)⟩, by decide, ?_⟩
  rintro ⟨n, ⟨stop, tck, groups, rfl⟩, within⟩
  have far := groups.start_le
  have none_there : stop ≤ 0 := by
    simp only [resetRemoved, List.length_nil] at within
    omega
  omega

/-- From the moment the reset is removed up to one of which something is logged, the relay is right
as long as the reads lose nothing. -/
theorem relays_run_iff (es : List Event) :
    (∀ before, before <+: es → ∀ s, Run next Any resetRemoved before s → Relays s) ↔ Throughout next Lossless resetRemoved es := by
  have none_yet : ¬∃ n, Complete resetRemoved.fromSim n := resetRemoved_inv.2.2.2.2.2
  exact good_iff Inv Relays (fun inv relays => next_relays_iff inv relays) (fun inv took => next_inv inv took) es resetRemoved_inv
    (.of_waiting rfl rfl none_yet)

/-- An answer to reset of two octets. -/
theorem complete_two (more : List UInt8) : Complete (0x3b :: 0x00 :: more) 2 :=
  ⟨⟨2, false, show Groups _ 2 (presence 0) (2 + (presence 0).before) false from .last rfl, rfl⟩, by simp⟩

/-- An octet of the ME that comes before the answer to reset. -/
def exchange : List Event := [.me [0xa0] none, .sim (some [0x3b, 0x00]) (some 1)]

theorem exchange_is_right : ∀ before, before <+: exchange → ∀ s, Run next Any resetRemoved before s → Relays s := by
  refine (relays_run_iff exchange).mpr ⟨fun _ => by simp [resetRemoved], fun _ => ?_, trivial⟩
  refine ⟨by simp [resetRemoved], fun _ n complete => ?_⟩
  rw [(complete_two []).unique complete]
  exact ⟨le_refl _, le_refl _⟩

/-- An answer to reset, and with it one octet more. -/
theorem octet_behind_answer_is_lost : ¬∀ (es before : List Event), before <+: es → ∀ s, Run next Any resetRemoved before s → Relays s := by
  intro claim
  let read : Event := .sim (some [0x3b, 0x00, 0x90]) none
  have took : next resetRemoved read = some { resetRemoved with
      state := .ready
      atr := cleared.filled (some [0x3b, 0x00, 0x90])
      fromSim := [0x3b, 0x00, 0x90] } := rfl
  have relays := claim [read] [read] (List.prefix_refl _) _ (.cons trivial took (.nil _))
  exact absurd (relays.all 2 (complete_two [0x90])).2 (by simp [resetRemoved])

end Vstuff.Vgsm.LocalRelay
