import Vstuff.Kstreamer.Multicast

/-! How a connection of libkstreamer notices that a notice of the kernel was lost: it
counts the numbers of the notices along, where 0 stands for not knowing the next. -/
namespace Vstuff.Libkstreamer
open Kstreamer (NetlinkState NetlinkEvent Follows)
open Transition
set_option linter.all false

inductive TopologyState where
  | null | syncing | synched | invalid
  deriving Repr, DecidableEq

/-- What `ks_conn_receive_multicast` uses of a struct ks_conn. -/
structure Topology where
  multicast_seqnum : Nat := 0
  topology_state : TopologyState := .null
  deriving Repr, DecidableEq

/-- `ks_conn_receive_multicast`, and whether it has marked the topology. -/
def receiveMulticast (conn : Topology) (nlmsg_seq : Nat) : Topology × Bool :=
  if conn.multicast_seqnum = 0 then ({ conn with multicast_seqnum := (nlmsg_seq + 1) % 2 ^ 32 }, false)
  else if conn.multicast_seqnum ≠ nlmsg_seq then ({ multicast_seqnum := 0, topology_state := .invalid }, true)
  else ({ conn with multicast_seqnum := (conn.multicast_seqnum + 1) % 2 ^ 32 }, false)

/-- What becomes of the notices on their way to a client, and what the client does
meanwhile. -/
inductive Heard where
  | told (number : Nat)
  | lost (number : Nat)
  /-- `ks_update_topology` sets the state. -/
  | turns (state : TopologyState)
  deriving Repr, DecidableEq

/-- The number that the kernel gave the notice. -/
def Heard.number : Heard → Option Nat
  | .told number => some number
  | .lost number => some number
  | .turns _ => none

/-- A connection, with the notice it has received last and how many were lost since. -/
structure Watch where
  conn : Topology := {}
  last : Option Nat := none
  missed : Nat := 0
  deriving Repr, DecidableEq

namespace Watch

def listen (w : Watch) : Heard → Option Watch
  | .told number => some ⟨(receiveMulticast w.conn (number % 2 ^ 32)).1, some number, 0⟩
  | .lost _ => some { w with missed := w.missed + 1 }
  | .turns state => some { w with conn := { w.conn with topology_state := state } }

/-- The topology is marked if a notice was lost since the last one, and only then. -/
def Detects (w : Watch) : Heard → Prop
  | .told number => (receiveMulticast w.conn (number % 2 ^ 32)).2 = true ↔ w.last.isSome ∧ 0 < w.missed
  | _ => True

/-- A notice that follows the last one was written at the first attempt, unless the
client does not know what to expect; if others were lost, it knows, and they took no
multiple of 2^32 numbers. -/
def Countable (w : Watch) : Heard → Prop
  | .told number => ∀ last ∈ w.last,
      if w.missed = 0 then w.conn.multicast_seqnum = 0 ∨ number = last + 1
      else w.conn.multicast_seqnum ≠ 0 ∧ (number - (last + 1)) % 2 ^ 32 ≠ 0
  | _ => True

instance (w : Watch) (heard : Heard) : Decidable (w.Countable heard) := by
  cases heard <;> unfold Countable <;> infer_instance

variable {w v : Watch} {heard : List Heard} {before : Option Nat}

/-- What the client expects, where `before` is the notice that the kernel sent last. -/
structure Expects (w : Watch) (before : Option Nat) : Prop where
  unknown : w.last = none → w.conn.multicast_seqnum = 0
  counts : ∀ last ∈ w.last, w.conn.multicast_seqnum = 0 ∨ w.conn.multicast_seqnum = (last + 1) % 2 ^ 32
  behind : ∀ last ∈ w.last, ∃ number ∈ before, if w.missed = 0 then number = last else last < number

theorem marks_iff (conn : Topology) (nlmsg_seq : Nat) : (receiveMulticast conn nlmsg_seq).2 = true ↔
    conn.multicast_seqnum ≠ 0 ∧ conn.multicast_seqnum ≠ nlmsg_seq := by
  unfold receiveMulticast
  split
  · rename_i unknown
    simp [unknown]
  · split
    · rename_i known other
      exact iff_of_true rfl ⟨known, other⟩
    · rename_i known same
      simp [not_not.mp same]

theorem expects_told (number : Nat) (conn : Topology) :
    (receiveMulticast conn (number % 2 ^ 32)).1.multicast_seqnum = 0 ∨
      (receiveMulticast conn (number % 2 ^ 32)).1.multicast_seqnum = (number + 1) % 2 ^ 32 := by
  unfold receiveMulticast
  split
  · right
    dsimp only
    omega
  · split
    · exact .inl rfl
    · rename_i known same
      right
      dsimp only
      omega

/-- The numbers tell whether a notice was lost since the last one exactly if the notice
can be counted. -/
theorem detects_iff {number : Nat} (expects : w.Expects before) (follows : ∀ sent ∈ before, Kstreamer.Follows sent number) :
    w.Detects (.told number) ↔ w.Countable (.told number) := by
  unfold Detects Countable
  dsimp only
  rw [marks_iff]
  cases last : w.last with
  | none =>
    have unknown := expects.unknown last
    simp [unknown]
  | some p =>
    obtain ⟨sent, there, behind⟩ := expects.behind p last
    have follows := follows sent there
    have counts := expects.counts p last
    unfold Kstreamer.Follows at follows
    simp only [Option.isSome_some, true_and, Option.mem_some_iff, forall_eq']
    split
    · rename_i none
      rw [if_pos none] at behind
      constructor
      · intro marks
        by_cases unknown : w.conn.multicast_seqnum = 0
        · exact .inl unknown
        · right
          by_contra retried
          have marked := marks.mp ⟨unknown, by omega⟩
          omega
      · intro countable
        constructor
        · intro marked
          omega
        · intro missed
          omega
    · rename_i some
      rw [if_neg some] at behind
      constructor
      · intro marks
        have marked := marks.mpr (by omega)
        exact ⟨marked.1, by omega⟩
      · intro countable
        constructor
        · intro _
          omega
        · intro _
          exact ⟨countable.1, by omega⟩

theorem Expects.listen {e : Heard} (expects : w.Expects before)
    (follows : ∀ sent ∈ before, ∀ number ∈ e.number, Kstreamer.Follows sent number) (took : w.listen e = some v) :
    v.Expects (e.number.or before) := by
  cases e with
  | told number =>
    cases took
    constructor
    · intro none
      cases none
    · intro last here
      cases here
      exact expects_told number w.conn
    · intro last here
      cases here
      exact ⟨number, rfl, rfl⟩
  | lost number =>
    cases took
    constructor
    · exact expects.unknown
    · exact expects.counts
    · intro last here
      obtain ⟨sent, there, behind⟩ := expects.behind last here
      have follows := follows sent there number rfl
      unfold Kstreamer.Follows at follows
      refine ⟨number, rfl, ?_⟩
      rw [if_neg (Nat.succ_ne_zero _)]
      split at behind <;> omega
  | turns state =>
    cases took
    exact ⟨expects.unknown, expects.counts, expects.behind⟩

theorem detects_run_iff (expects : w.Expects before)
    (chain : (before.toList ++ heard.filterMap Heard.number).IsChain Kstreamer.Follows) :
    Run listen Detects w heard v ↔ Run listen Countable w heard v := by
  induction heard generalizing w before with
  | nil =>
    constructor
    · intro run
      cases run
      exact .nil _
    · intro run
      cases run
      exact .nil _
  | cons e heard ih =>
    have follows : ∀ sent ∈ before, ∀ number ∈ e.number, Kstreamer.Follows sent number := by
      intro sent there number here
      rw [there, List.filterMap_cons_some here] at chain
      exact (List.isChain_cons_cons.mp chain).1
    have rest : ((e.number.or before).toList ++ heard.filterMap Heard.number).IsChain Kstreamer.Follows := by
      cases here : e.number with
      | none =>
        rw [List.filterMap_cons_none here] at chain
        exact chain
      | some number =>
        rw [List.filterMap_cons_some here] at chain
        exact chain.right_of_append
    have same : w.Detects e ↔ w.Countable e := by
      cases e with
      | told number => exact detects_iff expects fun sent there => follows sent there number rfl
      | lost number => exact Iff.rfl
      | turns state => exact Iff.rfl
    constructor
    · intro run
      cases run with
      | cons met took run => exact .cons (same.mp met) took ((ih (expects.listen follows took) rest).mp run)
    · intro run
      cases run with
      | cons met took run => exact .cons (same.mpr met) took ((ih (expects.listen follows took) rest).mpr run)

end Watch

open Watch

/-- For every run of the kernel, and whatever is lost of what it broadcast: the
topology is marked exactly at the notices that come behind a lost one if and only if
every notice can be counted. -/
theorem losses_are_detected_iff {es : List NetlinkEvent} {state : NetlinkState} {heard : List Heard} {w : Watch}
    (run : Run NetlinkState.step Any {} es state)
    (sent : heard.filterMap Heard.number = state.broadcasts.flatten) :
    Run listen Detects {} heard w ↔ Run listen Countable {} heard w := by
  have expects : ({} : Watch).Expects none := ⟨fun _ => rfl, nofun, nofun⟩
  apply detects_run_iff expects
  rw [sent]
  exact NetlinkState.broadcasts_follow run

/-- Three notices, of which the second is lost. -/
theorem lost_notice_is_detected :
    ∃ w, Run listen Detects {} [.told 0xBEEF, .lost 0xBEF0, .turns .synched, .told 0xBEF1] w := by
  obtain ⟨state, reached, broadcasts⟩ : ∃ state, NetlinkState.step {} (.kernel [true, true, true]) = some state ∧
      state.broadcasts = [[0xBEEF, 0xBEF0, 0xBEF1]] := ⟨_, rfl, rfl⟩
  have run : Run NetlinkState.step Any {} [.kernel [true, true, true]] state := .cons trivial reached (.nil state)
  refine ⟨_, (losses_are_detected_iff run ?_).mpr (follow_run listen Countable {} _ rfl)⟩
  rw [broadcasts]
  rfl

/-- The second notice does not fit into the buffer of the first one, and is written
once more: the client takes it for the one after a lost one. -/
theorem retried_notice_passes_for_a_loss :
    ¬ ∀ es state heard w, Run NetlinkState.step Any {} es state →
      heard.filterMap Heard.number = state.broadcasts.flatten → Run listen Any {} heard w →
      Run listen Detects {} heard w := by
  intro claim
  obtain ⟨state, reached, broadcasts⟩ : ∃ state, NetlinkState.step {} (.kernel [true, false]) = some state ∧
      state.broadcasts = [[0xBEEF], [0xBEF1]] := ⟨_, rfl, rfl⟩
  have run : Run NetlinkState.step Any {} [.kernel [true, false]] state := .cons trivial reached (.nil state)
  have sent : [Heard.told 0xBEEF, .told 0xBEF1].filterMap Heard.number = state.broadcasts.flatten := by
    rw [broadcasts]
    rfl
  have detects := claim _ state _ _ run sent (follow_run listen Any {} _ rfl)
  cases detects with
  | cons _ took rest =>
    cases took
    cases rest with
    | cons met _ _ => exact absurd (met.mp (by decide)).2 (by decide)

end Vstuff.Libkstreamer
