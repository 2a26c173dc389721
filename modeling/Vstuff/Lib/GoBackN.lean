import Mathlib.Data.List.Basic
import Mathlib.Data.List.Infix

/-! Go-back-n over two channels that may lose messages but keep their order.
Everything is counted from the first message on, so that no number is ever used
twice; what a program with a small number space has to know is that the numbers
in flight are close to the ones it compares them with. -/
namespace GoBackN
set_option linter.all false

/-- One direction of a connection: how many messages were acknowledged, sent
since the last return, sent ever, and received; and what is in flight, oldest
first. -/
structure State where
  acked : Nat := 0
  sent : Nat := 0
  high : Nat := 0
  received : Nat := 0
  data : List Nat := []
  acks : List Nat := []

/-- The invariant for a window of `k`, when `total` messages exist. -/
structure Inv (k total : Nat) (g : State) : Prop where
  acked_le_sent : g.acked ≤ g.sent
  sent_le_high : g.sent ≤ g.high
  high_le : g.high ≤ g.acked + k
  high_le_total : g.high ≤ total
  acked_le_received : g.acked ≤ g.received
  received_le_high : g.received ≤ g.high
  data_sent : ∀ i ∈ g.data, i < g.high
  data_near : ∀ i ∈ g.data, g.received ≤ i + k
  data_order : g.data.Pairwise fun earlier later => earlier < later + k
  acks_ge : ∀ r ∈ g.acks, g.acked ≤ r
  acks_le : ∀ r ∈ g.acks, r ≤ g.received
  acks_order : g.acks.Pairwise (· ≤ ·)

variable {k total : Nat} {g : State}

theorem Inv.initial (k total : Nat) : Inv k total {} where
  acked_le_sent := Nat.le_refl 0
  sent_le_high := Nat.le_refl 0
  high_le := Nat.zero_le _
  high_le_total := Nat.zero_le _
  acked_le_received := Nat.le_refl 0
  received_le_high := Nat.le_refl 0
  data_sent := fun _ member => by cases member
  data_near := fun _ member => by cases member
  data_order := .nil
  acks_ge := fun _ member => by cases member
  acks_le := fun _ member => by cases member
  acks_order := .nil

theorem Inv.submit {more : Nat} (held : Inv k total g) (grows : total ≤ more) : Inv k more g :=
  { held with high_le_total := Nat.le_trans held.high_le_total grows }

/-- The sender sends the next message of its window, for the first time or
again. What is ahead of it in the channel was sent from a window that reached
no further. -/
theorem Inv.emitData (held : Inv k total g) (room : g.sent < g.acked + k)
    (available : g.sent < total) :
    Inv k total { g with
      sent := g.sent + 1, high := max g.high (g.sent + 1), data := g.data ++ [g.sent] } where
  acked_le_sent := Nat.le_succ_of_le held.acked_le_sent
  sent_le_high := Nat.le_max_right _ _
  high_le := by
    have := held.high_le
    dsimp only
    omega
  high_le_total := by
    have := held.high_le_total
    dsimp only
    omega
  acked_le_received := held.acked_le_received
  received_le_high := Nat.le_trans held.received_le_high (Nat.le_max_left _ _)
  data_sent := by
    intro i member
    dsimp only
    obtain early | late := List.mem_append.mp member
    · have := held.data_sent i early
      omega
    · have := List.mem_singleton.mp late
      omega
  data_near := by
    intro i member
    obtain early | late := List.mem_append.mp member
    · exact held.data_near i early
    · have := List.mem_singleton.mp late
      have := held.received_le_high
      have := held.high_le
      have := held.acked_le_sent
      dsimp only
      omega
  data_order := by
    refine List.pairwise_append.mpr ⟨held.data_order, List.pairwise_singleton _ _, ?_⟩
    intro earlier early later late
    have := held.data_sent earlier early
    have := held.high_le
    have := held.acked_le_sent
    have := List.mem_singleton.mp late
    omega
  acks_ge := held.acks_ge
  acks_le := held.acks_le
  acks_order := held.acks_order

/-- The sender sends the next `m` messages of its window. -/
theorem Inv.emitRun (held : Inv k total g) (m : Nat) (room : g.sent + m ≤ g.acked + k)
    (available : g.sent + m ≤ total) :
    Inv k total { g with
      sent := g.sent + m, high := max g.high (g.sent + m)
      data := g.data ++ List.range' g.sent m } := by
  induction m generalizing g with
  | zero =>
    have high : max g.high (g.sent + 0) = g.high := Nat.max_eq_left held.sent_le_high
    rw [high]
    simpa using held
  | succ m ih =>
    have next := ih (held.emitData (by omega) (by omega)) (by dsimp only; omega) (by dsimp only; omega)
    have high : max (max g.high (g.sent + 1)) (g.sent + 1 + m) = max g.high (g.sent + (m + 1)) := by
      omega
    have sent : g.sent + 1 + m = g.sent + (m + 1) := by omega
    dsimp only at next
    rw [high, sent, List.append_assoc, List.singleton_append, ← List.range'_succ] at next
    exact next

/-- The sender returns to the first message that is not acknowledged. -/
theorem Inv.goBack (held : Inv k total g) : Inv k total { g with sent := g.acked } :=
  { held with
    acked_le_sent := Nat.le_refl _
    sent_le_high := Nat.le_trans held.acked_le_sent held.sent_le_high }

/-- The receiver takes the message it expects from the front of the channel. -/
theorem Inv.receive {rest : List Nat} (held : Inv k total g) (positive : 1 ≤ k)
    (front : g.data = g.received :: rest) : Inv k total { g with received := g.received + 1 } where
  acked_le_sent := held.acked_le_sent
  sent_le_high := held.sent_le_high
  high_le := held.high_le
  high_le_total := held.high_le_total
  acked_le_received := Nat.le_succ_of_le held.acked_le_received
  received_le_high := held.data_sent g.received (by simp [front])
  data_sent := held.data_sent
  data_near := by
    intro i member
    have order := held.data_order
    rw [front] at order
    change i ∈ g.data at member
    rw [front] at member
    obtain rfl | behind := List.mem_cons.mp member
    · dsimp only
      omega
    · have := List.rel_of_pairwise_cons order behind
      dsimp only
      omega
  data_order := held.data_order
  acks_ge := held.acks_ge
  acks_le := fun r member => Nat.le_succ_of_le (held.acks_le r member)
  acks_order := held.acks_order

/-- The receiver says which message it expects. -/
theorem Inv.emitAck (held : Inv k total g) :
    Inv k total { g with acks := g.acks ++ [g.received] } :=
  { held with
    acks_ge := by
      intro r member
      obtain early | late := List.mem_append.mp member
      · exact held.acks_ge r early
      · rw [List.mem_singleton.mp late]
        exact held.acked_le_received
    acks_le := by
      intro r member
      obtain early | late := List.mem_append.mp member
      · exact held.acks_le r early
      · rw [List.mem_singleton.mp late]
    acks_order := by
      refine List.pairwise_append.mpr ⟨held.acks_order, List.pairwise_singleton _ _, ?_⟩
      intro earlier early later late
      rw [List.mem_singleton.mp late]
      exact held.acks_le earlier early }

/-- The receiver says so `m` times. -/
theorem Inv.emitAcks (held : Inv k total g) (m : Nat) :
    Inv k total { g with acks := g.acks ++ List.replicate m g.received } := by
  induction m generalizing g with
  | zero => simpa using held
  | succ m ih =>
    have next := ih held.emitAck
    simpa [List.replicate_succ] using next

/-- The sender takes an acknowledgement of something it has sent from the front
of the other channel. -/
theorem Inv.acknowledge {r : Nat} {rest : List Nat} (held : Inv k total g)
    (front : g.acks = r :: rest) (valid : r ≤ g.sent) : Inv k total { g with acked := r } :=
  { held with
    acked_le_sent := valid
    high_le := by
      have := held.high_le
      have := held.acks_ge r (by simp [front])
      dsimp only
      omega
    acked_le_received := held.acks_le r (by simp [front])
    acks_ge := by
      intro later member
      have order := held.acks_order
      rw [front] at order
      change later ∈ g.acks at member
      rw [front] at member
      obtain rfl | behind := List.mem_cons.mp member
      · exact Nat.le_refl _
      · exact List.rel_of_pairwise_cons order behind }

/-- Messages are lost, or have been taken. -/
theorem Inv.lose {data acks : List Nat} (held : Inv k total g) (fewer : data.Sublist g.data)
    (fewerAcks : acks.Sublist g.acks) : Inv k total { g with data := data, acks := acks } :=
  { held with
    data_sent := fun i member => held.data_sent i (fewer.subset member)
    data_near := fun i member => held.data_near i (fewer.subset member)
    data_order := held.data_order.sublist fewer
    acks_ge := fun r member => held.acks_ge r (fewerAcks.subset member)
    acks_le := fun r member => held.acks_le r (fewerAcks.subset member)
    acks_order := held.acks_order.sublist fewerAcks }

/-- A message in flight is within a window of the one the receiver expects. -/
theorem Inv.data_close (held : Inv k total g) {i : Nat} (member : i ∈ g.data) :
    g.received ≤ i + k ∧ i < g.received + k := by
  have := held.data_near i member
  have := held.data_sent i member
  have := held.high_le
  have := held.acked_le_received
  omega

/-- An acknowledgement in flight is within a window of the last one taken. -/
theorem Inv.acks_close (held : Inv k total g) {r : Nat} (member : r ∈ g.acks) :
    g.acked ≤ r ∧ r ≤ g.acked + k := by
  have := held.acks_ge r member
  have := held.acks_le r member
  have := held.received_le_high
  have := held.high_le
  omega

end GoBackN
