import Vstuff.Lapd.LinkStep
import Vstuff.Lapd.Footprint

/-! The transmit queue cut at its cursor, and what each operation of the
procedures does to the two parts. -/
namespace Vstuff.Lapd
open Window
set_option linter.all false

/-- The queue is `pre` up to the cursor and `rest` from it on. Buffers have
different addresses, and an address is not used again. -/
structure Cursor (l : Link) (pre rest : List Skb) : Prop where
  queue : l.writeQueue = pre ++ rest
  head : l.sendHead = rest.head?.map Skb.id
  distinct : (l.writeQueue.map Skb.id).Nodup
  fresh : ∀ skb ∈ l.writeQueue, skb.id < l.nextId

section Split
variable {l m : Link} {pre rest : List Skb}

/-- Only the queue, the cursor and the next address matter. -/
theorem Cursor.of_same (cursor : Cursor l pre rest) (queue : m.writeQueue = l.writeQueue)
    (head : m.sendHead = l.sendHead) (next : m.nextId = l.nextId) : Cursor m pre rest := by
  obtain ⟨cut, at_head, distinct, fresh⟩ := cursor
  exact ⟨queue.trans cut, head.trans at_head, by rwa [queue], by rwa [queue, next]⟩

theorem Cursor.nil (queue : l.writeQueue = []) (head : l.sendHead = none) : Cursor l [] [] where
  queue := queue
  head := head
  distinct := by rw [queue]; exact List.nodup_nil
  fresh := by rw [queue]; exact fun _ member => by cases member

/-- The cursor points at none of the buffers ahead of it. -/
theorem Cursor.apart (cursor : Cursor l pre rest) {skb : Skb} (ahead : skb ∈ pre) :
    some skb.id ≠ l.sendHead := by
  have distinct := cursor.distinct
  rw [cursor.queue, List.map_append, List.nodup_append] at distinct
  rw [cursor.head]
  cases rest with
  | nil => simp
  | cons first rest =>
    intro same
    simp only [List.head?_cons, Option.map_some, Option.some.injEq] at same
    exact distinct.2.2 skb.id (List.mem_map_of_mem ahead) first.id (by simp) same

private theorem takeWhile_cut {p : Skb → Bool} {as bs : List Skb} (all : ∀ a ∈ as, p a = true)
    (stop : ∀ b, bs.head? = some b → p b = false) :
    (as ++ bs).takeWhile p = as ∧ (as ++ bs).dropWhile p = bs := by
  have none : bs.takeWhile p = [] ∧ bs.dropWhile p = bs := by
    cases bs with
    | nil => exact ⟨rfl, rfl⟩
    | cons b bs => simp [stop b rfl]
  rw [List.takeWhile_append_of_pos all, List.dropWhile_append_of_pos all, none.1, none.2]
  exact ⟨List.append_nil as, rfl⟩

private theorem dropWhile_before {head : Option Nat} {nR : Seq} {as bs : List Skb}
    (apart : ∀ {a}, a ∈ as → some a.id ≠ head) (stop : ∀ b, bs.head? = some b → some b.id = head) :
    ((as ++ bs).dropWhile fun skb => some skb.id ≠ head ∧ skb.nS ≠ nR) =
      (as.dropWhile fun skb => skb.nS ≠ nR) ++ bs := by
  induction as with
  | nil =>
    cases bs with
    | nil => rfl
    | cons b bs => simp [stop b rfl]
  | cons a as ih =>
    have here : some a.id ≠ head := apart (by simp)
    rw [List.cons_append, List.dropWhile_cons, List.dropWhile_cons]
    by_cases number : a.nS = nR
    · simp [number]
    · have later := ih fun inside => apart (List.mem_cons_of_mem a inside)
      simp only [ne_eq, here, not_false_eq_true, number, and_self, decide_true, if_true]
      exact later

theorem Cursor.preceding_waiting (cursor : Cursor l pre rest) :
    l.preceding = pre ∧ l.waiting = rest := by
  unfold Link.preceding Link.waiting
  rw [cursor.queue]
  refine takeWhile_cut (fun skb ahead => ?_) (fun skb first => ?_)
  · exact decide_eq_true (cursor.apart ahead)
  · rw [cursor.head, first]
    simp

/-- A queue with a live cursor, or none, is cut at it. -/
theorem Cursor.linked (cursor : Cursor l pre rest) :
    l.sendHead = none ∨ ∃ skb ∈ l.writeQueue, l.sendHead = some skb.id := by
  rw [cursor.head, cursor.queue]
  cases rest with
  | nil => exact .inl rfl
  | cons first rest => exact .inr ⟨first, by simp, rfl⟩

theorem Cursor.rest_nil (cursor : Cursor l pre rest) (none : l.sendHead = none) : rest = [] := by
  have head := cursor.head
  rw [none] at head
  cases rest with
  | nil => rfl
  | cons first rest => cases head

/-- The cursor put back to the first buffer. -/
theorem Cursor.rewind (cursor : Cursor l pre rest) (queue : m.writeQueue = l.writeQueue)
    (head : m.sendHead = (l.writeQueue.head?.map Skb.id).or l.sendHead) (next : m.nextId = l.nextId) :
    Cursor m [] l.writeQueue := by
  refine ⟨queue, ?_, by rw [queue]; exact cursor.distinct, by rw [queue, next]; exact cursor.fresh⟩
  rw [head]
  cases queued : l.writeQueue with
  | nil =>
    have empty := cursor.queue
    rw [queued] at empty
    have none : rest = [] := (List.append_eq_nil_iff.mp empty.symm).2
    simp [cursor.head, none]
  | cons first later => rfl

/-! ## Queueing and acknowledging -/

theorem Cursor.enqueued (cursor : Cursor l pre rest) {skb : Skb} (fresh : skb.id = l.nextId) :
    Cursor (l.enqueued skb) pre (rest ++ [skb]) where
  queue := by
    simp only [Link.enqueued]
    rw [cursor.queue, List.append_assoc]
  head := by
    simp only [Link.enqueued]
    rw [cursor.head]
    cases rest <;> rfl
  distinct := by
    simp only [Link.enqueued, List.map_append, List.map_cons, List.map_nil]
    rw [List.nodup_append]
    refine ⟨cursor.distinct, by simp, ?_⟩
    intro id member other single same
    obtain ⟨queued, inside, rfl⟩ := List.mem_map.mp member
    have below := cursor.fresh queued inside
    rw [List.mem_singleton] at single
    omega
  fresh := by
    simp only [Link.enqueued, List.mem_append, List.mem_singleton]
    rintro queued (inside | rfl)
    · have below := cursor.fresh queued inside
      omega
    · omega

/-- The buffers ahead of the cursor that `lapd_ack_frames` leaves. -/
def unacked (vA nR : Seq) (pre : List Skb) : List Skb :=
  if nR = vA then pre else pre.dropWhile fun skb => skb.nS ≠ nR

theorem unacked_suffix (vA nR : Seq) (pre : List Skb) : unacked vA nR pre <:+ pre := by
  unfold unacked
  split
  · exact List.suffix_refl pre
  · exact List.dropWhile_suffix _

/-- An acknowledgement takes buffers off the front, and stops at the cursor at
the latest. -/
theorem Cursor.acked (cursor : Cursor l pre rest) (nR : Seq) :
    Cursor (l.acked nR) (unacked l.vA nR pre) rest := by
  have cut : (l.acked nR).writeQueue = unacked l.vA nR pre ++ rest := by
    simp only [Link.acked, unacked]
    split
    · exact cursor.queue
    · rw [cursor.queue]
      exact dropWhile_before cursor.apart (fun skb first => by rw [cursor.head, first]; simp)
  have suffix := unacked_suffix l.vA nR pre
  refine ⟨cut, cursor.head, ?_, ?_⟩
  · have distinct := cursor.distinct
    rw [cut, List.map_append]
    rw [cursor.queue, List.map_append] at distinct
    exact distinct.sublist ((suffix.map Skb.id).sublist.append (List.Sublist.refl _))
  · intro skb member
    rw [cut] at member
    refine cursor.fresh skb ?_
    rw [cursor.queue]
    obtain early | late := List.mem_append.mp member
    · exact List.mem_append_left _ (suffix.subset early)
    · exact List.mem_append_right _ late

/-- When the buffers ahead of the cursor are numbered from V(A) on, those left
are numbered from N(R) on. -/
theorem unacked_eq_drop {vS vA nR : Seq} (numbered : pre.map Skb.nS = numbers vA (dist vA vS))
    (valid : dist vA nR ≤ dist vA vS) : unacked vA nR pre = pre.drop (dist vA nR) := by
  unfold unacked
  split
  · rename_i same
    rw [same, dist_self, List.drop_zero]
  · conv_lhs => rw [← List.take_append_drop (dist vA nR) pre]
    refine (takeWhile_cut (fun skb early => ?_) (fun skb first => ?_)).2
    · have early : skb.nS ∈ numbers vA (dist vA nR) := by
        have member := List.mem_map_of_mem (f := Skb.nS) early
        rwa [List.map_take, numbered, numbers_take valid] at member
      exact decide_eq_true fun same => not_mem_numbers (same ▸ early)
    · have head : (numbers nR (dist vA vS - dist vA nR)).head? = some skb.nS := by
        rw [← numbers_drop valid, ← numbered, ← List.map_drop, List.head?_map, first]
        rfl
      have number : skb.nS = nR := by
        cases span : dist vA vS - dist vA nR with
        | zero => rw [span] at head; cases head
        | succ m =>
          rw [span, numbers, List.head?_cons, Option.some.injEq] at head
          exact head.symm
      simp [number]

theorem unacked_numbered {vS vA nR : Seq} (numbered : pre.map Skb.nS = numbers vA (dist vA vS))
    (valid : dist vA nR ≤ dist vA vS) :
    (unacked vA nR pre).map Skb.nS = numbers nR (dist nR vS) := by
  rw [unacked_eq_drop numbered valid, List.map_drop, numbered, numbers_drop valid, dist_sub valid]

end Split

/-! ## Running the queue -/

/-- The buffers as one pass of `lapd_run_i_queue` leaves them, numbered from
`v` on. -/
def renumbered (v nR : Seq) : List Skb → List Skb
  | [] => []
  | skb :: rest => { skb with nS := v, nR := nR, transmitted := true } :: renumbered (v + 1) nR rest

@[simp] theorem renumbered_length (v nR : Seq) (now : List Skb) :
    (renumbered v nR now).length = now.length := by
  induction now generalizing v with
  | nil => rfl
  | cons skb rest ih => simp [renumbered, ih]

@[simp] theorem renumbered_nS (v nR : Seq) (now : List Skb) :
    (renumbered v nR now).map Skb.nS = numbers v now.length := by
  induction now generalizing v with
  | nil => rfl
  | cons skb rest ih => simp [renumbered, numbers, ih]

@[simp] theorem renumbered_id (v nR : Seq) (now : List Skb) :
    (renumbered v nR now).map Skb.id = now.map Skb.id := by
  induction now generalizing v with
  | nil => rfl
  | cons skb rest ih => simp [renumbered, ih]

@[simp] theorem renumbered_data (v nR : Seq) (now : List Skb) :
    (renumbered v nR now).map Skb.data = now.map Skb.data := by
  induction now generalizing v with
  | nil => rfl
  | cons skb rest ih => simp [renumbered, ih]

theorem renumbered_transmitted (v nR : Seq) (now : List Skb) :
    ∀ skb ∈ renumbered v nR now, skb.transmitted = true := by
  induction now generalizing v with
  | nil => exact fun _ member => by cases member
  | cons skb rest ih =>
    intro sent member
    obtain rfl | later := List.mem_cons.mp member
    · rfl
    · exact ih _ sent later

/-- The socket after the buffers `now`, which follow `pre`, have been sent. -/
def Sock.sending (s : Sock) (pre now later : List Skb) : Sock :=
  { s with
    writeQueue := pre ++ renumbered s.vS s.vR now ++ later
    sendHead := later.head?.map Skb.id
    vS := advance s.vS now.length
    t200 := s.t200 || !now.isEmpty
    t203 := s.t203 && (now.isEmpty || s.t200)
    out := s.out ++ (renumbered s.vS s.vR now).map fun skb =>
      .phDataRequest (iframeOf s skb) s.assigned }

section Running
variable {s : Sock} {pre rest now later : List Skb}

theorem windowFull_iff (small : s.sap.k < 127) : windowFull s ↔ dist s.vA s.vS = s.sap.k :=
  val_eq_add_mod (by omega)

theorem transmitIframe_fields (s : Sock) (skb : Skb) : (transmitIframe s skb).sap = s.sap ∧
    (transmitIframe s skb).vA = s.vA ∧ (transmitIframe s skb).vS = s.vS + 1 := by
  unfold transmitIframe
  dsimp only
  split <;> exact ⟨rfl, rfl, rfl⟩

/-- Sending one buffer and then others is sending all of them. -/
theorem transmitIframe_sending (sent : List Skb) (skb : Skb) :
    (transmitIframe s { skb with nS := s.vS, nR := s.vR, transmitted := true }).sending
      (sent ++ [{ skb with nS := s.vS, nR := s.vR, transmitted := true }]) now later =
    s.sending sent (skb :: now) later := by
  unfold transmitIframe
  dsimp only
  cases running : s.t200 with
  | true =>
    simp [Sock.sending, renumbered, advance, phDataRequest, running, iframeOf]
  | false =>
    simp [Sock.sending, renumbered, advance, phDataRequest, running, iframeOf, startT200, stopT203]

theorem sendLoop_sending (sent rest : List Skb) (small : s.sap.k < 127)
    (room : dist s.vA s.vS ≤ s.sap.k) :
    ∃ now later, rest = now ++ later ∧ sendLoop s sent rest = s.sending sent now later ∧
      dist s.vA s.vS + now.length ≤ s.sap.k ∧
      (later = [] ∨ dist s.vA s.vS + now.length = s.sap.k) := by
  induction rest generalizing s sent with
  | nil =>
    refine ⟨[], [], rfl, ?_, room, .inl rfl⟩
    simp [sendLoop, Sock.sending, renumbered, advance]
  | cons skb rest ih =>
    unfold sendLoop
    split
    · rename_i full
      rw [windowFull_iff small] at full
      refine ⟨[], skb :: rest, rfl, ?_, room, .inr full⟩
      simp [Sock.sending, renumbered, advance]
    · rename_i open_
      rw [windowFull_iff small] at open_
      have next : dist s.vA (s.vS + 1) = dist s.vA s.vS + 1 := dist_succ (by omega)
      have fields := transmitIframe_fields s { skb with nS := s.vS, nR := s.vR, transmitted := true }
      obtain ⟨now, later, cut, result, fits, stopped⟩ :=
        ih (s := transmitIframe s { skb with nS := s.vS, nR := s.vR, transmitted := true })
          (sent ++ [{ skb with nS := s.vS, nR := s.vR, transmitted := true }])
          (by rw [fields.1]; exact small) (by rw [fields.1, fields.2.1, fields.2.2, next]; omega)
      rw [fields.1, fields.2.1, fields.2.2, next] at fits stopped
      refine ⟨skb :: now, later, by rw [cut, List.cons_append], ?_, ?_, ?_⟩
      · rw [result, transmitIframe_sending]
      · rw [List.length_cons]
        omega
      · refine stopped.imp id fun full => ?_
        rw [List.length_cons]
        omega

theorem sending_none (cursor : Cursor s.toLink pre rest) : s.sending pre [] rest = s := by
  have queue := cursor.queue
  have head := cursor.head
  unfold Sock.sending
  simp only [renumbered, List.append_nil, ← queue, ← head, advance, List.length_nil,
    List.isEmpty_nil, Bool.not_true, Bool.or_false, Bool.true_or, Bool.and_true, List.map_nil]

/-- `lapd_run_i_queue` sends buffers from the cursor on, and in state 7 with a
ready peer stops only at the end of the queue or of the window. -/
theorem runIQueue_sending (cursor : Cursor s.toLink pre rest) (small : s.sap.k < 127)
    (room : dist s.vA s.vS ≤ s.sap.k) :
    ∃ now later, rest = now ++ later ∧ runIQueue s = s.sending pre now later ∧
      dist s.vA s.vS + now.length ≤ s.sap.k ∧
      (s.state = .linkConnectionEstablished → s.peerReceiverBusy = false →
        later = [] ∨ dist s.vA s.vS + now.length = s.sap.k) := by
  have stay (reason : s.state = .linkConnectionEstablished → s.peerReceiverBusy = false →
      rest = [] ∨ dist s.vA s.vS = s.sap.k) :
      ∃ now later, rest = now ++ later ∧ s = s.sending pre now later ∧
        dist s.vA s.vS + now.length ≤ s.sap.k ∧
        (s.state = .linkConnectionEstablished → s.peerReceiverBusy = false →
          later = [] ∨ dist s.vA s.vS + now.length = s.sap.k) :=
    ⟨[], rest, rfl, (sending_none cursor).symm, room, reason⟩
  unfold runIQueue
  split
  · rename_i elsewhere
    exact stay fun here => absurd here elsewhere
  · split
    · rename_i busy
      exact stay fun _ ready => by rw [ready] at busy; cases busy
    · split
      · rename_i nothing
        refine stay fun _ _ => ?_
        rw [windowFull_iff small] at nothing
        exact nothing.imp cursor.rest_nil id
      · rename_i pending
        rw [cursor.preceding_waiting.1, cursor.preceding_waiting.2]
        split
        · -- a live cursor has a buffer to point at
          rename_i gone
          rw [cursor.head, gone] at pending
          exact absurd (.inl rfl) pending
        · obtain ⟨now, later, cut, result, fits, stopped⟩ :=
            sendLoop_sending pre rest small room
          exact ⟨now, later, cut, result, fits, fun _ _ => stopped⟩

/-- The cursor after buffers have been sent. -/
theorem Cursor.sending (cursor : Cursor s.toLink pre (now ++ later)) :
    Cursor (s.sending pre now later).toLink (pre ++ renumbered s.vS s.vR now) later where
  queue := rfl
  head := rfl
  distinct := by
    have distinct := cursor.distinct
    rw [cursor.queue] at distinct
    simpa [Sock.sending] using distinct
  fresh := by
    intro skb member
    have ids : skb.id ∈ s.writeQueue.map Skb.id := by
      rw [cursor.queue]
      have inside := List.mem_map_of_mem (f := Skb.id) member
      simpa [Sock.sending] using inside
    obtain ⟨queued, inside, same⟩ := List.mem_map.mp ids
    rw [← same]
    exact cursor.fresh queued inside

end Running

end Vstuff.Lapd
