import Vstuff.Lapd.Queue

/-! The transmit queue over whole runs: where its cursor points, how the frames
ahead of it are numbered, and when frames are left waiting. The queue is
discarded in several places that forget the cursor, and the sequence variables
are reset in two that forget the queue; the results below hold of the runs in
which neither does harm. -/
namespace Vstuff.Lapd
open Transition Window
set_option linter.all false

/-! ## The invariant -/

/-- What every change of the connection keeps, provided the queue is never
discarded with frames still waiting in it. -/
structure Queued (k : Nat) (l : Link) (pre rest : List Skb) : Prop where
  cursor : Cursor l pre rest
  idle : l.state.queues = false → l.writeQueue = []
  window : l.state.connected = true → dist l.vA l.vS ≤ k
  sent : ∀ skb ∈ pre, skb.transmitted = true
  sound : l.fault = false

theorem Queued.empty {k : Nat} {l : Link} {pre rest : List Skb} (held : Queued k l pre rest)
    (off : l.state.queues = false) : l.writeQueue = [] ∧ l.sendHead = none := by
  have empty := held.idle off
  have cut := held.cursor.queue
  have head := held.cursor.head
  rw [empty] at cut
  rw [(List.append_eq_nil_iff.mp cut.symm).2] at head
  exact ⟨empty, head⟩

/-- The frames ahead of the cursor carry V(A), ..., V(S) - 1. -/
def Numbered (l : Link) (pre : List Skb) : Prop :=
  l.state.connected = true → pre.map Skb.nS = numbers l.vA (dist l.vA l.vS)

/-- No frame waits that could be sent. -/
def Unstalled (k : Nat) (l : Link) (rest : List Skb) : Prop :=
  l.state = .linkConnectionEstablished → l.peerReceiverBusy = false →
    rest = [] ∨ dist l.vA l.vS = k

/-- The outcome of a change: the invariant, and the two properties under the
conditions that keep them. -/
structure Carries (k : Nat) (reset mute : Bool) (acks : Option Seq) (l : Link) (pre rest : List Skb)
    (m : Link) (pre' rest' : List Skb) : Prop where
  queued : Queued k m pre' rest'
  numbered : (reset = true → pre = []) → Numbered l pre → Numbered m pre'
  unstalled : (mute = true → rest = []) →
    (∀ nR, acks = some nR → rest = [] ∨ dist nR l.vS = k) →
    Unstalled k l rest → Unstalled k m rest'

section Changes
variable {k : Nat} {l m : Link} {sap : Sap} {pre rest now later : List Skb} {s : Sock}
  {purge reset mute : Bool} {acks : Option Seq}

/-- The queue and its numbers are as they were. -/
private theorem carries_same (held : Queued k l pre rest) (queue : m.writeQueue = l.writeQueue)
    (head : m.sendHead = l.sendHead) (next : m.nextId = l.nextId) (fault : m.fault = l.fault)
    (idle : m.state.queues = false → l.state.queues = false)
    (vars : m.state.connected = true → l.state.connected = true ∧ m.vS = l.vS ∧ m.vA = l.vA)
    (ready : m.state = .linkConnectionEstablished → m.peerReceiverBusy = false →
      l.state = .linkConnectionEstablished ∧ l.peerReceiverBusy = false) :
    Carries k reset mute acks l pre rest m pre rest where
  queued := by
    refine ⟨held.cursor.of_same queue head next, fun off => queue.trans (held.idle (idle off)),
      fun here => ?_, held.sent, fault.trans held.sound⟩
    obtain ⟨was, vS, vA⟩ := vars here
    rw [vS, vA]
    exact held.window was
  numbered := by
    intro _ numbered here
    obtain ⟨was, vS, vA⟩ := vars here
    rw [vS, vA]
    exact numbered was
  unstalled := by
    intro _ _ unstalled here open_
    obtain ⟨was, free⟩ := ready here open_
    obtain ⟨_, vS, vA⟩ := vars (by rw [here]; rfl)
    rw [vS, vA]
    exact unstalled was free

/-- The queue is empty and nothing is outstanding. -/
private theorem carries_empty (queue : m.writeQueue = []) (head : m.sendHead = none)
    (fault : m.fault = false) (vars : m.state.connected = true → m.vS = m.vA) :
    Carries k reset mute acks l pre rest m [] [] where
  queued := {
    cursor := .nil queue head
    idle := fun _ => queue
    window := fun here => by rw [vars here, dist_self]; exact Nat.zero_le k
    sent := fun _ member => by cases member
    sound := fault }
  numbered := by
    intro _ _ here
    rw [vars here, dist_self]
    rfl
  unstalled := fun _ _ _ _ _ => .inl rfl

/-- The queue is run in state 7. Whatever was waiting before, what waits after
waits for the window. -/
private theorem carries_run (pre' rest' : List Skb) (here : s.state = .linkConnectionEstablished)
    (small : s.sap.k < 127) (queued : Queued s.sap.k s.toLink pre' rest')
    (numbered : (reset = true → pre = []) → Numbered l pre → Numbered s.toLink pre') :
    ∃ ahead behind, Carries s.sap.k reset mute acks l pre rest (runIQueue s).toLink ahead behind := by
  have connected : s.state.connected = true := by rw [here]; rfl
  obtain ⟨now, later, rfl, result, fits, stopped⟩ :=
    runIQueue_sending queued.cursor small (queued.window connected)
  have advanced : dist s.vA (advance s.vS now.length) = dist s.vA s.vS + now.length :=
    dist_advance (by omega)
  rw [result]
  refine ⟨pre' ++ renumbered s.vS s.vR now, later, ⟨?_, ?_, ?_⟩⟩
  · refine ⟨queued.cursor.sending, fun off => ?_, fun _ => ?_, fun skb member => ?_, queued.sound⟩
    · change s.state.queues = false at off
      rw [here] at off
      cases off
    · change dist s.vA (advance s.vS now.length) ≤ s.sap.k
      rw [advanced]
      exact fits
    · obtain early | late := List.mem_append.mp member
      · exact queued.sent skb early
      · exact renumbered_transmitted _ _ _ skb late
  · intro clean was _
    change _ = numbers s.vA (dist s.vA (advance s.vS now.length))
    rw [advanced, List.map_append, numbered clean was connected, renumbered_nS,
      numbers_append rfl (by omega)]
  · intro _ _ _ _ ready
    change later = [] ∨ dist s.vA (advance s.vS now.length) = s.sap.k
    rw [advanced]
    exact stopped here ready

/-- The sequence variables are reset under a queue that stays. -/
private theorem queued_reset (held : Queued k l pre rest) (queue : m.writeQueue = l.writeQueue)
    (head : m.sendHead = l.sendHead) (next : m.nextId = l.nextId) (fault : m.fault = l.fault)
    (here : m.state.queues = true) (vars : m.vS = m.vA) : Queued k m pre rest where
  cursor := held.cursor.of_same queue head next
  idle := fun off => by rw [here] at off; cases off
  window := fun _ => by rw [vars, dist_self]; exact Nat.zero_le k
  sent := held.sent
  sound := fault.trans held.sound

private theorem numbered_reset (vars : m.vS = m.vA) (clean : pre = []) : Numbered m pre := by
  intro _
  rw [vars, dist_self, clean]
  rfl

/-- Frames are acknowledged. -/
private theorem queued_acked (held : Queued k l pre rest) (here : l.state.connected = true) {nR : Seq}
    (valid : l.accepts nR) (queue : m.writeQueue = (l.acked nR).writeQueue)
    (head : m.sendHead = l.sendHead) (next : m.nextId = l.nextId) (fault : m.fault = l.fault)
    (stays : m.state.connected = true) (vS : m.vS = l.vS) (vA : m.vA = nR) :
    Queued k m (unacked l.vA nR pre) rest where
  cursor := (held.cursor.acked nR).of_same queue head next
  idle := by
    intro off
    revert stays off
    cases m.state <;> simp [DatalinkState.connected, DatalinkState.queues]
  window := by
    intro _
    have before := held.window here
    have shorter := dist_sub valid
    rw [vS, vA]
    omega
  sent := fun skb member => held.sent skb ((unacked_suffix _ _ _).subset member)
  sound := fault.trans held.sound

private theorem numbered_acked (here : l.state.connected = true) {nR : Seq} (valid : l.accepts nR)
    (vS : m.vS = l.vS) (vA : m.vA = nR) (was : Numbered l pre) :
    Numbered m (unacked l.vA nR pre) := by
  intro _
  rw [vS, vA]
  exact unacked_numbered (was here) valid

/-- Frames are acknowledged in state 7 and the queue is not run. -/
private theorem carries_acked (held : Queued k l pre rest) (here : l.state.connected = true) {nR : Seq}
    (caused : m.state = .linkConnectionEstablished → m.peerReceiverBusy = false → acks = some nR)
    (valid : l.accepts nR) (queue : m.writeQueue = (l.acked nR).writeQueue)
    (head : m.sendHead = l.sendHead) (next : m.nextId = l.nextId) (fault : m.fault = l.fault)
    (stays : m.state.connected = true) (vS : m.vS = l.vS) (vA : m.vA = nR) :
    Carries k reset mute acks l pre rest m (unacked l.vA nR pre) rest where
  queued := queued_acked held here valid queue head next fault stays vS vA
  numbered := fun _ was => numbered_acked here valid vS vA was
  unstalled := by
    intro _ open_ _ connected ready
    rw [vS, vA]
    exact open_ nR (caused connected ready)

private theorem queued_enqueued (held : Queued k l pre rest) {skb : Skb} (fresh : skb.id = l.nextId)
    (here : l.state.queues = true) : Queued k (l.enqueued skb) pre (rest ++ [skb]) where
  cursor := held.cursor.enqueued fresh
  idle := fun off => absurd (off.symm.trans here) (by simp)
  window := held.window
  sent := held.sent
  sound := held.sound

/-- Every change keeps the invariant, unless it discards the queue under a
live cursor. -/
theorem LinkStep.carries (change : LinkStep l sap purge reset mute acks m) (small : sap.k < 127)
    (held : Queued sap.k l pre rest) (clean : purge = true → l.sendHead = none) :
    ∃ pre' rest', Carries sap.k reset mute acks l pre rest m pre' rest' := by
  have emptied (next : Link) (caused : purge = true) (queue : next.writeQueue = [])
      (head : next.sendHead = l.sendHead) (fault : next.fault = l.fault)
      (off : next.state.connected = false) :
      ∃ pre' rest', Carries sap.k reset mute acks l pre rest next pre' rest' :=
    ⟨[], [], carries_empty queue (head.trans (clean caused)) (fault.trans held.sound)
      fun on => absurd (off.symm.trans on) (by simp)⟩
  cases change with
  | idle => exact ⟨pre, rest, carries_same held rfl rfl rfl rfl id (fun on => ⟨on, rfl, rfl⟩)
      fun on ready => ⟨on, ready⟩⟩
  | goto next here there =>
    have off : l.state.queues = false := by
      revert here
      cases l.state <;> simp [DatalinkState.quiet, DatalinkState.queues]
    refine ⟨[], [], carries_empty (held.empty off).1 (held.empty off).2 held.sound fun on => ?_⟩
    change next.connected = true at on
    revert there on
    cases next <;> simp [DatalinkState.quiet, DatalinkState.connected]
  | released next here there =>
    have off : l.state.queues = false := by rw [here]; rfl
    refine ⟨[], [], carries_empty (held.empty off).1 (held.empty off).2 held.sound fun on => ?_⟩
    obtain rfl | rfl := there <;> cases on
  | establish => exact ⟨pre, rest, carries_same held rfl rfl rfl rfl (fun off => by cases off)
      (fun on => by cases on) (fun on => by cases on)⟩
  | purgeRelease next t203 caused here there timer =>
    refine emptied _ caused rfl rfl rfl ?_
    obtain rfl | rfl := there <;> rfl
  | purgeEstablish caused here => exact emptied _ caused rfl rfl rfl rfl
  | purgeDisconnect t203 caused here timer => exact emptied _ caused rfl rfl rfl rfl
  | accept here =>
    have off : l.state.queues = false := by rw [here]; rfl
    exact ⟨[], [], carries_empty (held.empty off).1 (held.empty off).2 held.sound fun _ => rfl⟩
  | reset caused here silent =>
    have stays : l.state.queues = true := by
      revert here
      cases l.state <;> simp [DatalinkState.connected, DatalinkState.queues]
    refine ⟨pre, rest, queued_reset held rfl rfl rfl rfl stays rfl,
      fun none _ => numbered_reset rfl (none caused), fun muted _ _ on _ => ?_⟩
    exact .inl (muted (silent on))
  | connect caused here silent =>
    exact ⟨pre, rest, queued_reset held rfl rfl rfl rfl rfl rfl,
      fun none _ => numbered_reset rfl (none caused), fun muted _ _ _ _ => .inl (muted silent)⟩
  | connectRun s caused here same reached =>
    subst same
    have state : s.state = .linkConnectionEstablished := by rw [reached]
    refine carries_run pre rest state small ?_ ?_
    · rw [reached]
      exact queued_reset held rfl rfl rfl rfl rfl rfl
    · intro none _
      rw [reached]
      exact numbered_reset rfl (none caused)
  | enqueue skb fresh here =>
    have stays : l.state.queues = true := by obtain here | here := here <;> rw [here] <;> rfl
    refine ⟨pre, rest ++ [skb], queued_enqueued held fresh.1 stays, fun _ was => was,
      fun _ _ _ on _ => ?_⟩
    obtain here | here := here <;> exact absurd (here.symm.trans on) (by simp)
  | enqueueRun s skb fresh here same reached =>
    subst same
    have stays : l.state.queues = true := by rw [here]; rfl
    have state : s.state = .linkConnectionEstablished := by rw [reached]; exact here
    refine carries_run pre (rest ++ [skb]) state small ?_ ?_
    · rw [reached]
      exact queued_enqueued held fresh.1 stays
    · intro _ was
      rw [reached]
      exact was
  | ack nR busy valid here =>
    have connected : l.state.connected = true := by
      obtain here | ⟨here, _⟩ := here <;> rw [here] <;> rfl
    refine ⟨_, rest, carries_acked held connected (fun on ready => ?_) valid rfl rfl rfl rfl
      connected rfl rfl⟩
    obtain here | ⟨_, _, rfl⟩ := here
    · exact absurd (here.symm.trans on) (by simp)
    · cases ready
  | ackAll caused here =>
    have connected : l.state.connected = true := by rw [here]; rfl
    exact ⟨_, rest, carries_acked held connected (fun _ _ => caused) (Nat.le_refl _) rfl rfl rfl rfl
      connected rfl rfl⟩
  | ackSome nR caused here valid outstanding moved =>
    have connected : l.state.connected = true := by rw [here]; rfl
    exact ⟨_, rest, carries_acked held connected (fun _ _ => caused) valid rfl rfl rfl rfl
      connected rfl rfl⟩
  | ackNone caused here outstanding =>
    have connected : l.state.connected = true := by rw [here]; rfl
    have unmoved : l.writeQueue = (l.acked l.vA).writeQueue := by simp [Link.acked]
    exact ⟨_, rest, carries_acked held connected (fun _ _ => caused) (by simp [Link.accepts]) unmoved
      rfl rfl rfl connected rfl rfl⟩
  | goBack s nR busy t200 t203 here valid same timers reached =>
    subst same
    rw [invokeRetransmission_eq]
    have state : s.state = .linkConnectionEstablished := by rw [reached]
    have acked : Queued s.sap.k s.toLink (unacked l.vA nR pre) rest := by
      rw [reached]
      exact queued_acked held here valid rfl rfl rfl rfl rfl rfl rfl
    refine carries_run (s := { s with
      sendHead := (s.writeQueue.head?.map Skb.id).or s.sendHead
      vS := s.vA }) [] s.writeQueue state small ?_ ?_
    · exact {
        cursor := acked.cursor.rewind rfl rfl rfl
        idle := acked.idle
        window := fun _ => by simp
        sent := fun _ member => by cases member
        sound := acked.sound }
    · intro _ _
      exact numbered_reset rfl rfl
  | enquire t203 here fired =>
    refine ⟨pre, rest, carries_same held rfl rfl rfl rfl (fun off => by cases off)
      (fun _ => ⟨by rw [here]; rfl, rfl, rfl⟩) (fun on => by cases on)⟩
  | expireT200 fired here => exact ⟨pre, rest, carries_same held rfl rfl rfl rfl id
      (fun on => ⟨on, rfl, rfl⟩) fun on ready => ⟨on, ready⟩⟩
  | expireT203 fired here => exact ⟨pre, rest, carries_same held rfl rfl rfl rfl id
      (fun on => ⟨on, rfl, rfl⟩) fun on ready => ⟨on, ready⟩⟩
  | swapTimers fired => exact ⟨pre, rest, carries_same held rfl rfl rfl rfl id
      (fun on => ⟨on, rfl, rfl⟩) fun on ready => ⟨on, ready⟩⟩

end Changes

/-! ## The queue of a clean run -/

/-- The cursor is `NULL` or points into the queue, and in states 7 and 8 the
frames ahead of it are those between V(A) and V(S), in order, at most k. -/
structure TxQueueOk (s : Sock) : Prop where
  linked : s.sendHead = none ∨ ∃ skb ∈ s.writeQueue, s.sendHead = some skb.id
  count : s.state.connected = true → s.preceding.length = dist s.vA s.vS
  numbered : s.state.connected = true → s.preceding.map Skb.nS = numbers s.vA (dist s.vA s.vS)
  window : s.state.connected = true → s.preceding.length ≤ s.sap.k

/-- The event does not discard the queue while the cursor is set, and does not
reset the sequence variables while frames are outstanding. -/
def TxClean (s : Sock) (e : Event) : Prop :=
  (purges s e = true → s.sendHead = none) ∧ (resets s e = true → s.preceding = [])

instance (s : Sock) (e : Event) : Decidable (TxClean s e) := inferInstanceAs (Decidable (_ ∧ _))

/-- What a clean run keeps. -/
def TxInv (s : Sock) : Prop :=
  s.sap.k ≤ 30 ∧ ∃ pre rest, Queued s.sap.k s.toLink pre rest ∧ Numbered s.toLink pre

section Runs
variable {s t : Sock} {e : Event} {es : List Event}

theorem Init.queued (fresh : Init s) : Queued s.sap.k s.toLink [] [] := by
  have link := fresh.link
  have off : s.state.connected = false := by
    obtain here | here | here | here := fresh.state <;> rw [here] <;> rfl
  exact {
    cursor := .nil (by rw [link]) (by rw [link])
    idle := fun _ => by rw [link]
    window := fun on => absurd (off.symm.trans on) (by simp)
    sent := fun _ member => by cases member
    sound := by rw [link] }

theorem Init.off (fresh : Init s) : s.state.connected = false := by
  obtain here | here | here | here := fresh.state <;> rw [here] <;> rfl

theorem Init.txInv (fresh : Init s) : TxInv s :=
  ⟨fresh.window.2, [], [], fresh.queued, fun on => absurd (fresh.off.symm.trans on) (by simp)⟩

theorem txInv_step (held : TxInv s) (clean : TxClean s e) (took : step s e = some t) : TxInv t := by
  obtain ⟨small, pre, rest, queued, numbered⟩ := held
  obtain ⟨pre', rest', after⟩ := (step_link took).carries (by omega) queued clean.1
  rw [TxInv, step_sap took]
  refine ⟨small, pre', rest', after.queued, after.numbered (fun caused => ?_) numbered⟩
  rw [← queued.cursor.preceding_waiting.1]
  exact clean.2 caused

theorem TxInv.ok (held : TxInv s) : TxQueueOk s := by
  obtain ⟨small, pre, rest, queued, numbered⟩ := held
  have ahead := queued.cursor.preceding_waiting.1
  have count (on : s.state.connected = true) : s.preceding.length = dist s.vA s.vS := by
    rw [ahead, ← List.length_map Skb.nS, numbered on, numbers_length]
  refine ⟨queued.cursor.linked, count, fun on => ?_, fun on => ?_⟩
  · rw [ahead]
    exact numbered on
  · rw [count on]
    exact queued.window on

/-- In every run whose steps are clean the queue, its cursor and the sequence
variables agree. -/
theorem clean_runs_keep_the_queue (fresh : Init s) (run : Run step TxClean s es t) :
    TxQueueOk t :=
  (run.invariant TxInv txInv_step fresh.txInv).ok

/-- The terminal connects, two frames are queued for a window of one and the
first is acknowledged and sent again. -/
theorem short_run_keeps_the_queue :
    ∃ t, Run step TxClean (networkSock 1)
      [fromTerminal .command (.uframe .sabme true) [], .dataRequest [1] 0 0, .dataRequest [2] 0 0,
        fromTerminal .response (.sframe .rej 1 false) []] t ∧ TxQueueOk t := by
  have run := follow_run step TxClean (networkSock 1)
    [fromTerminal .command (.uframe .sabme true) [], .dataRequest [1] 0 0, .dataRequest [2] 0 0,
      fromTerminal .response (.sframe .rej 1 false) []] rfl
  exact ⟨_, run, clean_runs_keep_the_queue (networkSock_init (by decide) (by decide)) run⟩

/-- A DISC that arrives while a frame waits frees it under the cursor. -/
theorem discard_leaves_the_cursor :
    ¬ ∀ s es t, Init s → Run step Any s es t → TxQueueOk t := by
  intro claim
  have run := follow_run step Any (networkSock 1)
    [fromTerminal .command (.uframe .sabme true) [], .dataRequest [1] 0 0, .dataRequest [2] 0 0,
      fromTerminal .command (.uframe .disc true) []] rfl
  exact absurd (claim _ _ _ (networkSock_init (by decide) (by decide)) run).linked (by decide)

/-- No event of such a run follows a freed cursor: the only events without a
successor are those that cannot happen. -/
theorem clean_step_is_defined (fresh : Init s) (run : Run step TxClean s es t)
    (clean : TxClean t e) (possible : enabled t e = true) : ∃ u, step t e = some u := by
  obtain ⟨small, pre, rest, queued, _⟩ := run.invariant TxInv txInv_step fresh.txInv
  obtain ⟨_, _, after⟩ := (perform_link (s := { t with out := [] }) possible).carries
    (Nat.lt_of_le_of_lt small (by decide)) queued clean.1
  exact ⟨_, if_pos ⟨possible, after.queued.sound⟩⟩

end Runs

/-! ## Frames that wait -/

/-- In state 7 with a peer that is not busy, every queued frame has been sent,
or the window is full. -/
def NoStall (s : Sock) : Prop :=
  s.state = .linkConnectionEstablished → s.peerReceiverBusy = false →
    (s.waiting = [] ∧ ∀ skb ∈ s.writeQueue, skb.transmitted = true) ∨ windowFull s

/-- The event does not discard the queue while the cursor is set. If it resets
the link in state 7 no frame waits, and if it acknowledges N(R) in state 7
without a retransmission, no frame waits or the window stays full. -/
def StallClean (s : Sock) (e : Event) : Prop :=
  (purges s e = true → s.sendHead = none) ∧ (mutes s e = true → s.waiting = []) ∧
    ∀ nR ∈ acksInPlace s e, s.waiting = [] ∨ s.vS.val = (nR.val + s.sap.k) % 128

instance (s : Sock) (e : Event) : Decidable (StallClean s e) :=
  inferInstanceAs (Decidable (_ ∧ _ ∧ _))

def StallInv (s : Sock) : Prop :=
  s.sap.k ≤ 30 ∧ ∃ pre rest, Queued s.sap.k s.toLink pre rest ∧ Unstalled s.sap.k s.toLink rest

section Stall
variable {s t : Sock} {e : Event} {es : List Event}

theorem Init.stallInv (fresh : Init s) : StallInv s :=
  ⟨fresh.window.2, [], [], fresh.queued, fun _ _ => .inl rfl⟩

theorem stallInv_step (held : StallInv s) (clean : StallClean s e) (took : step s e = some t) :
    StallInv t := by
  obtain ⟨small, pre, rest, queued, unstalled⟩ := held
  obtain ⟨pre', rest', after⟩ := (step_link took).carries (by omega) queued clean.1
  have behind := queued.cursor.preceding_waiting.2
  rw [StallInv, step_sap took]
  refine ⟨small, pre', rest', after.queued, after.unstalled ?_ ?_ unstalled⟩
  · intro muted
    rw [← behind]
    exact clean.2.1 muted
  · intro nR acked
    rw [← behind]
    refine (clean.2.2 nR acked).imp id fun full => ?_
    exact (val_eq_add_mod (by omega)).mp full

theorem StallInv.noStall (held : StallInv s) : NoStall s := by
  obtain ⟨small, pre, rest, queued, unstalled⟩ := held
  intro here ready
  obtain none | full := unstalled here ready
  · refine .inl ⟨by rw [queued.cursor.preceding_waiting.2, none], ?_⟩
    rw [queued.cursor.queue, none, List.append_nil]
    exact queued.sent
  · exact .inr ((windowFull_iff (by omega)).mpr full)

/-- In every run of such events no frame waits that could be sent. -/
theorem unstalled_runs_send_everything (fresh : Init s) (run : Run step StallClean s es t) :
    NoStall t :=
  (run.invariant StallInv stallInv_step fresh.stallInv).noStall

/-- The window of one is full until the frame in it is acknowledged by a REJ. -/
theorem short_run_sends_everything :
    ∃ t, Run step StallClean (networkSock 1)
      [fromTerminal .command (.uframe .sabme true) [], .dataRequest [1] 0 0, .dataRequest [2] 0 0,
        fromTerminal .response (.sframe .rej 1 false) []] t ∧ NoStall t := by
  have run := follow_run step StallClean (networkSock 1)
    [fromTerminal .command (.uframe .sabme true) [], .dataRequest [1] 0 0, .dataRequest [2] 0 0,
      fromTerminal .response (.sframe .rej 1 false) []] rfl
  exact ⟨_, run, unstalled_runs_send_everything (networkSock_init (by decide) (by decide)) run⟩

/-- An RR that opens the window does not send the frame that waits for it. -/
theorem acknowledgement_leaves_frames_waiting :
    ¬ ∀ s es t, Init s → Run step Any s es t → NoStall t := by
  intro claim
  have run := follow_run step Any (networkSock 1)
    [fromTerminal .command (.uframe .sabme true) [], .dataRequest [1] 0 0, .dataRequest [2] 0 0,
      fromTerminal .response (.sframe .rr 1 false) []] rfl
  have stalled := claim _ _ _ (networkSock_init (by decide) (by decide)) run rfl rfl
  exact absurd stalled (by decide)

end Stall

end Vstuff.Lapd
