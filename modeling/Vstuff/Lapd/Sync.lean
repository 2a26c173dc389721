import Vstuff.Lapd.Traffic
import Vstuff.Lib.GoBackN

/-! One direction of a connection between two sockets, as an instance of
go-back-n: the 7-bit numbers of the sender, of the receiver and of the frames on
their way are what is left of counters that never wrap. -/
namespace Vstuff.Lapd
open Window
set_option linter.all false

/-- The sender `l`, the receiver's V(R), the frames on their way in both
directions and the histories of both sides agree with the state `g` of
go-back-n. -/
structure Synced (k : Nat) (g : GoBackN.State) (l : Link) (pre rest : List Skb) (vR : Seq)
    (fwd bwd : List Frame) (submitted delivered unlinked : List Octets) : Prop where
  inv : GoBackN.Inv k submitted.length g
  cursor : Cursor l pre rest
  numbered : pre.map Skb.nS = numbers l.vA (g.sent - g.acked)
  acked : l.vA = Fin.ofNat 128 g.acked
  sent : l.vS = Fin.ofNat 128 g.sent
  received : vR = Fin.ofNat 128 g.received
  queue : (pre ++ rest).map Skb.data = submitted.drop g.acked
  delivered : delivered = submitted.take g.received
  unlinked : unlinked = submitted.take g.acked
  data : (fwd.filterMap Frame.payload).map (fun carried => (carried.1, some carried.2)) =
    g.data.map fun i => (Fin.ofNat 128 i, submitted[i]?)
  acks : bwd.filterMap Frame.nR = g.acks.map (Fin.ofNat 128)

def Sync (k : Nat) (l : Link) (vR : Seq) (fwd bwd : List Frame)
    (submitted delivered unlinked : List Octets) : Prop :=
  ∃ g pre rest, Synced k g l pre rest vR fwd bwd submitted delivered unlinked

section Operations
variable {k : Nat} {g : GoBackN.State} {l m : Link} {pre rest : List Skb} {vR : Seq}
  {frame : Frame} {fwd bwd fwd' bwd' : List Frame} {submitted delivered unlinked : List Octets}

theorem Synced.length (held : Synced k g l pre rest vR fwd bwd submitted delivered unlinked) :
    pre.length = g.sent - g.acked := by
  rw [← List.length_map Skb.nS, held.numbered, numbers_length]

theorem Synced.dist_eq (held : Synced k g l pre rest vR fwd bwd submitted delivered unlinked)
    (small : k ≤ 30) : dist l.vA l.vS = g.sent - g.acked := by
  have := held.inv.acked_le_sent
  have := held.inv.sent_le_high
  have := held.inv.high_le
  rw [held.acked, held.sent]
  exact dist_ofNat (by omega) (by omega)

/-- Only the queue and the numbers of the sender matter. -/
theorem Sync.of_bare (held : Sync k l vR fwd bwd submitted delivered unlinked)
    (same : m.bare = l.bare) : Sync k m vR fwd bwd submitted delivered unlinked := by
  obtain ⟨g, pre, rest, held⟩ := held
  simp only [Link.bare, Link.mk.injEq, true_and, and_true] at same
  obtain ⟨vS, vA, queue, head, next⟩ := same
  exact ⟨g, pre, rest, { held with
    cursor := held.cursor.of_same queue head next
    numbered := by rw [vA]; exact held.numbered
    acked := vA.trans held.acked
    sent := vS.trans held.sent }⟩

/-- Frames on their way are lost, or have been handled. -/
theorem Sync.lose (held : Sync k l vR fwd bwd submitted delivered unlinked)
    (fewer : fwd'.Sublist fwd) (fewerAcks : bwd'.Sublist bwd) :
    Sync k l vR fwd' bwd' submitted delivered unlinked := by
  obtain ⟨g, pre, rest, held⟩ := held
  have carried := (fewer.filterMap Frame.payload).map (fun carried => (carried.1, some carried.2))
  rw [held.data] at carried
  obtain ⟨data, fewerData, sameData⟩ := List.sublist_map_iff.mp carried
  have numbers := fewerAcks.filterMap Frame.nR
  rw [held.acks] at numbers
  obtain ⟨acks, fewerNumbers, sameAcks⟩ := List.sublist_map_iff.mp numbers
  exact ⟨{ g with data := data, acks := acks }, pre, rest, { held with
    inv := held.inv.lose fewerData fewerNumbers
    data := sameData
    acks := sameAcks }⟩

/-- Only the data forward and the N(R) backward matter. -/
theorem Sync.of_frames (held : Sync k l vR fwd bwd submitted delivered unlinked)
    (sameData : fwd'.filterMap Frame.payload = fwd.filterMap Frame.payload)
    (sameAcks : bwd'.filterMap Frame.nR = bwd.filterMap Frame.nR) :
    Sync k l vR fwd' bwd' submitted delivered unlinked := by
  obtain ⟨g, pre, rest, held⟩ := held
  exact ⟨g, pre, rest, { held with
    data := by rw [sameData]; exact held.data
    acks := by rw [sameAcks]; exact held.acks }⟩

/-- A frame without data is sent forward. -/
theorem Sync.forward_nothing (held : Sync k l vR fwd bwd submitted delivered unlinked)
    (plain : frame.payload = none) :
    Sync k l vR (fwd ++ [frame]) bwd submitted delivered unlinked :=
  held.of_frames (by simp [List.filterMap_append, plain]) rfl

/-- The receiver sends frames with N(R) = V(R). -/
theorem Sync.acknowledge (held : Sync k l vR fwd bwd submitted delivered unlinked)
    (frames : List Frame) (carry : ∀ frame ∈ frames, frame.nR = some vR) :
    Sync k l vR fwd (bwd ++ frames) submitted delivered unlinked := by
  obtain ⟨g, pre, rest, held⟩ := held
  have numbers : frames.filterMap Frame.nR = List.replicate frames.length vR := by
    induction frames with
    | nil => rfl
    | cons first frames ih =>
      rw [List.filterMap_cons, carry first List.mem_cons_self,
        ih fun frame member => carry frame (List.mem_cons_of_mem first member)]
      rfl
  refine ⟨{ g with acks := g.acks ++ List.replicate frames.length g.received }, pre, rest, { held with
    inv := held.inv.emitAcks _
    acks := ?_ }⟩
  rw [List.filterMap_append, held.acks, numbers, List.map_append, List.map_replicate, held.received]

/-- Layer 3 submits data. -/
theorem Sync.submit (held : Sync k l vR fwd bwd submitted delivered unlinked) (skb : Skb)
    (fresh : skb.id = l.nextId) :
    Sync k (l.enqueued skb) vR fwd bwd (submitted ++ [skb.data]) delivered unlinked := by
  obtain ⟨g, pre, rest, held⟩ := held
  have ackedBound : g.acked ≤ submitted.length := by
    have := held.inv.acked_le_sent
    have := held.inv.sent_le_high
    have := held.inv.high_le_total
    omega
  have receivedBound : g.received ≤ submitted.length :=
    Nat.le_trans held.inv.received_le_high held.inv.high_le_total
  refine ⟨g, pre, rest ++ [skb], { held with
    inv := held.inv.submit (by simp)
    cursor := held.cursor.enqueued fresh
    queue := ?_
    delivered := ?_
    unlinked := ?_
    data := ?_ }⟩
  · rw [← List.append_assoc, List.map_append, held.queue, List.drop_append_of_le_length ackedBound]
    rfl
  · rw [held.delivered, List.take_append_of_le_length receivedBound]
  · rw [held.unlinked, List.take_append_of_le_length ackedBound]
  · rw [held.data]
    refine List.map_congr_left fun i member => ?_
    have bound := held.inv.data_sent i member
    have total := held.inv.high_le_total
    rw [List.getElem?_append_left (by omega)]

/-- The sender goes back to V(A). -/
theorem Sync.goBack (held : Sync k l vR fwd bwd submitted delivered unlinked) :
    Sync k { l with vS := l.vA, sendHead := (l.writeQueue.head?.map Skb.id).or l.sendHead } vR fwd bwd
      submitted delivered unlinked := by
  obtain ⟨g, pre, rest, held⟩ := held
  refine ⟨{ g with sent := g.acked }, [], l.writeQueue, { held with
    inv := held.inv.goBack
    cursor := held.cursor.rewind rfl rfl rfl
    numbered := by simp [numbers]
    sent := held.acked
    queue := ?_ }⟩
  rw [List.nil_append, held.cursor.queue]
  exact held.queue

/-- The receiver accepts the data of the first frame on its way: its N(S) can
only stand for the message expected. -/
theorem Sync.accept (held : Sync k l vR (frame :: fwd) bwd submitted delivered unlinked)
    (positive : 1 ≤ k) (small : k ≤ 30) {nR : Seq} {p : Bool}
    (control : frame.control = .iframe vR nR p) :
    Sync k l (vR + 1) (frame :: fwd) bwd submitted (delivered ++ [frame.data]) unlinked := by
  obtain ⟨g, pre, rest, held⟩ := held
  have data := held.data
  have carried : frame.payload = some (vR, frame.data) := by simp [Frame.payload, control]
  rw [List.filterMap_cons, carried] at data
  obtain ⟨i, later, inFlight, number, message⟩ : ∃ i later, g.data = i :: later ∧
      vR = Fin.ofNat 128 i ∧ some frame.data = submitted[i]? := by
    cases flight : g.data with
    | nil => rw [flight] at data; cases data
    | cons i later =>
      rw [flight] at data
      simp only [List.map_cons, List.cons.injEq, Prod.mk.injEq] at data
      exact ⟨i, later, rfl, data.1.1, data.1.2⟩
  have close := held.inv.data_close (i := i) (by simp [inFlight])
  have expected : i = g.received :=
    ofNat_inj (by omega) (by omega) (number.symm.trans held.received)
  subst expected
  refine ⟨{ g with received := g.received + 1 }, pre, rest, { held with
    inv := held.inv.receive positive inFlight
    received := ?_
    delivered := ?_ }⟩
  · rw [held.received, ofNat_succ]
  · rw [held.delivered, List.take_add_one, ← message]
    rfl

/-- The sender takes the acknowledgement of the first frame on its way back. -/
theorem Sync.acked (held : Sync k l vR fwd (frame :: bwd) submitted delivered unlinked)
    (small : k ≤ 30) {nR : Seq} (carries : frame.nR = some nR) (valid : l.accepts nR) :
    Sync k (l.acked nR) vR fwd (frame :: bwd) submitted delivered
      (unlinked ++ (l.released nR).map Skb.data) := by
  obtain ⟨g, pre, rest, held⟩ := held
  have acks := held.acks
  rw [List.filterMap_cons, carries] at acks
  obtain ⟨r, later, inFlight, number⟩ : ∃ r later, g.acks = r :: later ∧ nR = Fin.ofNat 128 r := by
    cases flight : g.acks with
    | nil => rw [flight] at acks; cases acks
    | cons r later =>
      rw [flight] at acks
      exact ⟨r, later, rfl, (List.cons.inj acks).1⟩
  obtain ⟨above, near⟩ := held.inv.acks_close (r := r) (by simp [inFlight])
  have span := held.dist_eq small
  have step : dist l.vA nR = r - g.acked := by
    rw [held.acked, number]
    exact dist_ofNat above (by omega)
  have inWindow : r ≤ g.sent := by
    have bound := valid
    have := held.inv.acked_le_sent
    unfold Link.accepts at bound
    omega
  have numbered : pre.map Skb.nS = numbers l.vA (dist l.vA l.vS) := by
    rw [span]
    exact held.numbered
  have length := held.length
  have left := unacked_eq_drop numbered valid
  have cursor := held.cursor.acked nR
  have off : l.released nR = pre.take (r - g.acked) := by
    have whole : l.released nR ++ (l.acked nR).writeQueue = l.writeQueue := by
      unfold Link.released Link.acked
      split
      · rfl
      · exact List.takeWhile_append_dropWhile
    rw [cursor.queue, held.cursor.queue, left, step] at whole
    conv_rhs at whole => rw [← List.take_append_drop (r - g.acked) pre, List.append_assoc]
    exact List.append_cancel_right whole
  refine ⟨{ g with acked := r }, unacked l.vA nR pre, rest, { held with
    inv := held.inv.acknowledge inFlight inWindow
    cursor := cursor
    numbered := ?_
    acked := number
    queue := ?_
    unlinked := ?_ }⟩
  · have spanLeft : dist nR l.vS = g.sent - r := by
      rw [dist_sub valid, span, step]
      omega
    rw [unacked_numbered numbered valid, spanLeft]
    rfl
  · have dropped := congrArg (List.drop (r - g.acked)) held.queue
    rw [← List.map_drop, List.drop_append_of_le_length (by omega), List.drop_drop] at dropped
    rw [left, step, dropped]
    congr 1
    dsimp only
    omega
  · have taken := congrArg (List.take (r - g.acked)) held.queue
    rw [← List.map_take, List.take_append_of_le_length (by omega)] at taken
    rw [held.unlinked, off, taken, ← List.take_add]
    congr 1
    dsimp only
    omega

end Operations

/-! ## Running the queue -/

/-- The frames of one run carry the messages from the sender's counter on. -/
private theorem renumbered_payload (s : Sock) {p : Nat} {vR : Seq} {now later : List Skb}
    {submitted : List Octets} (queue : (now ++ later).map Skb.data = submitted.drop p) :
    (((renumbered (Fin.ofNat 128 p) vR now).map (iframeOf s)).filterMap Frame.payload).map
        (fun carried => (carried.1, some carried.2)) =
      (List.range' p now.length).map fun i => (Fin.ofNat 128 i, submitted[i]?) := by
  induction now generalizing p with
  | nil => rfl
  | cons skb now ih =>
    rw [List.cons_append, List.map_cons] at queue
    have message : submitted[p]? = some skb.data := by
      rw [← List.head?_drop, ← queue]
      rfl
    have behind : (now ++ later).map Skb.data = submitted.drop (p + 1) := by
      rw [← List.tail_drop, ← queue]
      rfl
    rw [renumbered, List.length_cons, List.range'_succ, List.map_cons, List.map_cons, ← ofNat_succ]
    rw [List.filterMap_cons]
    simp only [Frame.payload, iframeOf]
    rw [List.map_cons, message]
    exact congrArg _ (ih behind)

private theorem sending_core (s : Sock) (pre now later : List Skb) :
    (s.sending pre now later).core = { s.core with
      link := (s.sending pre now later).toLink.bare
      sent := s.core.sent ++ (renumbered s.vS s.vR now).map (iframeOf s) } := by
  have outputs (buffers : List Skb) :
      (buffers.map fun skb => Output.phDataRequest (iframeOf s skb) s.assigned).filterMap
        Output.traffic = buffers.map (iframeOf s) ∧
      (buffers.map fun skb => Output.phDataRequest (iframeOf s skb) s.assigned).filterMap
        Output.delivery = [] ∧
      (buffers.map fun skb => Output.phDataRequest (iframeOf s skb) s.assigned).filterMap
        Output.release = [] := by
    refine ⟨?_, ?_, ?_⟩
    · rw [List.filterMap_map, ← List.filterMap_eq_map]
      rfl
    · rw [List.filterMap_map, List.filterMap_eq_nil_iff]
      exact fun _ _ => rfl
    · rw [List.filterMap_map, List.filterMap_eq_nil_iff]
      exact fun _ _ => rfl
  obtain ⟨traffic, delivery, release⟩ := outputs (renumbered s.vS s.vR now)
  simp only [Sock.core, Sock.sending, List.filterMap_append, traffic, delivery, release,
    List.append_nil]

private theorem renumbered_nR (s : Sock) (v vR : Seq) (now : List Skb) :
    ∀ frame ∈ (renumbered v vR now).map (iframeOf s), frame.nR = some vR := by
  induction now generalizing v with
  | nil => exact fun _ member => by cases member
  | cons skb now ih =>
    intro frame member
    rw [renumbered, List.map_cons] at member
    obtain rfl | later := List.mem_cons.mp member
    · rfl
    · exact ih _ frame later

/-- Running the queue sends the next messages of the window; each of the frames
carries the V(R) of the socket. -/
theorem Sync.run {s : Sock} {vR : Seq} {fwd bwd : List Frame}
    {submitted delivered unlinked : List Octets}
    (held : Sync s.sap.k s.toLink vR fwd bwd submitted delivered unlinked) (small : s.sap.k ≤ 30) :
    ∃ frames,
      (runIQueue s).core = { s.core with
        link := (runIQueue s).toLink.bare, sent := s.core.sent ++ frames } ∧
      (∀ frame ∈ frames, frame.nR = some s.vR) ∧
      Sync s.sap.k (runIQueue s).toLink vR (fwd ++ frames) bwd submitted delivered unlinked := by
  obtain ⟨g, pre, rest, held⟩ := held
  have span := held.dist_eq small
  have room : dist s.vA s.vS ≤ s.sap.k := by
    have := held.inv.sent_le_high
    have := held.inv.high_le
    omega
  obtain ⟨now, later, cut, result, fits, _⟩ :=
    runIQueue_sending held.cursor (Nat.lt_of_le_of_lt small (by decide)) room
  subst cut
  rw [result]
  have behind : (now ++ later).map Skb.data = submitted.drop g.sent := by
    have dropped := congrArg (List.drop pre.length) held.queue
    rw [← List.map_drop, List.drop_left, List.drop_drop, held.length] at dropped
    rw [dropped]
    congr 1
    have := held.inv.acked_le_sent
    omega
  have available : g.sent + now.length ≤ submitted.length := by
    have lengths := congrArg List.length behind
    rw [List.length_map, List.length_append, List.length_drop] at lengths
    have := held.inv.sent_le_high
    have := held.inv.high_le_total
    omega
  have window : g.sent + now.length ≤ g.acked + s.sap.k := by
    have := held.inv.acked_le_sent
    omega
  refine ⟨_, sending_core s pre now later, renumbered_nR s s.vS s.vR now,
    { g with
      sent := g.sent + now.length
      high := max g.high (g.sent + now.length)
      data := g.data ++ List.range' g.sent now.length },
    pre ++ renumbered s.vS s.vR now, later, { held with
      inv := held.inv.emitRun now.length window available
      cursor := held.cursor.sending
      numbered := ?_
      sent := ?_
      queue := ?_
      data := ?_ }⟩
  · have reach : dist s.vA s.vS = g.sent - g.acked := span
    have total : g.sent + now.length - g.acked = g.sent - g.acked + now.length := by
      have := held.inv.acked_le_sent
      omega
    change _ = numbers s.vA (g.sent + now.length - g.acked)
    rw [total, numbers_append reach (by omega), List.map_append, held.numbered, renumbered_nS]
  · change advance s.vS now.length = _
    rw [held.sent, advance_ofNat]
  · rw [← held.queue]
    simp
  · rw [List.filterMap_append, List.map_append, List.map_append, held.data, held.sent]
    exact congrArg _ (renumbered_payload s behind)

end Vstuff.Lapd
