import Vstuff.Libkstreamer.Multipart

/-! The answer to a request that lists objects, from the registry of the kernel to the
response of the request: it is complete when the last message has come and not before,
however the kernel cuts it into packets and whatever answers come between. -/
namespace Vstuff.Libkstreamer
open Kstreamer (NLMSG_ERROR NLMSG_DONE Listed PutMessage Out getAnswer)
open Transition
set_option linter.all false

/-- The response of the request. -/
structure Req.Holds (req : Req) (response : List UInt8) : Prop where
  octets : req.response = response
  size : req.response_payload_size = response.length

namespace Conn

variable {conn later : Conn} {r : Nat} {nlh : Nlmsghdr} {now : Nat} {memory : Bool}

/-! ## Requests without an answer -/

/-- A request without an answer; its number has a low half of 0. -/
def Unanswered (req : Req) : Prop :=
  (req.id % 2 ^ 16 = 0 ∧ req.id < 2 ^ 32) ∧ req.multi_seq = 1 ∧ req.response = [] ∧ req.response_payload_size = 0

theorem Unanswered.of_told {req other : Req} (unanswered : Unanswered req) (same : other.told = req.told) :
    Unanswered other := by
  unfold Req.told at same
  simp only [Prod.mk.injEq] at same
  obtain ⟨id, seq, response, size⟩ := same
  unfold Unanswered
  rw [id, seq, response, size]
  exact unanswered

/-- The answer of a request begins with its acknowledgement. -/
def Fresh (conn : Conn) : Prop :=
  ∀ r, r ∈ conn.requests_pending ∨ r ∈ conn.requests_waiting_ack → Unanswered (conn.reqs r)

theorem send_told {conn later : Conn} {now : Nat → Nat} {used : Option Nat} {allocs : List Bool} {rs : List Nat}
    (done : send now conn used allocs rs = some later) :
    (∀ o, (later.reqs o).told = (conn.reqs o).told) ∧ (∀ o ∈ later.requests_pending, o ∈ conn.requests_pending) ∧
      ∀ o ∈ later.requests_waiting_ack, o ∈ conn.requests_waiting_ack ∨ o ∈ rs := by
  induction rs generalizing conn used allocs with
  | nil =>
    cases done
    exact ⟨fun _ => rfl, fun _ there => there, fun _ there => .inl there⟩
  | cons r rs ih =>
    unfold send at done
    obtain ⟨req, alive, done⟩ := Option.bind_eq_some_iff.mp done
    obtain ⟨placed, place, done⟩ := Option.bind_eq_some_iff.mp done
    obtain ⟨used, allocs⟩ := placed
    cases used with
    | none =>
      cases done
      exact ⟨fun _ => rfl, fun _ there => there, fun _ there => .inl there⟩
    | some used =>
      obtain ⟨mid, started, done⟩ := Option.bind_eq_some_iff.mp done
      obtain ⟨only, start⟩ := modify_only started
      obtain ⟨told, pending, waiting⟩ := ih done
      refine ⟨?_, ?_, ?_⟩
      · intro o
        rw [told]
        by_cases here : o = r
        · rw [here]
          exact Req.timerStart_some start
        · exact congrArg Req.told (only.others o here)
      · intro o there
        have kept := pending o there
        rw [only.pending] at kept
        exact List.mem_of_mem_erase kept
      · intro o there
        obtain before | later := waiting o there
        · rw [only.waiting] at before
          obtain before | here := List.mem_append.mp before
          · exact .inl before
          · exact .inr (List.mem_singleton.mp here ▸ List.mem_cons_self)
        · exact .inr (List.mem_cons_of_mem _ later)

theorem Touches.fresh (held : conn.Consistent) (touches : Touches conn later r nlh) (fresh : conn.Fresh) : later.Fresh := by
  intro o there
  have other : o ≠ r := by
    intro same
    subst same
    obtain pending | waiting := there
    · rw [touches.pending] at pending
      obtain ⟨-, waiting, multi⟩ := held.apart_of_pending pending
      exact touches.known.elim waiting multi
    · exact touches.gone waiting
  rw [touches.others o other]
  rw [touches.pending, touches.waiting o other] at there
  exact fresh o there

theorem Fresh.step {e : Event} (held : conn.Consistent) (fresh : conn.Fresh) (clean : conn.Clean e)
    (took : Libkstreamer.step conn e = some later) : later.Fresh := by
  cases e with
  | queue skb =>
    change conn.queueRequest _ = some later at took
    unfold queueRequest at took
    rw [if_neg (by simp [held.free])] at took
    obtain ⟨req, got, took⟩ := Option.bind_eq_some_iff.mp took
    cases took
    have told := Req.get_some got
    intro o there
    dsimp only at there ⊢
    by_cases here : o = conn.next
    · subst here
      rw [Function.update_self]
      refine Unanswered.of_told ⟨⟨?_, ?_⟩, rfl, rfl, rfl⟩ told
      · dsimp only
        omega
      · exact Nat.mod_lt _ (by decide)
    · rw [Function.update_of_ne here]
      refine fresh o (there.imp_left fun pending => ?_)
      exact (List.mem_append.mp pending).resolve_right fun last => here (List.mem_singleton.mp last)
  | release o =>
    change (if _ then conn.modify o _ else none) = some later at took
    split at took
    · obtain ⟨only, put⟩ := modify_only took
      intro p there
      rw [only.pending, only.waiting] at there
      by_cases here : p = o
      · subst here
        exact (fresh p there).of_told (Req.put_some put).1
      · rw [only.others p here]
        exact fresh p there
    · cases took
  | send now allocs =>
    change conn.sendRequests now allocs = some later at took
    unfold sendRequests at took
    rw [if_neg (by simp [held.free])] at took
    obtain ⟨told, pending, waiting⟩ := send_told took
    intro o there
    refine Unanswered.of_told (fresh o ?_) (told o)
    obtain there | there := there
    · exact .inl (pending o there)
    · exact (waiting o there).symm
  | expire o => exact clean.elim
  | receive nlh now memory =>
    obtain rfl | ⟨r, touches⟩ := receive_touches held clean took
    · exact fresh
    · exact touches.fresh held fresh

theorem fresh_of_run {es : List Event} (run : Run step Clean {} es conn) : conn.Consistent ∧ conn.Fresh := by
  refine run.invariant (fun conn => conn.Consistent ∧ conn.Fresh) ?_ ⟨.init, ?_⟩
  · intro conn later e held clean took
    exact ⟨((held.1.step clean).1 later took).1, held.2.step held.1 clean took⟩
  · intro r there
    simp at there

/-! ## An answer in parts -/

/-- The part of an answer with the given number. -/
structure IsPart (id cnt : Nat) (nlh : Nlmsghdr) : Prop where
  ack : nlh.ack = false
  multi : nlh.multi = true
  number : nlh.nlmsg_seq / 2 ^ 16 = id / 2 ^ 16
  half : nlh.nlmsg_seq % 2 ^ 16 = cnt

/-- The parts of an answer from the given number on. -/
inductive Parts (id : Nat) : Nat → List Nlmsghdr → Prop where
  | done {cnt : Nat} {nlh : Nlmsghdr} (part : IsPart id cnt nlh) (last : nlh.nlmsg_type = NLMSG_DONE) :
      Parts id cnt [nlh]
  | more {cnt : Nat} {nlh : Nlmsghdr} {left : List Nlmsghdr} (part : IsPart id cnt nlh)
      (object : nlh.nlmsg_type ≠ NLMSG_ERROR ∧ nlh.nlmsg_type ≠ NLMSG_DONE) (rest : Parts id (cnt + 1) left) :
      Parts id cnt (nlh :: left)

/-- An acknowledgement that announces parts. -/
structure IsAck (id : Nat) (nlh : Nlmsghdr) : Prop where
  ack : nlh.ack = true
  multi : nlh.multi = true
  number : nlh.nlmsg_seq = id
  fine : nlh.nlmsg_type ≠ NLMSG_ERROR

/-- No other request that waits has the number. -/
def Alone (conn : Conn) (r : Nat) : Prop :=
  ∀ o, o ∈ conn.requests_waiting_ack ∨ o ∈ conn.requests_multi → o ≠ r →
    (conn.reqs o).id / 2 ^ 16 ≠ (conn.reqs r).id / 2 ^ 16

/-- How far the answer of a request is: the octets that have come, and the messages that
have not. -/
inductive Stage (conn : Conn) (r : Nat) (response : List UInt8) : List Nlmsghdr → Prop where
  | waits {ack : Nlmsghdr} {left : List Nlmsghdr} (there : r ∈ conn.requests_waiting_ack)
      (unanswered : Unanswered (conn.reqs r)) (none : response = []) (is : IsAck (conn.reqs r).id ack)
      (parts : Parts (conn.reqs r).id 1 left) : Stage conn r response (ack :: left)
  | takes {left : List Nlmsghdr} (there : r ∈ conn.requests_multi) (holds : (conn.reqs r).Holds response)
      (parts : Parts (conn.reqs r).id (conn.reqs r).multi_seq left) : Stage conn r response left
  | done (below : r < conn.next) (left : conn.listed r = false) (holds : (conn.reqs r).Holds response)
      (fine : (conn.reqs r).err = 0) : Stage conn r response []

variable {response : List UInt8} {left : List Nlmsghdr}

theorem Touches.alone {o : Nat} (touches : Touches conn later o nlh) (alone : conn.Alone r) : later.Alone r := by
  have id (p : Nat) : (later.reqs p).id = (conn.reqs p).id := by
    by_cases here : p = o
    · rw [here]
      exact touches.id
    · rw [touches.others p here]
  intro p there other
  rw [id p, id r]
  refine alone p ?_ other
  by_cases here : p = o
  · rw [here]
    exact touches.known
  · rw [touches.waiting p here, touches.multi p here] at there
    exact there

/-- A message for somebody else. -/
theorem Stage.other {o : Nat} (stage : Stage conn r response left) (touches : Touches conn later o nlh) (other : o ≠ r)
    (next : conn.next ≤ later.next) : Stage later r response left := by
  have same := touches.others r (Ne.symm other)
  have waiting := touches.waiting r (Ne.symm other)
  have multi := touches.multi r (Ne.symm other)
  cases stage with
  | waits there unanswered none is parts =>
    exact .waits (waiting.mpr there) (same.symm ▸ unanswered) none (same.symm ▸ is) (same.symm ▸ parts)
  | takes there holds parts => exact .takes (multi.mpr there) (same.symm ▸ holds) (same.symm ▸ parts)
  | done below gone holds fine =>
    refine .done (Nat.lt_of_lt_of_le below next) ?_ (same.symm ▸ holds) (same.symm ▸ fine)
    unfold listed at gone ⊢
    rw [decide_eq_false_iff_not] at gone ⊢
    rw [touches.pending, waiting, multi]
    exact gone

theorem acknowledged_eq (there : r ∈ conn.requests_waiting_ack) (alone : conn.Alone r)
    (mine : nlh.nlmsg_seq = (conn.reqs r).id) : conn.acknowledged nlh = some r := by
  unfold acknowledged
  cases found : conn.requests_waiting_ack.find? fun r => (conn.reqs r).id = nlh.nlmsg_seq with
  | none =>
    have missed := List.find?_eq_none.mp found r there
    exact absurd (decide_eq_true mine.symm) missed
  | some o =>
    have here := List.find?_some found
    have here := of_decide_eq_true here
    by_contra other
    have apart := alone o (.inl (List.mem_of_find?_eq_some found)) fun same => other (congrArg some same)
    rw [here, mine] at apart
    exact apart rfl

theorem continued_eq (there : r ∈ conn.requests_multi) (alone : conn.Alone r)
    (mine : nlh.nlmsg_seq / 2 ^ 16 = (conn.reqs r).id / 2 ^ 16) : conn.continued nlh = some r := by
  unfold continued
  cases found : conn.requests_multi.find? fun r => (conn.reqs r).id / 2 ^ 16 = nlh.nlmsg_seq / 2 ^ 16 with
  | none =>
    have missed := List.find?_eq_none.mp found r there
    exact absurd (decide_eq_true mine.symm) missed
  | some o =>
    have here := List.find?_some found
    have here := of_decide_eq_true here
    by_contra other
    have apart := alone o (.inr (List.mem_of_find?_eq_some found)) fun same => other (congrArg some same)
    rw [here, mine] at apart
    exact apart rfl

/-- The message of the answer that comes next is the one that the request expects. -/
theorem Stage.orderly (alone : conn.Alone r) (stage : Stage conn r response (nlh :: left)) : conn.Orderly nlh := by
  unfold Orderly
  cases stage with
  | waits there unanswered none is parts =>
    rw [if_pos is.ack]
    right
    constructor
    · rw [acknowledged_eq there alone is.number]
      rfl
    · exact fun error => absurd error is.fine
  | takes there holds parts =>
    have part : IsPart (conn.reqs r).id (conn.reqs r).multi_seq nlh ∧ nlh.nlmsg_type ≠ NLMSG_ERROR := by
      cases parts with
      | done part last =>
        refine ⟨part, ?_⟩
        rw [last]
        decide
      | more part object _ => exact ⟨part, object.1⟩
    rw [if_neg (by simp [part.1.ack])]
    intro _ o found
    rw [continued_eq there alone part.1.number] at found
    cases found
    exact ⟨part.1.half, part.2⟩

theorem Took.holds {req other : Req} {seq : Nat} (took : Took nlh true seq req other)
    (sized : Kstreamer.align nlh.nlmsg_len = nlh.octets.length) (holds : req.Holds response) :
    other.Holds (response ++ nlh.octets) := by
  obtain ⟨octets, size⟩ := Prod.mk.inj took.spec.2.2
  constructor
  · rw [octets, holds.octets]
  · rw [size, holds.size, sized, List.length_append]

/-- It goes into the response, and the last one completes the request. -/
theorem Stage.own (held : conn.Consistent) (alone : conn.Alone r) (stage : Stage conn r response (nlh :: left))
    (sized : Kstreamer.align nlh.nlmsg_len = nlh.octets.length) (done : conn.receiveUnicast nlh now true = some later) (next : conn.next ≤ later.next) :
    Stage later r (response ++ nlh.octets) left := by
  cases stage with
  | waits there unanswered none is parts =>
    rw [receive_acknowledge held is.ack (acknowledged_eq there alone is.number)] at done
    have spec := acknowledge_some done
    rw [if_neg is.fine, if_pos is.multi] at spec
    obtain ⟨took, only⟩ := spec
    obtain ⟨id, seq, _⟩ := took.spec
    have empty : (conn.reqs r).Holds response := by
      rw [none]
      exact ⟨unanswered.2.2.1, unanswered.2.2.2⟩
    apply Stage.takes
    · rw [only.multi]
      exact List.mem_append_right _ (List.mem_singleton_self r)
    · exact took.holds sized empty
    · rw [id, seq, unanswered.2.1]
      exact parts
  | takes there holds parts =>
    cases parts with
    | done part last =>
      have fine : nlh.nlmsg_type ≠ NLMSG_ERROR := by
        rw [last]
        decide
      rw [receive_part held part.ack part.multi (continued_eq there alone part.number)] at done
      obtain ⟨took, spec⟩ := part_some part.half fine done
      rw [if_pos last] at spec
      obtain ⟨only, err⟩ := spec
      obtain ⟨pending, waiting, multi⟩ := held.apart_of_multi there
      apply Stage.done
      · exact Nat.lt_of_lt_of_le (held.known r (Consistent.listed_iff.mpr (.inr (.inr there)))) next
      · unfold listed
        rw [decide_eq_false_iff_not, only.pending, only.waiting, only.multi]
        exact not_or.mpr ⟨pending, not_or.mpr ⟨waiting, multi⟩⟩
      · exact took.holds sized holds
      · exact err
    | more part object rest =>
      rw [receive_part held part.ack part.multi (continued_eq there alone part.number)] at done
      obtain ⟨took, only⟩ := part_some part.half object.1 done
      rw [if_neg object.2] at only
      obtain ⟨id, seq, _⟩ := took.spec
      apply Stage.takes
      · rw [only.multi]
        exact there
      · exact took.holds sized holds
      · rw [id, seq]
        exact rest

/-! ## The whole answer -/

/-- The message belongs to the request with the given number. -/
def mine (number : Nat) : Event → Option Nlmsghdr
  | .receive nlh _ _ => if nlh.nlmsg_seq / 2 ^ 16 = number then some nlh else none
  | _ => none

/-- Messages are received: those with the number with memory for them, and between
them answers to other requests, in order. -/
def Fed (number : Nat) (conn : Conn) : Event → Prop
  | .receive nlh _ memory => if nlh.nlmsg_seq / 2 ^ 16 = number then memory = true else conn.Orderly nlh
  | _ => False

instance (number : Nat) (conn : Conn) (e : Event) : Decidable (conn.Fed number e) :=
  match e with
  | .receive nlh _ memory =>
    inferInstanceAs (Decidable (if nlh.nlmsg_seq / 2 ^ 16 = number then memory = true else conn.Orderly nlh))
  | .queue _ | .release _ | .send _ _ | .expire _ => inferInstanceAs (Decidable False)

/-- What a message says goes only into the response of a request with its number. -/
def Attributes (conn : Conn) : Event → Prop
  | .receive nlh now memory => ∀ later, conn.receiveUnicast nlh now memory = some later → ∀ o,
      (later.reqs o).response = (conn.reqs o).response ∨
        (conn.reqs o).id / 2 ^ 16 = nlh.nlmsg_seq / 2 ^ 16 ∧
          (later.reqs o).response = (conn.reqs o).response ++ nlh.octets
  | _ => True

theorem attributes (held : conn.Consistent) (orderly : conn.Orderly nlh) : conn.Attributes (.receive nlh now memory) := by
  intro later done o
  obtain rfl | ⟨r, touches⟩ := receive_touches held orderly done
  · exact .inl rfl
  · by_cases here : o = r
    · rw [here]
      exact touches.response.imp_right fun more => ⟨touches.number, more⟩
    · exact .inl (congrArg Req.response (touches.others o here))

/-- A step on the way: the message is the next one of the answer, or somebody else's. -/
theorem Stage.step {e : Event} {come : List Nlmsghdr} {number : Nat} (held : conn.Consistent) (alone : conn.Alone r)
    (asks : (conn.reqs r).id / 2 ^ 16 = number) (stage : Stage conn r response (come ++ left))
    (sized : ∀ nlh ∈ come, Kstreamer.align nlh.nlmsg_len = nlh.octets.length) (fed : conn.Fed number e)
    (own : (mine number e).toList = come) :
    ∃ later, Libkstreamer.step conn e = some later ∧ conn.Attributes e ∧ later.Consistent ∧ later.Alone r ∧
      (later.reqs r).id / 2 ^ 16 = number ∧ Stage later r (response ++ come.flatMap Nlmsghdr.octets) left := by
  cases e with
  | receive nlh now memory =>
    have orderly : conn.Orderly nlh := by
      by_cases ours : nlh.nlmsg_seq / 2 ^ 16 = number
      · simp only [mine, if_pos ours] at own
        subst own
        exact stage.orderly alone
      · simpa only [Fed, if_neg ours] using fed
    obtain ⟨later, done, kept, onward⟩ : ∃ later, conn.receiveUnicast nlh now memory = some later ∧
        later.Consistent ∧ conn.Onward later := held.receive orderly
    have same := receive_touches held orderly done
    have alone' : later.Alone r := by
      obtain rfl | ⟨o, touches⟩ := same
      · exact alone
      · exact touches.alone alone
    have asks' : (later.reqs r).id / 2 ^ 16 = number := by
      obtain rfl | ⟨o, touches⟩ := same
      · exact asks
      · rw [← asks]
        by_cases here : r = o
        · rw [here, touches.id]
        · rw [touches.others r here]
    refine ⟨later, done, attributes held orderly, kept, alone', asks', ?_⟩
    by_cases ours : nlh.nlmsg_seq / 2 ^ 16 = number
    · simp only [mine, Fed, if_pos ours] at own fed
      subst own fed
      rw [Option.toList_some, List.flatMap_singleton]
      exact stage.own held alone (sized nlh (List.mem_singleton_self nlh)) done onward.next
    · simp only [mine, if_neg ours] at own
      subst own
      rw [Option.toList_none, List.flatMap_nil, List.append_nil]
      obtain rfl | ⟨o, touches⟩ := same
      · exact stage
      · refine stage.other touches ?_ onward.next
        intro here
        rw [here] at touches
        exact ours (touches.number.symm.trans asks)
  | queue skb => exact fed.elim
  | release o => exact fed.elim
  | send now allocs => exact fed.elim
  | expire o => exact fed.elim

/-- As many messages of the answer as have been received are in the response, in any
order with those of others. -/
theorem Stage.run {es : List Event} {come : List Nlmsghdr} {number : Nat} (held : conn.Consistent) (alone : conn.Alone r)
    (asks : (conn.reqs r).id / 2 ^ 16 = number) (stage : Stage conn r response (come ++ left))
    (sized : ∀ nlh ∈ come, Kstreamer.align nlh.nlmsg_len = nlh.octets.length)
    (fed : Throughout Libkstreamer.step (Fed number) conn es) (own : es.filterMap (mine number) = come) :
    ∃ later, Run Libkstreamer.step Attributes conn es later ∧ later.Consistent ∧
      Stage later r (response ++ come.flatMap Nlmsghdr.octets) left := by
  induction es generalizing conn response come with
  | nil =>
    subst own
    refine ⟨conn, .nil conn, held, ?_⟩
    rw [List.filterMap_nil, List.flatMap_nil, List.append_nil]
    exact stage
  | cons e es ih =>
    have split : come = (mine number e).toList ++ es.filterMap (mine number) := by
      rw [← own, List.filterMap_cons]
      cases mine number e <;> rfl
    rw [split, List.append_assoc] at stage
    obtain ⟨mid, took, attributes, held, alone, asks, stage⟩ := stage.step held alone asks
      (fun nlh there => sized nlh (split ▸ List.mem_append_left _ there)) fed.1 rfl
    have rest := fed.2
    rw [took] at rest
    obtain ⟨later, run, kept, stage⟩ := ih held alone asks stage
      (fun nlh there => sized nlh (split ▸ List.mem_append_right _ there)) rest rfl
    refine ⟨later, .cons attributes took run, kept, ?_⟩
    rw [split, List.flatMap_append, ← List.append_assoc]
    exact stage

/-! ## From the kernel -/

/-- The messages of the packets that the kernel has sent, as the library reads them. -/
def received (packets : List (List PutMessage)) : List Nlmsghdr :=
  packets.flatMap fun packet => (messages (packet.flatMap PutMessage.octets)).map .read

/-- A message as it is read. -/
def readBack (m : PutMessage) : Nlmsghdr := .read m.octets

theorem received_eq {packets : List (List PutMessage)} (small : ∀ m ∈ packets.flatten, m.len < 2 ^ 32) :
    received packets = packets.flatten.map readBack := by
  induction packets with
  | nil => rfl
  | cons packet packets ih =>
    rw [List.flatten_cons] at small ⊢
    unfold received at ih ⊢
    rw [List.flatMap_cons, ih fun m there => small m (List.mem_append_right _ there),
      messages_octets fun m there => small m (List.mem_append_left _ there), List.map_append, List.map_map]
    rfl

theorem readBack_sized {m : PutMessage} (small : m.len < 2 ^ 32) :
    Kstreamer.align (readBack m).nlmsg_len = (readBack m).octets.length := by
  have words := words_octets small []
  rw [List.append_nil] at words
  change Kstreamer.align (word32 m.octets 0) = m.octets.length
  rw [words.1, m.align_len, m.octets_length]

/-- The words of a header fit. -/
theorem readBack_words {m : PutMessage} (small : m.len < 2 ^ 32) (type : m.nlmsg_type < 2 ^ 16)
    (flags : m.nlmsg_flags < 2 ^ 16) (seq : m.nlmsg_seq < 2 ^ 32) :
    (readBack m).nlmsg_type = m.nlmsg_type ∧ (readBack m).nlmsg_seq = m.nlmsg_seq ∧
      (readBack m).ack = decide (m.nlmsg_flags / 4 % 2 = 1) ∧ (readBack m).multi = decide (m.nlmsg_flags / 2 % 2 = 1) := by
  obtain ⟨_, type', flags', seq'⟩ := words_octets small []
  rw [List.append_nil] at type' flags' seq'
  rw [Nat.mod_eq_of_lt type] at type'
  rw [Nat.mod_eq_of_lt flags] at flags'
  rw [Nat.mod_eq_of_lt seq] at seq'
  refine ⟨type', seq', ?_, ?_⟩
  · change decide (word16 m.octets 6 / 4 % 2 = 1) = _
    rw [flags']
  · change decide (word16 m.octets 6 / 2 % 2 = 1) = _
    rw [flags']

/-- A part of an answer, with the number of the request in its upper half. -/
theorem readBack_part {m : PutMessage} {id cnt : Nat} (small : m.len < 2 ^ 32) (type : m.nlmsg_type < 2 ^ 16)
    (flags : m.nlmsg_flags = Kstreamer.NLM_F_MULTI) (seq : m.nlmsg_seq = (id + cnt) % 2 ^ 32)
    (whole : id % 2 ^ 16 = 0 ∧ id < 2 ^ 32) (below : cnt < 2 ^ 16) :
    IsPart id cnt (readBack m) ∧ (readBack m).nlmsg_type = m.nlmsg_type := by
  obtain ⟨type', seq', ack, multi⟩ := readBack_words small type (by rw [flags]; decide) (by omega)
  refine ⟨⟨?_, ?_, ?_, ?_⟩, type'⟩
  · rw [ack, flags]
    rfl
  · rw [multi, flags]
    rfl
  · rw [seq', seq]
    omega
  · rw [seq', seq]
    omega

variable {request : Kstreamer.Nlmsghdr} {objects : List Listed}

theorem new_fine (object : Listed) :
    object.new < 2 ^ 16 ∧ object.new ≠ NLMSG_ERROR ∧ object.new ≠ NLMSG_DONE := by
  cases object with
  | node => exact (by decide : 36 < 2 ^ 16 ∧ 36 ≠ NLMSG_ERROR ∧ 36 ≠ NLMSG_DONE)
  | chan => exact (by decide : 40 < 2 ^ 16 ∧ 40 ≠ NLMSG_ERROR ∧ 40 ≠ NLMSG_DONE)
  | pipeline => exact (by decide : 44 < 2 ^ 16 ∧ 44 ≠ NLMSG_ERROR ∧ 44 ≠ NLMSG_DONE)

theorem parts_readBack {cnt : Nat} (whole : request.nlmsg_seq % 2 ^ 16 = 0 ∧ request.nlmsg_seq < 2 ^ 32)
    (few : cnt + objects.length < 2 ^ 16) (small : ∀ m ∈ Kstreamer.parts request cnt objects, m.len < 2 ^ 32) :
    Parts request.nlmsg_seq cnt ((Kstreamer.parts request cnt objects).map readBack) := by
  induction objects generalizing cnt with
  | nil =>
    rw [List.length_nil] at few
    have seq : (Kstreamer.doneMessage request cnt).nlmsg_seq = (request.nlmsg_seq + cnt) % 2 ^ 32 := by
      change (request.nlmsg_seq + cnt % 2 ^ 16) % 2 ^ 32 = _
      rw [Nat.mod_eq_of_lt (show cnt < 2 ^ 16 by omega)]
    obtain ⟨part, type⟩ := readBack_part (m := Kstreamer.doneMessage request cnt) (small _ List.mem_cons_self)
      (show 3 < 2 ^ 16 by decide) rfl seq whole (by omega)
    exact .done part type
  | cons object objects ih =>
    rw [List.length_cons] at few
    obtain ⟨first, rest⟩ := List.forall_mem_cons.mp small
    obtain ⟨bound, fine⟩ := new_fine object
    obtain ⟨part, type⟩ := readBack_part first bound rfl rfl whole (by omega)
    refine .more part ?_ (ih (by omega) rest)
    rw [type]
    exact fine

/-- The requests that list nodes, channels or pipelines. -/
def lists (request : Kstreamer.Nlmsghdr) : Prop :=
  request.nlmsg_type ∈ [Kstreamer.KS_NETLINK_NODE_GET, Kstreamer.KS_NETLINK_CHAN_GET, Kstreamer.KS_NETLINK_PIPELINE_GET]

instance (request : Kstreamer.Nlmsghdr) : Decidable (lists request) := inferInstanceAs (Decidable (_ ∈ _))

theorem ack_readBack (seq : request.nlmsg_seq < 2 ^ 32) (listing : lists request)
    (small : (Kstreamer.ackMessage request).len < 2 ^ 32) :
    IsAck request.nlmsg_seq (readBack (Kstreamer.ackMessage request)) := by
  have type : request.nlmsg_type < 2 ^ 16 ∧ request.nlmsg_type ≠ NLMSG_ERROR := by
    unfold lists at listing
    simp only [List.mem_cons, List.not_mem_nil, or_false] at listing
    obtain same | same | same := listing
    all_goals
      rw [same]
      decide
  obtain ⟨type', seq', ack, multi⟩ := readBack_words small type.1 (show 2 + 4 < 2 ^ 16 by decide) seq
  refine ⟨ack.trans (by decide : decide (6 / 4 % 2 = 1) = true), multi.trans (by decide : decide (6 / 2 % 2 = 1) = true),
    seq', ?_⟩
  rw [type']
  exact type.2

/-- The request is done, once and without an error, and its response is the answer,
whose messages can be read from it. -/
structure Complete (conn : Conn) (r : Nat) (answer : List PutMessage) : Prop where
  once : (conn.reqs r).completed = true ∧ (conn.reqs r).results = [0]
  left : conn.listed r = false
  response : (conn.reqs r).Holds (answer.flatMap PutMessage.octets)
  readable : messages (conn.reqs r).response = answer.map PutMessage.octets

/-- The request waits for more. -/
structure Incomplete (conn : Conn) (r : Nat) : Prop where
  waits : (conn.reqs r).completed = false ∧ (conn.reqs r).results = []
  listed : conn.listed r = true

theorem Stage.complete {answer : List PutMessage} (held : conn.Consistent)
    (stage : Stage conn r (answer.flatMap PutMessage.octets) []) (small : ∀ m ∈ answer, m.len < 2 ^ 32) :
    conn.Complete r answer := by
  cases stage with
  | takes there holds parts => cases parts
  | done below gone holds fine =>
    have kept := held.kept r below
    rw [gone] at kept
    refine ⟨⟨kept.completed, ?_⟩, gone, holds, ?_⟩
    · rw [kept.results, fine]
      rfl
    · rw [holds.octets]
      exact messages_octets small

theorem Stage.incomplete (held : conn.Consistent) (stage : Stage conn r response left) (more : left ≠ []) :
    conn.Incomplete r := by
  cases stage with
  | waits there =>
    have kept := held.kept_of_waiting there
    exact ⟨⟨kept.completed, kept.results⟩, Consistent.listed_iff.mpr (.inr (.inl there))⟩
  | takes there =>
    have kept := held.kept_of_multi there
    exact ⟨⟨kept.completed, kept.results⟩, Consistent.listed_iff.mpr (.inr (.inr there))⟩
  | done => exact absurd rfl more

/-- After any run in which answers come in order, a request that lists objects waits for
its acknowledgement, and no other request that waits has its number. The kernel answers
it, and however it cuts the answer into packets, and whatever comes for other requests
between its messages: the request waits until the last message and is complete with it,
and no message gets into the response of a request with another number. -/
theorem multipart_answer_completes_once_of_run {before : List Event} {out : Out}
    (reached : Run step Clean {} before conn) (there : r ∈ conn.requests_waiting_ack) (alone : conn.Alone r)
    (asks : request.nlmsg_seq = (conn.reqs r).id) (listing : lists request) (few : objects.length < 65535)
    (small : ∀ m ∈ out.written ++ getAnswer request objects, m.len ≤ out.room) :
    ∃ sent, out.cmdGet request objects = some sent ∧
      ∀ es, Throughout step (Fed ((conn.reqs r).id / 2 ^ 16)) conn es →
        out.written.map readBack ++ es.filterMap (mine ((conn.reqs r).id / 2 ^ 16)) = received sent.flush.sent →
        ∀ es₁ es₂, es = es₁ ++ es₂ → ∃ later, Run step Attributes conn es₁ later ∧
          if es₂.filterMap (mine ((conn.reqs r).id / 2 ^ 16)) = [] then later.Complete r (getAnswer request objects)
          else later.Incomplete r := by
  obtain ⟨held, fresh⟩ := fresh_of_run reached
  have unanswered := fresh r (.inr there)
  have whole : request.nlmsg_seq % 2 ^ 16 = 0 ∧ request.nlmsg_seq < 2 ^ 32 := asks ▸ unanswered.1
  have bounded : ∀ m ∈ out.written ++ getAnswer request objects, m.len < 2 ^ 32 :=
    fun m member => Nat.lt_of_le_of_lt (small m member) out.small
  have own : ∀ m ∈ getAnswer request objects, m.len < 2 ^ 32 :=
    fun m member => bounded m (List.mem_append_right _ member)
  obtain ⟨sent, gets, written⟩ := Out.cmdGet_written fun m member => small m (List.mem_append_right _ member)
  refine ⟨sent, gets, ?_⟩
  intro es fed comes es₁ es₂ split
  rw [received_eq (written ▸ bounded), written, List.map_append] at comes
  have comes := List.append_cancel_left comes
  rw [split, List.filterMap_append] at comes
  have stage : Stage conn r [] ((getAnswer request objects).map readBack) := by
    obtain ⟨first, rest⟩ := List.forall_mem_cons.mp own
    apply Stage.waits there unanswered rfl
    · rw [← asks]
      exact ack_readBack whole.2 listing first
    · rw [← asks]
      exact parts_readBack whole (by omega) rest
  rw [← comes] at stage
  rw [split] at fed
  have sized : ∀ nlh ∈ es₁.filterMap (mine ((conn.reqs r).id / 2 ^ 16)),
      Kstreamer.align nlh.nlmsg_len = nlh.octets.length := by
    intro nlh member
    have member := comes ▸ List.mem_append_left (es₂.filterMap (mine ((conn.reqs r).id / 2 ^ 16))) member
    obtain ⟨m, answers, rfl⟩ := List.mem_map.mp member
    exact readBack_sized (own m answers)
  obtain ⟨later, run, kept, stage⟩ := stage.run held alone rfl sized fed.left rfl
  refine ⟨later, run, ?_⟩
  split
  · rename_i last
    rw [last, List.append_nil] at comes
    rw [last, comes, List.nil_append, List.flatMap_map] at stage
    exact stage.complete kept own
  · rename_i more
    exact stage.incomplete kept more

/-! ## Two requests at once -/

/-- Two requests have been sent. -/
def bothSent : List Event := [.queue none, .queue none, .send (fun _ => 0) [true, true]]

def nodeGet : Kstreamer.Nlmsghdr where
  nlmsg_pid := 7
  nlmsg_seq := 0xF1CA0000
  nlmsg_type := Kstreamer.KS_NETLINK_NODE_GET

/-- The registry holds one node. -/
def oneNode : List Listed := [.node 1 [[110, 49]] fun _ => 0]

def emptyOut : Out := ⟨3776, Out.goodsize_small, [], []⟩

/-- The answer of the second request comes between the messages of the first one's. -/
def interleaved : List Event :=
  match (getAnswer nodeGet oneNode).map readBack with
  | ack :: parts =>
    [.receive ack 0 true, .receive { nlmsg_type := 1, ack := true, multi := false, nlmsg_seq := 0xF1CB0000 } 0 true] ++
      parts.map (.receive · 0 true)
  | [] => []

theorem interleaved_answer_completes :
    ∃ conn later : Conn, Run step Clean {} bothSent conn ∧ Run step Attributes conn interleaved later ∧
      later.Complete 0 (getAnswer nodeGet oneNode) := by
  have reached : (follow step Clean {} bothSent).any (fun conn =>
      (0 ∈ conn.requests_waiting_ack ∧ conn.requests_waiting_ack = [0, 1] ∧ conn.requests_multi = [] ∧
        (conn.reqs 0).id = 0xF1CA0000 ∧ (conn.reqs 1).id = 0xF1CB0000) ∧
          Throughout step (Fed 0xF1CA) conn interleaved) = true := by
    decide +kernel
  obtain ⟨conn, followed, facts⟩ := Option.any_eq_true _ _ |>.mp reached
  obtain ⟨⟨there, waiting, multi, first, second⟩, fed⟩ := of_decide_eq_true facts
  have run := follow_run step Clean {} bothSent followed
  have number : (conn.reqs 0).id / 2 ^ 16 = 0xF1CA :=
    (congrArg (· / 2 ^ 16) first).trans (by decide)
  have alone : conn.Alone 0 := by
    intro o listed other
    rw [waiting, multi] at listed
    have here : o = 1 := by
      simp only [List.mem_cons, List.not_mem_nil, or_false] at listed
      omega
    rw [here, first, second]
    decide
  have asks : nodeGet.nlmsg_seq = (conn.reqs 0).id := first.symm
  have few : oneNode.length < 65535 := by decide
  have small : ∀ m ∈ emptyOut.written ++ getAnswer nodeGet oneNode, m.len ≤ emptyOut.room := by
    decide +kernel
  obtain ⟨sent, gets, spec⟩ :=
    multipart_answer_completes_once_of_run run there alone asks (by decide) few small
  have packets : (emptyOut.cmdGet nodeGet oneNode).map (fun sent => received sent.flush.sent) =
      some (interleaved.filterMap (mine 0xF1CA)) := by
    decide +kernel
  rw [gets] at packets
  rw [number] at spec
  obtain ⟨later, done, complete⟩ := spec interleaved fed (Option.some.inj packets).symm interleaved [] (List.append_nil _).symm
  exact ⟨conn, later, run, done, complete⟩

/-- The answer to the second request, also a listing, that `ks_node_cmd_get` gives up for
want of a buffer: it is acknowledged, and then `ks_netlink_rcv_msg` sends the error with
NLM_F_ACK. -/
def cutShort : List Nlmsghdr :=
  [readBack (Kstreamer.ackMessage { nodeGet with nlmsg_seq := 0xF1CB0000 }),
    { nlmsg_type := NLMSG_ERROR, ack := true, multi := false, nlmsg_seq := 0xF1CB0000, nlmsg_len := 20, code := 12 }]

/-- It comes before the answer of the first one. -/
def crossed : List Event := (cutShort ++ (getAnswer nodeGet oneNode).map readBack).map (.receive · 0 true)

/-- The library looks for the error's request among those that wait for their
acknowledgement, and does not give the lock back when it finds none: the answer that
comes next is not taken any more. -/
theorem cut_answer_hangs_the_connection :
    ∃ conn sent, Run step Clean {} bothSent conn ∧ 0 ∈ conn.requests_waiting_ack ∧
      emptyOut.cmdGet nodeGet oneNode = some sent ∧ crossed.filterMap (mine 0xF1CA) = received sent.flush.sent ∧
      crossed.filterMap (mine 0xF1CB) = cutShort ∧
      ¬ ∃ later, Run step Any conn crossed later ∧ later.Complete 0 (getAnswer nodeGet oneNode) := by
  have reached : (follow step Clean {} bothSent).any (fun conn =>
      0 ∈ conn.requests_waiting_ack ∧ (follow step Any conn crossed).isNone) = true := by
    decide +kernel
  obtain ⟨conn, followed, facts⟩ := Option.any_eq_true _ _ |>.mp reached
  obtain ⟨there, stuck⟩ := of_decide_eq_true facts
  have packets : (emptyOut.cmdGet nodeGet oneNode).any (fun sent =>
      crossed.filterMap (mine 0xF1CA) = received sent.flush.sent) = true := by
    decide +kernel
  obtain ⟨sent, gets, comes⟩ := Option.any_eq_true _ _ |>.mp packets
  refine ⟨conn, sent, follow_run step Clean {} bothSent followed, there, gets, of_decide_eq_true comes,
    by decide +kernel, ?_⟩
  rintro ⟨later, run, _⟩
  rw [run_follow run] at stuck
  cases stuck

end Conn
end Vstuff.Libkstreamer
