import Vstuff.Lib.Chunks
import Vstuff.Kstreamer.Answer
import Vstuff.Libkstreamer.Completion

/-! A multipart answer on its way from the kernel into the response of the request:
the messages of a packet are read from its octets, the acknowledgement and the parts
are found by the two halves of the request's number, and answers to other requests
may come between them. -/
namespace Vstuff.Libkstreamer
open Kstreamer (align NLMSG_ERROR NLMSG_DONE)
open Transition
set_option linter.all false

/-! ## Reading messages -/

/-- The __u16 at the given octet. -/
def word16 (b : List UInt8) (i : Nat) : Nat := (b.getD i 0).toNat + 2 ^ 8 * (b.getD (i + 1) 0).toNat

def word32 (b : List UInt8) (i : Nat) : Nat := word16 b i + 2 ^ 16 * word16 b (i + 2)

/-- The message in these octets. -/
def Nlmsghdr.read (octets : List UInt8) : Nlmsghdr where
  nlmsg_type := word16 octets 4
  ack := word16 octets 6 / 4 % 2 = 1
  multi := word16 octets 6 / 2 % 2 = 1
  nlmsg_seq := word32 octets 8
  nlmsg_len := word32 octets 0
  code := word32 octets 16
  octets := octets

/-- `NLMSG_OK`, and the octets up to `NLMSG_NEXT`. -/
def nlmsgOk (left : List UInt8) : Option Nat :=
  if 16 ≤ left.length ∧ 16 ≤ word32 left 0 ∧ word32 left 0 ≤ left.length then some (align (word32 left 0)) else none

/-- The loop over the messages of a packet or of a response. -/
def messages (octets : List UInt8) : List (List UInt8) := Chunks.frames nlmsgOk octets.length octets

section Reading
variable {m : Kstreamer.PutMessage}

theorem toNat_le16 (n : Nat) : (UInt8.ofNat n).toNat + 2 ^ 8 * (UInt8.ofNat (n / 2 ^ 8)).toNat = n % 2 ^ 16 := by
  simp only [UInt8.toNat_ofNat']
  omega

/-- The words of the header, whatever follows the message. -/
theorem words_octets (small : m.len < 2 ^ 32) (more : List UInt8) :
    word32 (m.octets ++ more) 0 = m.len ∧ word16 (m.octets ++ more) 4 = m.nlmsg_type % 2 ^ 16 ∧
      word16 (m.octets ++ more) 6 = m.nlmsg_flags % 2 ^ 16 ∧ word32 (m.octets ++ more) 8 = m.nlmsg_seq % 2 ^ 32 := by
  simp only [Kstreamer.PutMessage.octets, Kstreamer.le32, Kstreamer.le16, word32, word16, List.cons_append, List.nil_append,
    List.getD_cons_zero, List.getD_cons_succ, toNat_le16]
  refine ⟨?_, trivial, trivial, ?_⟩
  · omega
  · omega

theorem nlmsgOk_octets (small : m.len < 2 ^ 32) (more : List UInt8) :
    nlmsgOk (m.octets ++ more) = some m.octets.length := by
  have length := m.octets_length
  have header : 16 ≤ m.len := Nat.le_add_right 16 _
  unfold nlmsgOk
  rw [(words_octets small more).1, List.length_append, if_pos (by omega), m.align_len, length]

/-- The messages of a packet, or of a response, are found again. -/
theorem messages_octets {ms : List Kstreamer.PutMessage} (small : ∀ m ∈ ms, m.len < 2 ^ 32) :
    messages (ms.flatMap Kstreamer.PutMessage.octets) = ms.map Kstreamer.PutMessage.octets := by
  rw [List.flatMap_def]
  apply Chunks.frames_flatten
  · intro octets there more
    obtain ⟨m, member, rfl⟩ := List.mem_map.mp there
    exact nlmsgOk_octets (small m member) more
  · rfl
  · rw [List.length_map]
    clear small
    induction ms with
    | nil => exact Nat.zero_le _
    | cons m ms ih =>
      have length := m.octets_length
      have header : 16 ≤ m.len := Nat.le_add_right 16 _
      simp only [List.map_cons, List.flatten_cons, List.length_append, List.length_cons]
      omega

end Reading

/-! ## What a message changes -/

namespace Req

variable {req other : Req}

/-- The number of a request, and how far its answer is. -/
def told (req : Req) : Nat × Nat × List UInt8 × Nat :=
  (req.id, req.multi_seq, req.response, req.response_payload_size)

theorem put_some (done : req.put = some other) : other.told = req.told ∧ other.err = req.err := by
  unfold put alive at done
  split at done
  · cases done
  · cases done
    exact ⟨rfl, rfl⟩

theorem get_some (done : req.get = some other) : other.told = req.told := by
  unfold get alive at done
  split at done
  · cases done
  · cases done
    rfl

theorem timerStart_some {expires : Nat} (done : req.timerStart expires = some other) : other.told = req.told := by
  unfold timerStart at done
  split at done
  · cases done
    rfl
  · dsimp only at done
    split at done
    · obtain ⟨mid, stopped, started⟩ := Option.bind_eq_some_iff.mp done
      exact (get_some started).trans (put_some stopped).1
    · have told : other.told = ({ req with pending := true, expires := expires } : Req).told := get_some done
      exact told

theorem complete_some {err : Int} (done : req.complete err = some other) : other.told = req.told ∧ other.err = err := by
  unfold complete at done
  obtain ⟨mid, stopped, done⟩ := Option.bind_eq_some_iff.mp done
  have same : mid.told = req.told ∧ mid.err = err := by
    unfold timerStop at stopped
    split at stopped
    · exact put_some stopped
    · cases stopped
      exact ⟨rfl, rfl⟩
  unfold alive at done
  split at done
  · cases done
  · cases done
    exact same

end Req

namespace Conn

variable {conn mid later : Conn} {r : Nat} {nlh : Nlmsghdr} {now : Nat} {memory : Bool}

theorem modify_some {f : Req → Option Req} (done : conn.modify r f = some later) :
    ∃ req, f (conn.reqs r) = some req ∧ later = { conn with reqs := Function.update conn.reqs r req } := by
  unfold modify at done
  obtain ⟨alive, here, done⟩ := Option.bind_eq_some_iff.mp done
  obtain ⟨req, changed, same⟩ := Option.bind_eq_some_iff.mp done
  have same : some { conn with reqs := Function.update conn.reqs r req } = some later := same
  unfold Req.alive at here
  split at here
  · cases here
  · cases here
    exact ⟨req, changed, (Option.some.inj same).symm⟩

/-- Only the request has changed, not where it is. -/
structure Only (r : Nat) (conn later : Conn) : Prop where
  pending : later.requests_pending = conn.requests_pending
  waiting : later.requests_waiting_ack = conn.requests_waiting_ack
  multi : later.requests_multi = conn.requests_multi
  others : ∀ o ≠ r, later.reqs o = conn.reqs o

theorem Only.refl : Only r conn conn := ⟨rfl, rfl, rfl, fun _ _ => rfl⟩

theorem Only.trans (first : Only r conn mid) (rest : Only r mid later) : Only r conn later :=
  ⟨rest.pending.trans first.pending, rest.waiting.trans first.waiting, rest.multi.trans first.multi,
    fun o other => (rest.others o other).trans (first.others o other)⟩

theorem modify_only {f : Req → Option Req} (done : conn.modify r f = some later) :
    Only r conn later ∧ f (conn.reqs r) = some (later.reqs r) := by
  obtain ⟨req, changed, rfl⟩ := modify_some done
  refine ⟨⟨rfl, rfl, rfl, fun o other => Function.update_of_ne other ..⟩, ?_⟩
  rw [changed]
  dsimp only
  rw [Function.update_self]

theorem completeError_only (done : conn.completeError r nlh = some later) :
    Only r conn later ∧ (later.reqs r).told = (conn.reqs r).told := by
  unfold completeError at done
  dsimp only at done
  split at done
  · obtain ⟨only, put⟩ : Only r conn later ∧ _ := modify_only done
    exact ⟨only, (Req.put_some put).1⟩
  · obtain ⟨mid, completed, left⟩ := Option.bind_eq_some_iff.mp done
    obtain ⟨rest, put⟩ := modify_only left
    obtain ⟨first, complete⟩ := modify_only completed
    exact ⟨first.trans rest, (Req.put_some put).1.trans (Req.complete_some complete).1⟩

/-- `ks_req_complete` and `ks_req_put`. -/
theorem complete_only (done : (conn.modify r (Req.complete 0)).bind (·.modify r Req.put) = some later) :
    Only r conn later ∧ (later.reqs r).told = (conn.reqs r).told ∧ (later.reqs r).err = 0 := by
  obtain ⟨mid, completed, left⟩ := Option.bind_eq_some_iff.mp done
  obtain ⟨rest, put⟩ := modify_only left
  obtain ⟨told, err⟩ := Req.put_some put
  obtain ⟨first, complete⟩ := modify_only completed
  obtain ⟨told', err'⟩ := Req.complete_some complete
  exact ⟨first.trans rest, told.trans told', err.trans err'⟩

/-- The request has taken the octets of the message, if there was memory. -/
def Took (nlh : Nlmsghdr) (memory : Bool) (seq : Nat) (req other : Req) : Prop :=
  other.told = (req.id, seq,
    if memory then (req.response ++ nlh.octets, req.response_payload_size + align nlh.nlmsg_len)
    else (req.response, req.response_payload_size))

theorem append_took {req other : Req} (done : req.append nlh memory = some other) :
    Took nlh memory req.multi_seq req other := by
  cases done
  cases memory <;> rfl

theorem acknowledge_some (done : conn.acknowledge r nlh now memory = some later) :
    if nlh.nlmsg_type = NLMSG_ERROR then
      Only r { conn with requests_waiting_ack := conn.requests_waiting_ack.erase r } later ∧
        (later.reqs r).told = (conn.reqs r).told
    else Took nlh memory (conn.reqs r).multi_seq (conn.reqs r) (later.reqs r) ∧ Only r
      { conn with
        requests_waiting_ack := conn.requests_waiting_ack.erase r
        requests_multi := conn.requests_multi ++ if nlh.multi then [r] else [] } later := by
  unfold acknowledge at done
  dsimp only at done
  split at done
  · cases done
  · split
    · rename_i error
      rw [if_pos error] at done
      exact completeError_only done
    · rename_i fine
      rw [if_neg fine] at done
      obtain ⟨mid, appended, done⟩ := Option.bind_eq_some_iff.mp done
      obtain ⟨first, append⟩ := modify_only appended
      have took := append_took append
      by_cases multi : nlh.multi
      · rw [if_pos multi] at done
        obtain ⟨rest, started⟩ := modify_only done
        refine ⟨(Req.timerStart_some started).trans took, ?_, ?_, ?_, ?_⟩
        · exact rest.pending.trans first.pending
        · exact rest.waiting.trans first.waiting
        · rw [if_pos multi]
          exact rest.multi.trans (congrArg (· ++ [r]) first.multi)
        · exact fun o other => (rest.others o other).trans (first.others o other)
      · rw [if_neg multi] at done
        obtain ⟨rest, told, _⟩ := complete_only done
        refine ⟨told.trans took, ?_⟩
        rw [if_neg multi, List.append_nil]
        exact first.trans rest

/-- The part that comes next, and no error. -/
theorem part_some (next : nlh.nlmsg_seq % 2 ^ 16 = (conn.reqs r).multi_seq) (fine : nlh.nlmsg_type ≠ NLMSG_ERROR)
    (done : conn.part r nlh memory = some later) :
    Took nlh memory ((conn.reqs r).multi_seq + 1) (conn.reqs r) (later.reqs r) ∧
      if nlh.nlmsg_type = NLMSG_DONE then
        Only r { conn with requests_multi := conn.requests_multi.erase r } later ∧ (later.reqs r).err = 0
      else Only r conn later := by
  unfold part at done
  rw [if_neg (not_not.mpr next)] at done
  simp only [Option.bind_eq_bind, Option.bind_some] at done
  rw [if_neg fine] at done
  obtain ⟨mid, appended, done⟩ := Option.bind_eq_some_iff.mp done
  obtain ⟨first, append⟩ := modify_only appended
  obtain ⟨counted, counts, done⟩ := Option.bind_eq_some_iff.mp done
  obtain ⟨second, count⟩ := modify_only counts
  have both : Only r conn counted := first.trans second
  have took : Took nlh memory ((conn.reqs r).multi_seq + 1) (conn.reqs r) (counted.reqs r) := by
    have appended := append_took append
    rw [← Option.some.inj count]
    unfold Took Req.told at appended ⊢
    rw [Prod.mk.injEq, Prod.mk.injEq] at appended ⊢
    exact ⟨appended.1, congrArg (· + 1) appended.2.1, appended.2.2⟩
  split
  · rename_i last
    rw [if_pos last] at done
    obtain ⟨rest, told, err⟩ := complete_only done
    refine ⟨told.trans took, ⟨?_, ?_, ?_, ?_⟩, err⟩
    · exact rest.pending.trans both.pending
    · exact rest.waiting.trans both.waiting
    · exact rest.multi.trans (congrArg (·.erase r) both.multi)
    · exact fun o other => (rest.others o other).trans (both.others o other)
  · rename_i more
    rw [if_neg more] at done
    cases done
    exact ⟨took, both⟩

/-! ## Whose message it is -/

theorem receive_acknowledge (held : conn.Consistent) (ack : nlh.ack = true) (found : conn.acknowledged nlh = some r) :
    conn.receiveUnicast nlh now memory = conn.acknowledge r nlh now memory := by
  have some : conn.requests_waiting_ack ≠ [] := by
    intro none
    rw [acknowledged, none] at found
    cases found
  rw [receiveUnicast, if_pos ack, receiveAcknowledge, if_neg (by simp [held.free]), if_neg some,
    search_eq fun r there => (held.kept_of_waiting there).pos]
  change (conn.requests_waiting_ack.find? _) = _ at found
  simp only [Option.bind_eq_bind, Option.bind_some, found]

theorem receive_part (held : conn.Consistent) (ack : nlh.ack = false) (multi : nlh.multi = true)
    (found : conn.continued nlh = some r) : conn.receiveUnicast nlh now memory = conn.part r nlh memory := by
  rw [receiveUnicast, if_neg (by simp [ack]), if_pos multi, receiveMulti, if_neg (by simp [held.free]),
    search_eq fun r there => (held.kept_of_multi there).pos]
  change (conn.requests_multi.find? _) = _ at found
  simp only [Option.bind_eq_bind, Option.bind_some, found]

/-- A message of one request: nothing else changes, and what it says goes into the
response of the request with its number. -/
structure Touches (conn later : Conn) (r : Nat) (nlh : Nlmsghdr) : Prop where
  number : (conn.reqs r).id / 2 ^ 16 = nlh.nlmsg_seq / 2 ^ 16
  known : r ∈ conn.requests_waiting_ack ∨ r ∈ conn.requests_multi
  others : ∀ o ≠ r, later.reqs o = conn.reqs o
  pending : later.requests_pending = conn.requests_pending
  waiting : ∀ o ≠ r, o ∈ later.requests_waiting_ack ↔ o ∈ conn.requests_waiting_ack
  multi : ∀ o ≠ r, o ∈ later.requests_multi ↔ o ∈ conn.requests_multi
  gone : r ∉ later.requests_waiting_ack
  id : (later.reqs r).id = (conn.reqs r).id
  response : (later.reqs r).response = (conn.reqs r).response ∨
    (later.reqs r).response = (conn.reqs r).response ++ nlh.octets

theorem Took.spec {req other : Req} {seq : Nat} (took : Took nlh memory seq req other) :
    other.id = req.id ∧ other.multi_seq = seq ∧ (other.response, other.response_payload_size) =
      if memory then (req.response ++ nlh.octets, req.response_payload_size + align nlh.nlmsg_len)
      else (req.response, req.response_payload_size) := by
  unfold Took Req.told at took
  rw [Prod.mk.injEq, Prod.mk.injEq] at took
  exact took

theorem Took.response {req other : Req} {seq : Nat} (took : Took nlh memory seq req other) :
    other.response = req.response ∨ other.response = req.response ++ nlh.octets := by
  have response := took.spec.2.2
  cases memory with
  | true => exact .inr (Prod.mk.inj response).1
  | false => exact .inl (Prod.mk.inj response).1

theorem acknowledge_touches (held : conn.Consistent) (there : r ∈ conn.requests_waiting_ack)
    (mine : (conn.reqs r).id = nlh.nlmsg_seq) (done : conn.acknowledge r nlh now memory = some later) :
    Touches conn later r nlh := by
  have spec := acknowledge_some done
  have left : r ∉ conn.requests_waiting_ack.erase r := (held.apart_of_waiting there).2.1
  split at spec
  · obtain ⟨only, told⟩ := spec
    unfold Req.told at told
    simp only [Prod.mk.injEq] at told
    obtain ⟨id, _, response, _⟩ := told
    constructor
    · rw [mine]
    · exact .inl there
    · exact only.others
    · exact only.pending
    · intro o other
      rw [only.waiting]
      exact List.mem_erase_of_ne other
    · intro o other
      rw [only.multi]
    · rw [only.waiting]
      exact left
    · exact id
    · exact .inl response
  · obtain ⟨took, only⟩ := spec
    constructor
    · rw [mine]
    · exact .inl there
    · exact only.others
    · exact only.pending
    · intro o other
      rw [only.waiting]
      exact List.mem_erase_of_ne other
    · intro o other
      rw [only.multi]
      dsimp only
      split
      · simp [other]
      · simp
    · rw [only.waiting]
      exact left
    · exact took.spec.1
    · exact took.response

theorem part_touches (held : conn.Consistent) (there : r ∈ conn.requests_multi)
    (mine : (conn.reqs r).id / 2 ^ 16 = nlh.nlmsg_seq / 2 ^ 16)
    (next : nlh.nlmsg_seq % 2 ^ 16 = (conn.reqs r).multi_seq) (fine : nlh.nlmsg_type ≠ NLMSG_ERROR)
    (done : conn.part r nlh memory = some later) : Touches conn later r nlh := by
  obtain ⟨took, spec⟩ := part_some next fine done
  have left : r ∉ conn.requests_waiting_ack := (held.apart_of_multi there).2.1
  split at spec
  · obtain ⟨only, _⟩ := spec
    constructor
    · exact mine
    · exact .inr there
    · exact only.others
    · exact only.pending
    · intro o other
      rw [only.waiting]
    · intro o other
      rw [only.multi]
      exact List.mem_erase_of_ne other
    · rw [only.waiting]
      exact left
    · exact took.spec.1
    · exact took.response
  · constructor
    · exact mine
    · exact .inr there
    · exact spec.others
    · exact spec.pending
    · intro o other
      rw [spec.waiting]
    · intro o other
      rw [spec.multi]
    · rw [spec.waiting]
      exact left
    · exact took.spec.1
    · exact took.response

/-- A message that comes in order is of nobody, or of the request with its number. -/
theorem receive_touches (held : conn.Consistent) (orderly : conn.Orderly nlh)
    (done : conn.receiveUnicast nlh now memory = some later) : later = conn ∨ ∃ r, Touches conn later r nlh := by
  cases ack : nlh.ack with
  | true =>
    cases found : conn.acknowledged nlh with
    | none =>
      left
      rw [Orderly, if_pos ack, found] at orderly
      have idle := orderly.resolve_right (by simp)
      rw [receiveUnicast, if_pos ack, receiveAcknowledge, if_neg (by simp [held.free]), if_pos idle] at done
      exact (Option.some.inj done).symm
    | some r =>
      right
      rw [receive_acknowledge held ack found] at done
      have mine := List.find?_some found
      exact ⟨r, acknowledge_touches held (List.mem_of_find?_eq_some found) (of_decide_eq_true mine) done⟩
  | false =>
    cases multi : nlh.multi with
    | false =>
      left
      rw [receiveUnicast, if_neg (by simp [ack]), if_neg (by simp [multi])] at done
      exact (Option.some.inj done).symm
    | true =>
      cases found : conn.continued nlh with
      | none =>
        left
        rw [receiveUnicast, if_neg (by simp [ack]), if_pos multi, receiveMulti, if_neg (by simp [held.free]),
          search_eq fun r there => (held.kept_of_multi there).pos] at done
        change (conn.requests_multi.find? _) = _ at found
        simp only [Option.bind_eq_bind, Option.bind_some, found, Option.some.injEq] at done
        exact done.symm
      | some r =>
        right
        rw [Orderly, if_neg (by simp [ack])] at orderly
        obtain ⟨next, fine⟩ := orderly multi r found
        rw [receive_part held ack multi found] at done
        have mine := List.find?_some found
        exact ⟨r, part_touches held (List.mem_of_find?_eq_some found) (of_decide_eq_true mine) next fine done⟩

end Conn
end Vstuff.Libkstreamer
