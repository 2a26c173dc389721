import Vstuff.Kstreamer.Retry
import Vstuff.Libkstreamer.Conn

/-! `ks_conn_send_requests` (`conn.c`): the requests that wait go out in packets of as many as a buffer
has room for. -/
namespace Vstuff.Libkstreamer
open Kstreamer
set_option linter.all false

/-- A request that waits, and the octets of its attributes if there are any. -/
structure Waiting where
  id : Nat
  skb : Option (List UInt8)
  deriving DecidableEq, Repr

/-- The buffer, if there is one, and the packets that have been sent. -/
structure Sending where
  skb : Option (List Waiting)
  sent : List (List Waiting)

namespace Sending

/-- The requests in the buffer. -/
def buffered (s : Sending) : List Waiting := s.skb.getD []

/-- The octets of a packet, with the headers of its requests. -/
def size (packet : List Waiting) : Nat := (packet.map fun req => 16 + req.skb.elim 0 List.length).sum

/-- A request behind the others, in a buffer that is new where there is none. -/
def put (req : Waiting) (s : Sending) : Option Sending :=
  (Conn.room (size s.buffered) (req.skb.map List.length)).map fun _ => { s with skb := some (s.buffered ++ [req]) }

/-- The buffer is sent as it is. -/
def sendmsg (s : Sending) : Sending where
  skb := none
  sent := s.sent ++ [s.buffered]

/-- At the end it is sent unless it is empty. -/
def finish (s : Sending) : List (List Waiting) := if s.buffered = [] then s.sent else s.sent ++ [s.buffered]

/-- All requests that have been taken. -/
def taken (s : Sending) : List Waiting := s.sent.flatten ++ s.buffered

end Sending

/-- `ks_conn_send_requests`: the packets it sends. -/
def sendRequests (requests_pending : List Waiting) (fuel : Nat) : Option (List (List Waiting)) :=
  (retryEach Sending.put Sending.sendmsg fuel requests_pending { skb := none, sent := [] }).map Sending.finish

/-- There are no attributes, or fewer octets of them than a new buffer has room for. -/
def Waiting.Small (req : Waiting) : Prop := ∀ octets ∈ req.skb, octets.length < 4080

namespace Sending
variable {req : Waiting} {s t : Sending}

theorem put_eq (req : Waiting) (s : Sending) : (put req s).isSome ↔ size s.buffered + 16 ≤ 4096 ∧
    ∀ octets ∈ req.skb, octets.length < 4096 - (size s.buffered + 16) := by
  unfold put Conn.room
  rw [Option.isSome_map]
  by_cases full : 4096 < size s.buffered + 16
  · rw [if_pos full]
    refine iff_of_false (by simp) fun fits => ?_
    omega
  · rw [if_neg full, and_iff_right (by omega)]
    cases req.skb with
    | none => simp
    | some octets =>
      simp only [Option.map_some, Option.mem_def, Option.some.injEq, forall_eq']
      split
      · exact iff_of_false (by simp) (by omega)
      · exact iff_of_true rfl (by omega)

theorem put_some (wrote : put req s = some t) : t = { s with skb := some (s.buffered ++ [req]) } := by
  obtain ⟨used, -, rfl⟩ := Option.map_eq_some_iff.mp wrote
  rfl

/-- Into a new buffer goes what is small. -/
theorem put_empty_iff (empty : s.buffered = []) : (put req s).isSome ↔ req.Small := by
  rw [put_eq, empty]
  exact and_iff_right (by decide)

theorem put_decided (req : Waiting) : Decided (fun _ => True) (put req) sendmsg req.Small where
  wrote _ _ _ _ := trivial
  renew _ _ := trivial
  renewed small s _ := Option.isSome_iff_exists.mp ((put_empty_iff rfl).mpr small)
  never large s _ := by
    refine Option.not_isSome_iff_eq_none.mp fun wrote => large fun octets there => ?_
    have fits := ((put_eq req s).mp wrote).2 octets there
    omega

/-- Each request taken is in a packet or in the buffer, in order, and no packet is empty. -/
structure Keeps (before : List Waiting) (s : Sending) : Prop where
  all : s.taken = before
  some : [] ∉ s.sent

theorem put_keeps {before : List Waiting} (keeps : Keeps before s) (wrote : put req s = .some t) : Keeps (before ++ [req]) t := by
  obtain rfl := put_some wrote
  refine ⟨?_, keeps.some⟩
  rw [← keeps.all, taken, taken, List.append_assoc]
  rfl

theorem sendmsg_keeps {before : List Waiting} (small : req.Small) (keeps : Keeps before s) (full : put req s = none) : Keeps before s.sendmsg := by
  have some_request : s.buffered ≠ [] := by
    intro empty
    have fits := (put_empty_iff empty).mpr small
    rw [full] at fits
    cases fits
  refine ⟨?_, fun member => ?_⟩
  · rw [← keeps.all, taken, taken, sendmsg, List.flatten_append, List.flatten_singleton]
    exact List.append_nil _
  · obtain old | new := List.mem_append.mp member
    · exact keeps.some old
    · exact some_request (List.mem_singleton.mp new).symm

theorem finish_keeps {before : List Waiting} (keeps : Keeps before s) : s.finish.flatten = before ∧ [] ∉ s.finish := by
  unfold finish
  rw [← keeps.all, taken]
  split
  · next empty =>
    rw [empty, List.append_nil]
    exact ⟨rfl, keeps.some⟩
  · next some_request =>
    rw [List.flatten_append, List.flatten_singleton]
    refine ⟨rfl, fun member => ?_⟩
    obtain old | new := List.mem_append.mp member
    · exact keeps.some old
    · exact some_request (List.mem_singleton.mp new).symm

end Sending

theorem sendRequests_ends_iff (requests_pending : List Waiting) :
    (∃ fuel packets, sendRequests requests_pending fuel = some packets ∧ packets.flatten = requests_pending ∧ [] ∉ packets) ↔
      ∀ req ∈ requests_pending, req.Small := by
  have each := retryEach_ends_iff Sending.put_decided requests_pending (s := { skb := none, sent := [] }) trivial
  constructor
  · rintro ⟨fuel, packets, ended, -⟩
    obtain ⟨s, is, -⟩ := Option.map_eq_some_iff.mp ended
    exact each.mp ⟨fuel, s, is⟩
  · intro small
    obtain ⟨fuel, s, is⟩ := each.mpr small
    have keeps : Sending.Keeps ([] ++ requests_pending) s :=
      retryEach_keeps (fun _ _ _ _ _ keeps wrote => Sending.put_keeps keeps wrote)
        (fun _ small _ _ keeps full => Sending.sendmsg_keeps small keeps full) small ⟨rfl, List.not_mem_nil⟩ is
    obtain ⟨all, none_empty⟩ := Sending.finish_keeps keeps
    exact ⟨fuel, s.finish, by rw [sendRequests, is]; rfl, all, none_empty⟩

/-- The loops come to an end, those of the module for an object and for the pipelines there are, and the
one of the library with each request in one packet, in order, and with no packet empty. -/
structure LoopsEnd (object : Reported) (message_type : Nat) (pipelines : List Reported) (nlh : Kstreamer.Nlmsghdr) (state : Mcast) (out : Out)
    (requests_pending : List Waiting) : Prop where
  mcast : ∃ fuel later, mcastSend out.room object message_type fuel state = some later
  respond : ∃ fuel later, netlinkRespond object nlh message_type fuel out = some later
  get : ∃ fuel later, pipelineCmdGet pipelines nlh fuel out = some later
  send : ∃ fuel packets, sendRequests requests_pending fuel = some packets ∧ packets.flatten = requests_pending ∧ [] ∉ packets

/-- They do so where each message is no longer than a new buffer. -/
theorem loops_end_iff (object : Reported) (message_type : Nat) (pipelines : List Reported) (nlh : Kstreamer.Nlmsghdr) (state : Mcast) (out : Out)
    (requests_pending : List Waiting) :
    LoopsEnd object message_type pipelines nlh state out requests_pending ↔
      Writable out.room (object.attrs message_type) ∧
        (∀ pipeline ∈ pipelines, Writable out.room (pipeline.attrs KS_NETLINK_PIPELINE_NEW)) ∧ ∀ req ∈ requests_pending, req.Small := by
  have mcast := mcastSend_ends_iff out.room object message_type state
  have respond := netlinkRespond_ends_iff object nlh message_type out
  have get := pipelineCmdGet_ends_iff pipelines nlh out
  have send := sendRequests_ends_iff requests_pending
  constructor
  · intro ends
    exact ⟨mcast.mp ends.mcast, get.mp ends.get, send.mp ends.send⟩
  · rintro ⟨writable, all, small⟩
    exact ⟨mcast.mpr writable, respond.mpr writable, get.mpr all, send.mpr small⟩

/-- A pipeline of two channels. -/
def twoChannels : Reported := .pipeline 1 2 [[112]] (fun _ => 0) [3, 4]

/-- A buffer for messages, with nothing in it. -/
def goodsize : Out where
  room := 3776
  small := Out.goodsize_small

theorem short_messages_end : LoopsEnd twoChannels KS_NETLINK_PIPELINE_NEW [twoChannels] { nlmsg_pid := 7, nlmsg_type := KS_NETLINK_PIPELINE_GET }
    { mcast_skb := [], mcast_queue := [], mcast_seqnum := 0 } goodsize [⟨1, none⟩, ⟨2, some (List.replicate 4079 0)⟩] := by
  refine (loops_end_iff ..).mpr ⟨by decide, by decide, fun req member octets there => ?_⟩
  simp only [List.mem_cons, List.not_mem_nil, or_false] at member
  obtain rfl | rfl := member
  · cases there
  · cases there
    rw [List.length_replicate]
    decide

/-- With 4080 octets a request has no room in any buffer. -/
theorem long_request_never_ends : ¬∀ (object : Reported) (message_type : Nat) (pipelines : List Reported) (nlh : Kstreamer.Nlmsghdr) (state : Mcast)
    (out : Out) (requests_pending : List Waiting), LoopsEnd object message_type pipelines nlh state out requests_pending := by
  intro claim
  obtain ⟨-, -, small⟩ := (loops_end_iff ..).mp (claim twoChannels KS_NETLINK_PIPELINE_NEW [] { nlmsg_pid := 7, nlmsg_type := KS_NETLINK_PIPELINE_GET }
    { mcast_skb := [], mcast_queue := [], mcast_seqnum := 0 } goodsize [⟨1, some (List.replicate 4080 0)⟩])
  have below := small _ (List.mem_singleton_self _) _ rfl
  rw [List.length_replicate] at below
  exact absurd below (by decide)

end Vstuff.Libkstreamer
