import Vstuff.Lib.Machine
import Vstuff.Kstreamer.Handlers

/-! The requests of a connection of libkstreamer: callers queue them, and the
protocol thread sends them, reads what the kernel answers, and runs their
timers. -/
namespace Vstuff.Libkstreamer
open Kstreamer (align ENOMEM NLMSG_ERROR NLMSG_DONE)
set_option linter.all false

def EIO : Int := 5
def ETIMEDOUT : Int := 110

/-- 5 * SEC -/
def timeout : Nat := 5000000

/-- A message of the kernel, with the word behind its header. -/
structure Nlmsghdr where
  nlmsg_type : Nat
  /-- NLM_F_ACK -/
  ack : Bool
  /-- NLM_F_MULTI -/
  multi : Bool
  nlmsg_seq : Nat
  nlmsg_len : Nat := 16
  code : Nat := 0
  /-- Its octets, as many as `NLMSG_ALIGN` of its length. -/
  octets : List UInt8 := []
  deriving Repr, DecidableEq

/-- Minus the code of an error message, as an int. -/
def Nlmsghdr.err (nlh : Nlmsghdr) : Int := (-(nlh.code : Int)).bmod (2 ^ 32)

/-- The payload is too short for a code. -/
def Nlmsghdr.malformed (nlh : Nlmsghdr) : Bool := nlh.nlmsg_len - 16 < 4

structure Req where
  id : Nat := 0
  multi_seq : Nat := 1
  refcnt : Nat := 0
  completed : Bool := false
  err : Int := 0
  /-- timer.pending -/
  pending : Bool := false
  /-- timer.expires -/
  expires : Nat := 0
  /-- The length of the attributes to be sent. -/
  skb : Option Nat := none
  /-- There are octets of a response. -/
  response_payload : Bool := false
  response_payload_size : Nat := 0
  /-- The octets of the response, unless a realloc failed. -/
  response : List UInt8 := []
  /-- The caller has put its reference. -/
  released : Bool := false
  /-- What `ks_req_complete` was called with. -/
  results : List Int := []
  deriving Repr, DecidableEq

namespace Req

/-- ks_req_alloc, and the attributes that the caller puts into it. -/
def alloc (skb : Option Nat) : Req := { refcnt := 1, skb := skb }

/-- A request may be looked at: the last put has not freed it. -/
def alive (req : Req) : Option Req := if req.refcnt = 0 then none else some req

/-- ks_req_get -/
def get (req : Req) : Option Req := req.alive.map fun req => { req with refcnt := req.refcnt + 1 }

/-- ks_req_put -/
def put (req : Req) : Option Req := req.alive.map fun req => { req with refcnt := req.refcnt - 1 }

/-- `ks_timer_start` on the timer of a request: the timer has a reference while it
is pending. -/
def timerStart (expires : Nat) (req : Req) : Option Req :=
  if req.pending ∧ req.expires = expires then some req
  else do
    let req ← if req.pending then req.put else some req
    { req with pending := true, expires := expires }.get

/-- ks_timer_stop -/
def timerStop (req : Req) : Option Req :=
  if req.pending then { req with pending := false }.put else some req

/-- ks_req_complete -/
def complete (err : Int) (req : Req) : Option Req := do
  let req ← { req with err := err }.timerStop
  let req ← req.alive
  some { req with completed := true, results := req.results ++ [err] }

/-- `ks_timerset_run` on a timer that has expired. -/
def fired (req : Req) : Option Req := do
  let req ← { req with pending := false }.complete (-ETIMEDOUT)
  req.put

/-- `ks_req_resp_append_payload`; `memory` is whether realloc finds room. -/
def append (nlh : Nlmsghdr) (memory : Bool) (req : Req) : Option Req :=
  some
    (if memory then
      { req with
        response_payload := true
        response_payload_size := req.response_payload_size + align nlh.nlmsg_len
        response := req.response ++ nlh.octets }
    else { req with response_payload := false })

end Req

/-- A connection; requests are numbered as they are queued. -/
structure Conn where
  seqnum : Nat := 0xF1CA
  requests_lock : Bool := false
  requests_pending : List Nat := []
  requests_waiting_ack : List Nat := []
  requests_multi : List Nat := []
  reqs : Nat → Req := fun _ => {}
  next : Nat := 0

namespace Conn

/-- Something is done to a request. -/
def modify (conn : Conn) (r : Nat) (f : Req → Option Req) : Option Conn := do
  let req ← (conn.reqs r).alive
  let req ← f req
  some { conn with reqs := Function.update conn.reqs r req }

/-- `ks_conn_queue_request` for a new request. -/
def queueRequest (conn : Conn) (req : Req) : Option Conn :=
  if conn.requests_lock then none
  else do
    let req ← { req with id := conn.seqnum * 2 ^ 16 % 2 ^ 32 }.get
    some { conn with
      seqnum := conn.seqnum + 1
      requests_pending := conn.requests_pending ++ [conn.next]
      reqs := Function.update conn.reqs conn.next req
      next := conn.next + 1 }

/-- The first request of a list with the property. -/
def search (conn : Conn) (p : Req → Bool) : List Nat → Option (Option Nat)
  | [] => some none
  | r :: rs => do
    let req ← (conn.reqs r).alive
    if p req then some (some r) else conn.search p rs

/-- The code of an error message completes a request, if it is there. -/
def completeError (conn : Conn) (r : Nat) (nlh : Nlmsghdr) : Option Conn := do
  let conn ← if nlh.malformed then some conn else conn.modify r (Req.complete nlh.err)
  conn.modify r Req.put

/-- What `ks_conn_receive_acknowledge` does with the request it has found. -/
def acknowledge (conn : Conn) (r : Nat) (nlh : Nlmsghdr) (now : Nat) (memory : Bool) : Option Conn :=
  let req := conn.reqs r
  let conn := { conn with requests_waiting_ack := conn.requests_waiting_ack.erase r }
  if req.response_payload ∨ req.response_payload_size ≠ 0 then none
  else if nlh.nlmsg_type = NLMSG_ERROR then conn.completeError r nlh
  else do
    let conn ← conn.modify r (Req.append nlh memory)
    if nlh.multi then
      ({ conn with requests_multi := conn.requests_multi ++ [r] } : Conn).modify r (Req.timerStart (now + timeout))
    else do
      let conn ← conn.modify r (Req.complete 0)
      conn.modify r Req.put

/-- `ks_conn_receive_acknowledge`; the lock is not given back if no request has the
number. -/
def receiveAcknowledge (conn : Conn) (nlh : Nlmsghdr) (now : Nat) (memory : Bool) : Option Conn :=
  if conn.requests_lock then none
  else if conn.requests_waiting_ack = [] then some conn
  else do
    match ← conn.search (fun req => req.id = nlh.nlmsg_seq) conn.requests_waiting_ack with
    | none => some { conn with requests_lock := true }
    | some r => conn.acknowledge r nlh now memory

/-- What `ks_conn_receive_multi` does with the request it has found. -/
def part (conn : Conn) (r : Nat) (nlh : Nlmsghdr) (memory : Bool) : Option Conn := do
  let conn ←
    if nlh.nlmsg_seq % 2 ^ 16 ≠ (conn.reqs r).multi_seq then conn.modify r (Req.complete (- EIO)) else some conn
  if nlh.nlmsg_type = NLMSG_ERROR then conn.completeError r nlh
  else do
    let conn ← conn.modify r (Req.append nlh memory)
    let conn ← conn.modify r fun req => some { req with multi_seq := req.multi_seq + 1 }
    if nlh.nlmsg_type = NLMSG_DONE then do
      let conn ← { conn with requests_multi := conn.requests_multi.erase r }.modify r (Req.complete 0)
      conn.modify r Req.put
    else some conn

/-- ks_conn_receive_multi -/
def receiveMulti (conn : Conn) (nlh : Nlmsghdr) (memory : Bool) : Option Conn :=
  if conn.requests_lock then none
  else do
    match ← conn.search (fun req => req.id / 2 ^ 16 = nlh.nlmsg_seq / 2 ^ 16) conn.requests_multi with
    | none => some conn
    | some r => conn.part r nlh memory

/-- ks_conn_receive_unicast -/
def receiveUnicast (conn : Conn) (nlh : Nlmsghdr) (now : Nat) (memory : Bool) : Option Conn :=
  if nlh.ack then conn.receiveAcknowledge nlh now memory
  else if nlh.multi then conn.receiveMulti nlh memory
  else some conn

/-- A header, and what is to be sent, behind the octets of a buffer: its new
length if there is room. -/
def room (used : Nat) (skb : Option Nat) : Option Nat :=
  if 4096 < used + 16 then none
  else
    match skb with
    | none => some (used + 16)
    | some len => if 4096 - (used + 16) ≤ len then none else some (used + 16 + len)

/-- New buffers, until there is one with room or no memory; `allocs` are the
answers of alloc_skb in turn, and without answers left there is no end yet. -/
def renew (skb : Option Nat) : List Bool → Option (Option Nat × List Bool)
  | [] => none
  | false :: allocs => some (none, allocs)
  | true :: allocs =>
    match room 0 skb with
    | some used => some (some used, allocs)
    | none => renew skb allocs

/-- The turns that `ks_conn_send_requests` takes to put a request into a buffer:
how much of it is used then. -/
def place (skb : Option Nat) (used : Option Nat) (allocs : List Bool) : Option (Option Nat × List Bool) :=
  match used.bind (room · skb) with
  | some used => some (some used, allocs)
  | none => renew skb allocs

/-- The loop of `ks_conn_send_requests`; without memory it is left with the lock. -/
def send (now : Nat → Nat) (conn : Conn) (used : Option Nat) (allocs : List Bool) : List Nat → Option Conn
  | [] => some conn
  | r :: rs => do
    let req ← (conn.reqs r).alive
    match ← place req.skb used allocs with
    | (none, _) => some { conn with requests_lock := true }
    | (some used, allocs) => do
      let conn := { conn with
        requests_pending := conn.requests_pending.erase r
        requests_waiting_ack := conn.requests_waiting_ack ++ [r] }
      let conn ← conn.modify r (Req.timerStart (now r + timeout))
      send now conn (some used) allocs rs

/-- ks_conn_send_requests -/
def sendRequests (conn : Conn) (now : Nat → Nat) (allocs : List Bool) : Option Conn :=
  if conn.requests_lock then none else send now conn none allocs conn.requests_pending

end Conn

/-- What happens on a connection: a caller queues a request or puts the one it has,
and the turns of the protocol thread. -/
inductive Event where
  | queue (skb : Option Nat)
  | release (r : Nat)
  | send (now : Nat → Nat) (allocs : List Bool)
  | expire (r : Nat)
  | receive (nlh : Nlmsghdr) (now : Nat) (memory : Bool)

def step (conn : Conn) : Event → Option Conn
  | .queue skb => conn.queueRequest (Req.alloc skb)
  | .release r =>
    if r < conn.next ∧ ¬ (conn.reqs r).released then
      conn.modify r fun req => { req with released := true }.put
    else none
  | .send now allocs => conn.sendRequests now allocs
  | .expire r => if (conn.reqs r).pending then conn.modify r Req.fired else none
  | .receive nlh now memory => conn.receiveUnicast nlh now memory

end Vstuff.Libkstreamer
