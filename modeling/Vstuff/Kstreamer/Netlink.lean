import Vstuff.Lib.Machine
import Mathlib.Algebra.GroupWithZero.Nat

/-! The netlink front end of the streaming core: requests arrive in packets,
each request is handled under the topology lock, and a packet whose next
request finds the lock held by somebody else waits in the backlog. A packet is
looked at one message at a time, so that the lock timer and the kernel's own
topology sections can come between any two of them. Buffers are always
allocated, and a datagram that is handed to the socket is not lost there. -/
namespace Vstuff.Kstreamer
set_option linter.all false

/-- A message written to the sender of a request. -/
structure Reply where
  pid : Nat
  seq : Nat
  kind : Nat
  error : Option Int := none
  deriving Repr, DecidableEq

/-- What the handler of an object request writes: a response to the sender, or
a notice to the topology group, each with whether the buffer has room for it. -/
inductive Write where
  | response (kind : Nat) (seq : Nat) (fits : Bool)
  | mcast (fits : Bool)
  deriving Repr, DecidableEq

/-- struct nlmsghdr. What the handlers of the object requests do depends on
the objects: `writes` is what they write and `err` what they return. `fits`
tells whether there is room for the acknowledgement or the error. -/
structure Nlmsghdr where
  nlmsg_pid : Nat
  nlmsg_seq : Nat := 0
  nlmsg_type : Nat
  /-- NLM_F_REQUEST -/
  request : Bool := true
  fits : Bool := true
  writes : List Write := []
  err : Int := 0
  deriving Repr, DecidableEq

/-- The handlers of `ks_commands`; those of the object requests that are
implemented share the last one. -/
inductive Command where
  | done | noop | version | topologyLock | topologyTrylock | topologyUnlock | notImplemented | object
  deriving Repr, DecidableEq

def NLMSG_NOOP : Nat := 1
def NLMSG_ERROR : Nat := 2
def NLMSG_DONE : Nat := 3
def KS_NETLINK_VERSION : Nat := 16
def KS_NETLINK_TOPOLOGY_LOCK : Nat := 17
def KS_NETLINK_TOPOLOGY_TRYLOCK : Nat := 18
def KS_NETLINK_TOPOLOGY_UNLOCK : Nat := 19
def KS_NETLINK_FEATURE_NEW : Nat := 32
def KS_NETLINK_FEATURE_DEL : Nat := 33
def KS_NETLINK_FEATURE_GET : Nat := 34
def KS_NETLINK_FEATURE_SET : Nat := 35
def KS_NETLINK_NODE_NEW : Nat := 36
def KS_NETLINK_NODE_DEL : Nat := 37
def KS_NETLINK_NODE_GET : Nat := 38
def KS_NETLINK_NODE_SET : Nat := 39
def KS_NETLINK_CHAN_NEW : Nat := 40
def KS_NETLINK_CHAN_DEL : Nat := 41
def KS_NETLINK_CHAN_GET : Nat := 42
def KS_NETLINK_CHAN_SET : Nat := 43
def KS_NETLINK_PIPELINE_NEW : Nat := 44
def KS_NETLINK_PIPELINE_DEL : Nat := 45
def KS_NETLINK_PIPELINE_GET : Nat := 46
def KS_NETLINK_PIPELINE_SET : Nat := 47

/-- ks_commands -/
def ksCommands : List (Nat × Command) :=
  [(NLMSG_DONE, .done),
   (NLMSG_NOOP, .noop),
   (KS_NETLINK_VERSION, .version),
   (KS_NETLINK_TOPOLOGY_LOCK, .topologyLock),
   (KS_NETLINK_TOPOLOGY_TRYLOCK, .topologyTrylock),
   (KS_NETLINK_TOPOLOGY_UNLOCK, .topologyUnlock),
   (KS_NETLINK_FEATURE_NEW, .notImplemented),
   (KS_NETLINK_FEATURE_DEL, .notImplemented),
   (KS_NETLINK_FEATURE_GET, .object),
   (KS_NETLINK_FEATURE_SET, .notImplemented),
   (KS_NETLINK_NODE_NEW, .notImplemented),
   (KS_NETLINK_NODE_DEL, .notImplemented),
   (KS_NETLINK_NODE_GET, .object),
   (KS_NETLINK_NODE_SET, .notImplemented),
   (KS_NETLINK_CHAN_NEW, .notImplemented),
   (KS_NETLINK_CHAN_DEL, .notImplemented),
   (KS_NETLINK_CHAN_GET, .object),
   (KS_NETLINK_CHAN_SET, .object),
   (KS_NETLINK_PIPELINE_NEW, .object),
   (KS_NETLINK_PIPELINE_DEL, .object),
   (KS_NETLINK_PIPELINE_GET, .object),
   (KS_NETLINK_PIPELINE_SET, .object)]

namespace Nlmsghdr

/-- The search of `ks_netlink_rcv_msg` through the commands. -/
def command (nlh : Nlmsghdr) : Option Command := ksCommands.lookup nlh.nlmsg_type

/-- Some handler is there for the message. -/
def served (nlh : Nlmsghdr) : Bool := nlh.request && nlh.command.isSome

end Nlmsghdr

def EAGAIN : Int := 11
def EBUSY : Int := 16
def EINVAL : Int := 22
def ENOENT : Int := 2

/-- A packet of which the messages before `rest` have been pulled off. -/
structure Packet where
  id : Nat
  rest : List Nlmsghdr
  deriving Repr, DecidableEq

/-- A pass of `ks_netlink_process_backlog`: the packet that ends it, and
whether it has got rid of one. -/
structure Pass where
  tail : Nat
  processed : Bool
  deriving Repr, DecidableEq

/-- The packet the receive path is in, taken from the socket or, in a pass,
from the backlog. -/
structure Work where
  packet : Packet
  pass : Option Pass := none
  deriving Repr, DecidableEq

/-- A request that a handler ran for, and who owned the lock then. -/
structure Handled where
  packet : Nat
  nlh : Nlmsghdr
  owner : Nat
  deriving Repr, DecidableEq

/-- Requests of the owner of the lock, since it became the owner. -/
inductive Held where
  | locked | unlocked
  deriving Repr, DecidableEq

/-- struct ks_netlink_state with the backlog and the receive path; pids are
those of netlink, 0 is none. The last group of fields only records what
happened. -/
structure NetlinkState where
  out_skb : Option (List Reply) := none
  cur_pid : Nat := 0
  cur_seq : Nat := 0
  lock_owner : Nat := 0
  lock_depth : Int := 0
  lock_timer : Bool := false
  mcast_seqnum : Nat := 0xBEEF
  mcast_skb : Option (List Nat) := none
  mcast_queue : List (List Nat) := []
  backlog : List Packet := []
  work : Option Work := none
  /-- A BUG_ON was hit: nothing happens any more. -/
  bug : Bool := false
  /-- The packets handed over so far; a packet's id is its place among them. -/
  arrived : List (List Nlmsghdr) := []
  handled : List Handled := []
  /-- The owner that each kernel-side section found. -/
  sections : List Nat := []
  held : List Held := []
  /-- The replies, each with the pid of the request it answers. -/
  written : List (Nat × Reply) := []
  /-- The datagrams sent, each with the pid it went to. -/
  unicasts : List (Nat × List Reply) := []
  broadcasts : List (List Nat) := []
  deriving Repr, DecidableEq

/-- A C int that went over its range. -/
def wrap (x : Int) : Int := x.bmod (2 ^ 32)

namespace NetlinkState

/-- ks_netlink_need_skb -/
def needSkb (state : NetlinkState) : NetlinkState :=
  if state.out_skb.isNone then { state with out_skb := some [] } else state

/-- ks_netlink_flush -/
def flush (state : NetlinkState) : NetlinkState :=
  match state.out_skb with
  | none => state
  | some [] => { state with out_skb := none }
  | some replies => { state with out_skb := none, unicasts := state.unicasts ++ [(state.cur_pid, replies)] }

/-- NLMSG_PUT into the reply buffer, with the retry when it is full. -/
def put (state : NetlinkState) (nlh : Nlmsghdr) (reply : Reply) (fits : Bool) : NetlinkState :=
  let state := if fits then state.needSkb else state.needSkb.flush.needSkb
  { state with
    out_skb := state.out_skb.map (· ++ [reply])
    written := state.written ++ [(nlh.nlmsg_pid, reply)] }

/-- ks_netlink_mcast_need_skb -/
def mcastNeedSkb (state : NetlinkState) : NetlinkState :=
  if state.mcast_skb.isNone then { state with mcast_skb := some [] } else state

/-- ks_netlink_mcast_need_another_skb -/
def mcastNeedAnotherSkb (state : NetlinkState) : NetlinkState :=
  match state.mcast_skb with
  | none => state.mcastNeedSkb
  | some skb => { state with mcast_queue := state.mcast_queue ++ [skb], mcast_skb := none }.mcastNeedSkb

/-- A message to the topology group, as `ks_pipeline_mcast_send` and its
siblings write it. -/
def mcastSend (state : NetlinkState) (fits : Bool) : NetlinkState :=
  let state := state.mcastNeedSkb
  let state := if fits then state
    else { state with mcast_seqnum := state.mcast_seqnum + 1 }.mcastNeedAnotherSkb
  { state with
    mcast_skb := state.mcast_skb.map (· ++ [state.mcast_seqnum])
    mcast_seqnum := state.mcast_seqnum + 1 }

/-- ks_netlink_mcast_flush -/
def mcastFlush (state : NetlinkState) : NetlinkState :=
  if state.lock_owner ≠ 0 then state
  else
    { state with
      mcast_queue := []
      mcast_skb := none
      broadcasts := state.broadcasts ++ state.mcast_queue ++
        match state.mcast_skb with
        | none => []
        | some [] => []
        | some skb => [skb] }

/-- ks_netlink_send_ack -/
def sendAck (state : NetlinkState) (nlh : Nlmsghdr) : NetlinkState :=
  state.put nlh { pid := nlh.nlmsg_pid, seq := nlh.nlmsg_seq, kind := nlh.nlmsg_type } nlh.fits

/-- ks_netlink_send_error -/
def sendError (state : NetlinkState) (nlh : Nlmsghdr) (error : Int) : NetlinkState :=
  state.put nlh { pid := nlh.nlmsg_pid, seq := nlh.nlmsg_seq, kind := NLMSG_ERROR, error := some (-error) } nlh.fits

/-- ks_cmd_version_request -/
def cmdVersionRequest (state : NetlinkState) (nlh : Nlmsghdr) : NetlinkState :=
  state.put nlh { pid := state.cur_pid, seq := state.cur_seq, kind := KS_NETLINK_VERSION } nlh.fits

/-- ks_do_lock; `none` is its BUG_ON. -/
def doLock (state : NetlinkState) (nlh : Nlmsghdr) : Option NetlinkState :=
  if state.lock_owner = 0 then
    if state.lock_depth ≠ 0 then none
    else
      let state : NetlinkState := { state with
        lock_owner := nlh.nlmsg_pid
        lock_depth := wrap (state.lock_depth + 1)
        held := [.locked] }
      some { state.mcastFlush with lock_timer := true }
  else some { state with lock_depth := wrap (state.lock_depth + 1), held := state.held ++ [.locked] }

/-- ks_cmd_topology_lock -/
def cmdTopologyLock (state : NetlinkState) (nlh : Nlmsghdr) : Option (NetlinkState × Int) :=
  if state.lock_owner ≠ 0 ∧ state.lock_owner ≠ nlh.nlmsg_pid then none
  else if nlh.nlmsg_pid = 0 then none
  else (state.doLock nlh).map fun state => (state.sendAck nlh, 0)

/-- ks_cmd_topology_trylock -/
def cmdTopologyTrylock (state : NetlinkState) (nlh : Nlmsghdr) : Option (NetlinkState × Int) :=
  if nlh.nlmsg_pid = 0 then none
  else if state.lock_owner ≠ 0 ∧ state.lock_owner ≠ nlh.nlmsg_pid then some (state, -EBUSY)
  else (state.doLock nlh).map fun state => (state.sendAck nlh, 0)

/-- ks_cmd_topology_unlock -/
def cmdTopologyUnlock (state : NetlinkState) (nlh : Nlmsghdr) : NetlinkState × Int :=
  if state.lock_owner = 0 then (state, -ENOENT)
  else if state.lock_owner ≠ nlh.nlmsg_pid then (state, -EINVAL)
  else
    let state : NetlinkState :=
      { state with lock_depth := wrap (state.lock_depth - 1), held := state.held ++ [.unlocked] }
    if state.lock_depth = 0 then
      let state : NetlinkState := { state with lock_owner := 0, lock_timer := false, held := [] }
      ((state.sendAck nlh).mcastFlush, 0)
    else (state.sendAck nlh, 0)

/-- What an object handler writes. -/
def write (nlh : Nlmsghdr) (state : NetlinkState) : Write → NetlinkState
  | .response kind seq fits => state.put nlh { pid := nlh.nlmsg_pid, seq := seq, kind := kind } fits
  | .mcast fits => state.mcastSend fits

/-- cmd->handler -/
def handler (state : NetlinkState) (nlh : Nlmsghdr) : Command → Option (NetlinkState × Int)
  | .done => some (state, 0)
  | .noop => some (state.sendAck nlh, 0)
  | .version => some (state.cmdVersionRequest nlh, 0)
  | .topologyLock => state.cmdTopologyLock nlh
  | .topologyTrylock => state.cmdTopologyTrylock nlh
  | .topologyUnlock => some (state.cmdTopologyUnlock nlh)
  | .notImplemented => some (state, 0)
  | .object => some (nlh.writes.foldl (write nlh) state, nlh.err)

/-- ks_netlink_rcv_msg; `none` is a BUG_ON of the handler. -/
def rcvMsg (state : NetlinkState) (packet : Nat) (nlh : Nlmsghdr) : Option (NetlinkState × Int) :=
  if ¬ nlh.request then some (state, -EINVAL)
  else
    match nlh.command with
    | none => some (state, -EINVAL)
    | some cmd =>
      if state.lock_owner ≠ 0 ∧ state.lock_owner ≠ nlh.nlmsg_pid then some (state, -EAGAIN)
      else
        let entered : NetlinkState := { state with
          cur_pid := nlh.nlmsg_pid
          cur_seq := nlh.nlmsg_seq
          handled := state.handled ++ [⟨packet, nlh, state.lock_owner⟩] }
        (entered.handler nlh cmd).map fun (state, err) =>
          ((if err < 0 then state.sendError nlh err else state).flush.mcastFlush, 0)

/-- The head of the do loop of `ks_netlink_process_backlog`: the packet at the
end of the backlog ends the pass. -/
def startPass (state : NetlinkState) : NetlinkState :=
  match state.backlog with
  | [] => { state with work := none }
  | packet :: backlog =>
    { state with
      backlog := backlog
      work := some ⟨packet, some ⟨((packet :: backlog).getLast (by simp)).id, false⟩⟩ }

/-- The end of a turn of the while loop, after the packet was looked at. -/
def endTurn (state : NetlinkState) (packet : Packet) (pass : Pass) : NetlinkState :=
  match if packet.id = pass.tail then [] else state.backlog with
  | next :: backlog => { state with backlog := backlog, work := some ⟨next, some pass⟩ }
  | [] => if pass.processed then state.startPass else { state with work := none }

/-- What becomes of the packet when `ks_netlink_rcv_skb` returns: -EAGAIN
puts it at the end of the backlog. -/
def endPacket (state : NetlinkState) (work : Work) (again : Bool) : NetlinkState :=
  let state := if again then { state with backlog := state.backlog ++ [work.packet] } else state
  match work.pass with
  | none => state.startPass
  | some pass => state.endTurn work.packet (if again then pass else { pass with processed := true })

/-- skb_pull of the message that was looked at. -/
def pull (state : NetlinkState) (work : Work) (rest : List Nlmsghdr) : NetlinkState :=
  { state with work := some { work with packet := { work.packet with rest := rest } } }

/-- One turn of the loop of `ks_netlink_rcv_skb`. -/
def look (state : NetlinkState) (work : Work) : NetlinkState :=
  match work.packet.rest with
  | [] => state.endPacket work false
  | nlh :: rest =>
    match state.rcvMsg work.packet.id nlh with
    | none => { state with bug := true }
    | some (state, err) =>
      if err = -EAGAIN then state.endPacket work true
      else (if err < 0 then state.sendError nlh err else state).pull work rest

/-- ks_lock_timeout -/
def lockTimeout (state : NetlinkState) : NetlinkState :=
  { state with lock_timer := false, lock_depth := 0, lock_owner := 0, held := [] }

/-- What the kernel writes between `ks_topology_lock` and
`ks_topology_unlock`, which flushes it. -/
def kernelSection (state : NetlinkState) (writes : List Bool) : NetlinkState :=
  (writes.foldl mcastSend { state with sections := state.sections ++ [state.lock_owner] }).mcastFlush

end NetlinkState

inductive NetlinkEvent where
  /-- A packet is handed to `ks_netlink_rcv`. -/
  | arrive (messages : List Nlmsghdr)
  /-- The receive path goes on to its next message. -/
  | look
  | timeout
  /-- A kernel-side section, with what it notifies. -/
  | kernel (writes : List Bool)
  deriving Repr, DecidableEq

namespace NetlinkState

/-- One atomic step. A kernel-side section sleeps while somebody owns the lock. -/
def step (state : NetlinkState) (e : NetlinkEvent) : Option NetlinkState :=
  if state.bug then none
  else
    match e, state.work with
    | .arrive messages, none =>
      some { state with
        arrived := state.arrived ++ [messages]
        work := some ⟨⟨state.arrived.length, messages⟩, none⟩ }
    | .arrive _, some _ => none
    | .look, some work => some (state.look work)
    | .look, none => none
    | .timeout, _ => if state.lock_timer then some state.lockTimeout else none
    | .kernel writes, _ => if state.lock_owner = 0 then some (state.kernelSection writes) else none

end NetlinkState
end Vstuff.Kstreamer
