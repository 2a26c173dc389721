import Vstuff.Lapd.Datalink
import Vstuff.Lib.Machine

/-! The events of one LAPD socket and its runs. Each event is handled under the
socket lock, so events are taken one after the other; a frame or a primitive
that arrives while a process owns the socket waits in the backlog. -/
namespace Vstuff.Lapd
open Transition
set_option linter.all false

/-- `LAPD_SAPI_TEI_MGMT`: these frames never reach a socket. -/
def sapiTeiMgmt : Nat := 0x3f

inductive Event where
  /-- A process takes the socket (`lock_sock`). -/
  | lockSock
  /-- One element of the backlog is handled by `release_sock`. -/
  | backlogRcv
  /-- The socket is given back once its backlog is empty. -/
  | releaseSock
  | establishRequest
  | releaseRequest
  | dataRequest (data : Octets) (nS nR : Seq)
  | unitDataRequest (data : Octets)
  /-- A frame received by the device. -/
  | frame (skb : RxSkb)
  /-- A primitive of layer management. -/
  | mdl (pri : MdlPrimitive)
  | timerT200
  | timerT203
  /-- The process reads the first element of the receive queue. -/
  | recvmsg
  deriving DecidableEq, Repr

/-- The sockets the two `lapd_pass_frame_to_socket_*` loops consider. -/
def listensToFrames : IntfRole → SkState → Bool
  | .te, sk => sk == .normalDlc || sk == .broadcastDlc
  | .nt, sk => sk != .listen

/-- The filter of `lapd_ph_data_indication` and of the two
`lapd_pass_frame_to_socket_*` loops. -/
def delivers (s : Sock) (skb : RxSkb) : Prop :=
  skb.len ≥ 5 ∧ skb.frame.sapi ≠ sapiTeiMgmt ∧ listensToFrames s.dev.role s.skState = true ∧
    s.sapi = skb.frame.sapi ∧ s.tei = skb.frame.tei

instance (s : Sock) (skb : RxSkb) : Decidable (delivers s skb) :=
  inferInstanceAs (Decidable (_ ∧ _ ∧ _ ∧ _ ∧ _))

/-- `lapd_pass_frame_to_socket`. -/
def passFrame (s : Sock) (skb : RxSkb) : Sock :=
  if s.owned then { s with backlog := s.backlog ++ [.frame skb] } else dlcRecv s (.frame skb)

/-- `lapd_backlog_rcv` on the first element of the backlog. -/
def backlogRcv (s : Sock) : Sock :=
  match s.backlog with
  | [] => s
  | item :: rest => dlcRecv { s with backlog := rest } item

/-- `lapd_recvmsg` releases the memory of the element it copies out. -/
def recvmsg (s : Sock) : Sock :=
  match s.receiveQueue with
  | [] => s
  | item :: rest => { s with receiveQueue := rest, rmemAlloc := s.rmemAlloc - item.truesize }

/-- When an event can happen. A timer expires only while it is pending. -/
def enabled (s : Sock) : Event → Bool
  | .lockSock => !s.owned
  | .backlogRcv => s.owned && !s.backlog.isEmpty
  | .releaseSock => s.owned && s.backlog.isEmpty
  | .timerT200 => s.t200
  | .timerT203 => s.t203
  | .recvmsg => !s.receiveQueue.isEmpty
  | _ => true

def perform (s : Sock) : Event → Sock
  | .lockSock => { s with owned := true }
  | .backlogRcv => backlogRcv s
  | .releaseSock => { s with owned := false }
  | .establishRequest => dlEstablishRequest s
  | .releaseRequest => dlReleaseRequest s
  | .dataRequest data nS nR => dlDataRequest s (prepareIframe s data nS nR)
  | .unitDataRequest data => dlUnitDataRequest s { prepareUframe s .ui false with data := data }
  | .frame skb => if delivers s skb then passFrame s skb else s
  | .mdl pri => mdlPrimitive s pri
  | .timerT200 => timerT200 s
  | .timerT203 => timerT203 s
  | .recvmsg => recvmsg s

/-- One event. Its outputs replace those of the event before. An event that
dereferences a freed buffer has no successor: what the kernel does then is
undefined. -/
def step (s : Sock) (e : Event) : Option Sock :=
  if enabled s e ∧ (perform { s with out := [] } e).fault = false then
    some (perform { s with out := [] } e)
  else none

/-- The item `lapd_dlc_recv` handles in this event, if any. -/
def handled (s : Sock) : Event → Option Item
  | .backlogRcv => s.backlog.head?
  | .frame skb => if delivers s skb ∧ s.owned = false then some (.frame skb) else none
  | .mdl pri => if s.owned then none else some (.mdl pri)
  | _ => none

/-- The U frame handled in this event: of the length the handlers ask for, its
function and its P/F bit. -/
def handledUframe (s : Sock) (e : Event) : Option (UframeFunction × Bool) :=
  match handled s e with
  | some (.frame skb) => match skb.frame.control with
    | .uframe function pF => if skb.len = 5 then some (function, pF) else none
    | _ => none
  | _ => none

/-- A socket as `lapd_create`, `lapd_bind` and `lapd_new_sock` leave it. -/
structure Init (s : Sock) : Prop where
  link : s.toLink = { state := s.state }
  state : s.state = .null ∨ s.state = .listening ∨ s.state = .teiUnassigned ∨ s.state = .teiAssigned
  flags : s.ownReceiverBusy = false ∧ s.rejectException = false ∧ s.acknowledgePending = false ∧
    s.layer3Initiated = false ∧ s.vR = 0
  queues : s.uQueue = [] ∧ s.receiveQueue = [] ∧ s.backlog = [] ∧ s.owned = false
  window : 1 ≤ s.sap.k ∧ s.sap.k ≤ 30
  unassigned : s.assigned = false ∧ s.out = []

variable {s t : Sock} {e : Event}

theorem step_performs (took : step s e = some t) :
    enabled s e ∧ t = perform { s with out := [] } e ∧ t.fault = false := by
  unfold step at took
  split at took
  · rename_i allowed
    cases took
    exact ⟨allowed.1, rfl, allowed.2⟩
  · cases took

/-- An event with an item to handle is that item handled, whichever way it came:
through the backlog, or while no process owns the socket. -/
theorem handled_perform {item : Item} (got : handled s e = some item) :
    ∃ backlog, perform s e = dlcRecv { s with backlog := backlog } item := by
  cases e with
  | backlogRcv =>
    cases pending : s.backlog with
    | nil => simp [handled, pending] at got
    | cons first rest =>
      simp only [handled, pending, List.head?_cons, Option.some.injEq] at got
      subst got
      exact ⟨rest, by simp only [perform, backlogRcv, pending]⟩
  | frame skb =>
    simp only [handled] at got
    split at got
    · rename_i passed
      cases got
      refine ⟨s.backlog, ?_⟩
      unfold perform passFrame
      dsimp only
      rw [if_pos passed.1, if_neg (by simp [passed.2])]
    · cases got
  | mdl pri =>
    simp only [handled] at got
    split at got
    · cases got
    · rename_i free
      cases got
      refine ⟨s.backlog, ?_⟩
      unfold perform mdlPrimitive mdlPrimitiveWith
      dsimp only
      rw [if_neg free]
      rfl
  | _ => cases got

theorem handledUframe_frame {function : UframeFunction} {pF : Bool}
    (got : handledUframe s e = some (function, pF)) :
    ∃ skb, handled s e = some (.frame skb) ∧ skb.frame.control = .uframe function pF ∧
      skb.len = 5 := by
  unfold handledUframe at got
  split at got
  · rename_i skb item
    split at got
    · rename_i control
      split at got
      · rename_i length
        cases got
        exact ⟨skb, item, control, length⟩
      · cases got
    · cases got
  · cases got

/-! ## A socket to run -/

/-- A network-side socket for TEI 64 as `lapd_new_sock` makes it. -/
def networkSock (k : Nat) : Sock where
  state := .teiAssigned
  dev := { role := .nt, mtu := 266, netTme := true }
  sap := { k := k, N200 := 3 }
  skState := .normalDlc
  tei := 64
  rcvbuf := 2000
  primTruesize := 100

theorem networkSock_init {k : Nat} (positive : 1 ≤ k) (small : k ≤ 30) : Init (networkSock k) where
  link := rfl
  state := .inr (.inr (.inr rfl))
  flags := ⟨rfl, rfl, rfl, rfl, rfl⟩
  queues := ⟨rfl, rfl, rfl, rfl⟩
  window := ⟨positive, small⟩
  unassigned := ⟨rfl, rfl⟩

/-- The arrival of a frame of the terminal with TEI 64. -/
def fromTerminal (cr : Cr) (control : Control) (data : Octets) : Event :=
  .frame {
    frame := { sapi := 0, cr := makeCr .te cr, tei := 64, control := control, data := data }
    len := match control with
      | .uframe _ _ => 5 + data.length
      | _ => 6 + data.length
    truesize := 200 }

end Vstuff.Lapd
