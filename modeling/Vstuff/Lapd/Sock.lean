import Vstuff.Lapd.Proto

/-! The socket of the LAPD module and the small operations its procedures are
made of: timers, the transmit queue with its cursor, and what leaves the
socket. Memory allocation is taken to succeed. -/
namespace Vstuff.Lapd
set_option linter.all false

/-- A buffer on `sk_write_queue`, with the header fields `lapd_run_i_queue`
rewrites at each transmission. `id` stands for the buffer's address. The last
field is not in the source: it remembers that a copy of the buffer has been
handed to `lapd_ph_data_request` since it was queued. -/
structure Skb where
  id : Nat
  tei : Nat
  nS : Seq
  nR : Seq
  data : Octets
  transmitted : Bool := false
  deriving DecidableEq, Repr

/-- An element of `sk_receive_queue` with the memory it is charged for. -/
inductive RcvItem where
  | iframe (data : Octets) (truesize : Nat)
  | uiframe (data : Octets) (truesize : Nat)
  | primitive (type : DlPrimitive) (truesize : Nat)
  deriving DecidableEq, Repr

def RcvItem.truesize : RcvItem → Nat
  | .iframe _ size | .uiframe _ size | .primitive _ size => size

/-- What `lapd_dlc_recv` handles: a frame, or a layer management primitive. -/
inductive Item where
  | frame (skb : RxSkb)
  | mdl (primitive : MdlPrimitive)
  deriving DecidableEq, Repr

/-- What an event does outside the socket, in order. A transmitted frame is
recorded with the value of `assigned` at that moment. -/
inductive Output where
  | phDataRequest (frame : Frame) (assigned : Bool)
  | dataIndication (data : Octets)
  | unlinked (skb : Skb)
  | assignIndication
  | startTeiCheck (tei : Nat)
  deriving DecidableEq, Repr

/-- `struct lapd_sap`, without the timer lengths. -/
structure Sap where
  k : Nat
  N200 : Nat
  deriving DecidableEq, Repr

/-- The fields of `struct lapd_device` the procedures read. -/
structure Device where
  role : IntfRole
  mtu : Nat
  netTme : Bool
  deriving DecidableEq, Repr

/-- The state of the connection itself: everything that decides when I frames
are sent, kept, acknowledged and supervised. `sendHead` is `sk_send_head`, a
bare address that may outlive its buffer; `fault` is set when the procedures
dereference it then. -/
structure Link where
  state : DatalinkState
  vS : Seq := 0
  vA : Seq := 0
  writeQueue : List Skb := []
  sendHead : Option Nat := none
  nextId : Nat := 0
  t200 : Bool := false
  t203 : Bool := false
  peerReceiverBusy : Bool := false
  fault : Bool := false
  deriving DecidableEq, Repr

/-- `struct lapd_sock`. `owned` is `sock_owned_by_user` and `backlog` the
socket backlog. `assigned` and `out` are not in the source: the first says
that a TEI was assigned and not removed since, the second collects what the
event under way sends out. -/
structure Sock extends Link where
  dev : Device
  sap : Sap
  skState : SkState
  sapi : Nat := 0
  tei : Nat := 0
  usrTme : Bool := false
  vR : Seq := 0
  ownReceiverBusy : Bool := false
  rejectException : Bool := false
  acknowledgePending : Bool := false
  layer3Initiated : Bool := false
  retransCnt : Nat := 0
  uQueue : List Frame := []
  receiveQueue : List RcvItem := []
  rmemAlloc : Nat := 0
  rcvbuf : Nat
  primTruesize : Nat := 0
  unhashTimer : Bool := false
  owned : Bool := false
  backlog : List Item := []
  assigned : Bool := false
  out : List Output := []
  deriving DecidableEq, Repr

/-! ## Timers, states and buffers -/

def startT200 (s : Sock) : Sock := { s with t200 := true }

def stopT200 (s : Sock) : Sock := { s with t200 := false }

def startT203 (s : Sock) : Sock := { s with t203 := true }

def stopT203 (s : Sock) : Sock := { s with t203 := false }

/-- `lapd_change_state`. -/
def changeState (s : Sock) (newstate : DatalinkState) : Sock := { s with state := newstate }

/-- `lapd_ph_data_request`. -/
def phDataRequest (s : Sock) (frame : Frame) : Sock :=
  { s with out := s.out ++ [.phDataRequest frame s.assigned] }

/-- The frame `lapd_prepare_sframe` builds. -/
def prepareSframe (s : Sock) (cr : Cr) (function : SframeFunction) (pF : Bool) : Frame where
  sapi := s.sapi
  cr := makeCr s.dev.role cr
  tei := s.tei % 128
  control := .sframe function s.vR pF

/-- `lapd_send_sframe`. -/
def sendSframe (s : Sock) (cr : Cr) (function : SframeFunction) (pF : Bool) : Sock :=
  phDataRequest s (prepareSframe s cr function pF)

/-- The frame `lapd_prepare_uframe` builds. -/
def prepareUframe (s : Sock) (function : UframeFunction) (pF : Bool) : Frame where
  sapi := s.sapi
  cr := makeCr s.dev.role (uframeCr function)
  tei := if s.state = .listening then broadcastTei else s.tei % 128
  control := .uframe function pF

/-- `lapd_send_uframe`. -/
def sendUframe (s : Sock) (function : UframeFunction) (pF : Bool) : Sock :=
  phDataRequest s (prepareUframe s function pF)

/-- `lapd_dl_primitive`: a release confirmed to a closing socket schedules its
removal instead. -/
def dlPrimitive (s : Sock) (type : DlPrimitive) : Sock :=
  if s.skState = .normalDlcClosing ∧ type = .releaseConfirm then { s with unhashTimer := true }
  else { s with
    receiveQueue := s.receiveQueue ++ [.primitive type s.primTruesize]
    rmemAlloc := s.rmemAlloc + s.primTruesize }

/-- `lapd_dl_data_indication`. -/
def dlDataIndication (s : Sock) (skb : RxSkb) : Sock :=
  { s with
    receiveQueue := s.receiveQueue ++ [.iframe skb.frame.data skb.truesize]
    rmemAlloc := s.rmemAlloc + skb.truesize
    out := s.out ++ [.dataIndication skb.frame.data] }

/-- `lapd_dl_unit_data_indication`. -/
def dlUnitDataIndication (s : Sock) (skb : RxSkb) : Sock :=
  { s with
    receiveQueue := s.receiveQueue ++ [.uiframe skb.frame.data skb.truesize]
    rmemAlloc := s.rmemAlloc + skb.truesize }

/-! ## The transmit queue -/

/-- The buffers ahead of the cursor: all of them when it is `NULL`. -/
def Link.preceding (l : Link) : List Skb :=
  l.writeQueue.takeWhile fun skb => some skb.id ≠ l.sendHead

/-- The buffers at and after the cursor. -/
def Link.waiting (l : Link) : List Skb :=
  l.writeQueue.dropWhile fun skb => some skb.id ≠ l.sendHead

/-- `V(S) = V(A) + k`: the loop of `lapd_run_i_queue` sends no more. -/
def windowFull (s : Sock) : Prop := s.vS.val = (s.vA.val + s.sap.k) % 128

instance (s : Sock) : Decidable (windowFull s) := inferInstanceAs (Decidable (_ = _))

/-- `lapd_discard_ui_queue`. -/
def discardUiQueue (s : Sock) : Sock := { s with uQueue := [] }

/-- `lapd_discard_i_queue`. The cursor keeps its value. -/
def discardIQueue (s : Sock) : Sock := { s with writeQueue := [] }

/-- `lapd_run_ui_queue`. -/
def runUiQueue (s : Sock) : Sock :=
  { s.uQueue.foldl phDataRequest s with uQueue := [] }

/-- `lapd_prepare_iframe` on a fresh buffer, whose N(S) and N(R) octets hold
whatever the memory held. -/
def prepareIframe (s : Sock) (data : Octets) (nS nR : Seq) : Skb where
  id := s.nextId
  tei := s.tei % 128
  nS := nS
  nR := nR
  data := data

/-- `lapd_sock_queue_iframe`. -/
def sockQueueIframe (s : Sock) (skb : Skb) : Sock :=
  { s with
    writeQueue := s.writeQueue ++ [skb]
    sendHead := s.sendHead.or (some skb.id)
    nextId := max s.nextId (skb.id + 1) }

/-- The copy of a queued buffer that is transmitted. -/
def iframeOf (s : Sock) (skb : Skb) : Frame where
  sapi := s.sapi
  cr := makeCr s.dev.role .command
  tei := skb.tei
  control := .iframe skb.nS skb.nR false
  data := skb.data

/-- One turn of the loop of `lapd_run_i_queue`, on the buffer with N(S) and
N(R) already rewritten. -/
def transmitIframe (s : Sock) (skb : Skb) : Sock :=
  let s := if s.t200 then s else stopT203 (startT200 s)
  let s := phDataRequest s (iframeOf s skb)
  { s with vS := s.vS + 1 }

/-- The loop of `lapd_run_i_queue`, from the cursor on. -/
def sendLoop (s : Sock) (sent : List Skb) : List Skb → Sock
  | [] => { s with writeQueue := sent, sendHead := none }
  | skb :: rest =>
    if windowFull s then { s with writeQueue := sent ++ skb :: rest, sendHead := some skb.id }
    else
      let skb := { skb with nS := s.vS, nR := s.vR, transmitted := true }
      sendLoop (transmitIframe s skb) (sent ++ [skb]) rest

/-- `lapd_run_i_queue`. A cursor whose buffer was freed is a fault as soon as
the loop is entered. -/
def runIQueue (s : Sock) : Sock :=
  if s.state ≠ .linkConnectionEstablished then s
  else if s.peerReceiverBusy then s
  else if s.sendHead = none ∨ windowFull s then s
  else if s.waiting = [] then { s with fault := true }
  else sendLoop s s.preceding s.waiting

/-- `lapd_invoke_retransmission_procedure`. -/
def invokeRetransmission (s : Sock) : Sock :=
  let s := match s.writeQueue with
    | [] => s
    | skb :: _ => { s with sendHead := some skb.id }
  runIQueue { s with vS := s.vA }

/-- `lapd_ack_frames`: the buffers ahead of the cursor are unlinked up to the
one that carries N(R). -/
def ackFrames (s : Sock) (nR : Seq) : Sock :=
  if nR = s.vA then s
  else
    let acked := fun skb : Skb => some skb.id ≠ s.sendHead ∧ skb.nS ≠ nR
    { s with
      writeQueue := s.writeQueue.dropWhile acked
      out := s.out ++ (s.writeQueue.takeWhile acked).map .unlinked }

/-- `lapd_ack_frames` with the assignment of V(A) that always follows it. -/
def acknowledge (s : Sock) (nR : Seq) : Sock := { ackFrames s nR with vA := nR }

/-- `lapd_is_valid_nr`. -/
def isValidNr (s : Sock) (nR : Seq) : Prop :=
  (nR.val + 128 - s.vA.val) % 128 ≤ (s.vS.val + 128 - s.vA.val) % 128

instance (s : Sock) (nR : Seq) : Decidable (isValidNr s nR) :=
  inferInstanceAs (Decidable (_ ≤ _))

end Vstuff.Lapd
