import Mathlib.Tactic.Simps.Basic
import Vstuff.Lapd.Proto
import Vstuff.Lib.Machine

/-! The AT command engine of a GSM module (`chan_vgsm/comm.c`): requests are sent one
at a time, what the module answers is matched in a buffer of fixed size, and one timer
notices that the two have lost each other. -/
namespace Vstuff.Vgsm
open Lapd (Octets)
set_option linter.all false

/-- `enum vgsm_comm_state`. -/
inductive CommState where
  | closed | closing | failed | recovering | idle | readingUrc | awaitingSmsEcho | awaitingSmsEcho1a
  | awaitingEcho | awaitingEchoReadingUrc | readingResponse
  deriving DecidableEq, Repr

/-- `enum vgsm_comm_message_type`. -/
inductive CommMessage where
  | close | refresh | init
  deriving DecidableEq, Repr

/-- What `vgsm_comm_change_state` does with the timer: stops it (-1), leaves it (-2) or
starts it, for so many microseconds. -/
inductive Timeout where
  | stop
  | keep
  | start (time : Int)
  deriving DecidableEq, Repr

def millisec : Int := 1000

def sec : Int := 1000 * millisec

def echoTimeout : Timeout := .start (800 * millisec)

def urcTimeout : Timeout := .start (500 * millisec)

def smsEchoTimeout : Timeout := .start (1 * sec)

def readingUrcTimeout : Timeout := .start (3 * sec)

/-- The octets of a string literal. -/
def ascii (text : String) : Octets := text.toUTF8.data.toList

/-- `enum vgsm_req_codes`. -/
def respOk : Int := 0

def respConnect : Int := 1

def respNoCarrier : Int := 2

def respError : Int := 3

def respNoDialtone : Int := 4

def respBusy : Int := 5

def respNoAnswer : Int := 6

def respUnknown : Int := 100

def respFailed : Int := 102

def cmeErrorBase : Int := 1000

def cmsErrorBase : Int := 2000

/-- `struct vgsm_urc_class`, without what handles the whole message. -/
structure UrcClass where
  code : Octets
  detectEnd : Option (List Octets → Bool) := none

/-- `struct vgsm_req` of a message the module has not been asked for. -/
structure Urc where
  urcClass : UrcClass
  lines : List Octets := []

/-- `struct vgsm_req` of a request. Requests are told apart by a number, the place they
have in memory; `sent` is not in the source: it counts how often the request was
written to the module. -/
structure Req where
  id : Nat
  request : Octets
  smsTextPdu : Option Octets := none
  retransmitCnt : Int := 3
  timeout : Int
  ready : Bool := false
  err : Int := 0
  lines : List Octets := []
  sent : Nat := 0
  deriving DecidableEq, Repr

/-- What the engine does that can be seen from outside. -/
inductive Output where
  | state (state : CommState) (timeout : Timeout)
  | line (text : Octets)
  | complete (id : Nat) (err : Int)
  | urc (lines : List Octets)
  | write (octets : Octets)
  deriving DecidableEq, Repr

/-- `sizeof(comm->buf)`. -/
def bufSize : Nat := 2048

/-- `struct vgsm_comm`. Of the timer only whether it is pending; the two queues that
other threads empty keep what they have taken. The last fields are not in the source:
where the thread is inside `vgsm_comm_receive` (with `nread`), how many requests were
accepted, and what it has done. -/
structure Comm where
  urcClasses : List UrcClass
  state : CommState := .closed
  pending : Bool := false
  buf : Octets := List.replicate bufSize 0
  requestsQueue : List Req := []
  currentReq : Option Req := none
  currentUrc : Option Urc := none
  urcQueue : List Urc := []
  completionQueue : List Req := []
  scanning : Option Nat := none
  accepted : Nat := 0
  outputs : List Output := []

/-! ## Strings in memory -/

/-- The string that begins at the first cell: what is in front of the NUL. -/
def cString (cells : Octets) : Octets := cells.takeWhile (· != 0)

/-- `strstr(text, "\r\n")`, as an offset. -/
def findCrlf : Octets → Option Nat
  | [] => none
  | x :: rest => if x = 13 ∧ rest.head? = some 10 then some 0 else (findCrlf rest).map (· + 1)

/-- `memmove(buf, buf + n, strlen(buf + n) + 1)`: what was behind stays where it is. -/
def pull (n : Nat) (buf : Octets) : Octets :=
  let moved := cString (buf.drop n) ++ [0]
  moved ++ buf.drop moved.length

/-- `read` puts what it gets behind the string the buffer holds, and a NUL follows. -/
def stored (buf chunk : Octets) : Octets :=
  let buflen := (cString buf).length
  buf.take buflen ++ chunk ++ [0] ++ buf.drop (buflen + chunk.length + 1)

def isSpace (x : UInt8) : Bool := x == 32 || (9 ≤ x && x ≤ 13)

def isDigit (x : UInt8) : Bool := 48 ≤ x && x ≤ 57

/-- `atoi`. -/
def atoi (text : Octets) : Int :=
  let value (digits : Octets) : Int :=
    (digits.takeWhile isDigit).foldl (fun sum digit => 10 * sum + (digit.toNat - 48 : Nat)) 0
  match text.dropWhile isSpace with
  | 45 :: digits => - value digits
  | 43 :: digits => value digits
  | digits => value digits

/-- `vgsm_req_final_response_code`. -/
def finalResponseCode (line : Octets) : Int :=
  if line = ascii "OK" then respOk
  else if line = ascii "CONNECT" then respConnect
  else if line = ascii "NO CARRIER" then respNoCarrier
  else if line = ascii "ERROR" then respError
  else if line = ascii "NO DIALTONE" then respNoDialtone
  else if line = ascii "BUSY" then respBusy
  else if line = ascii "NO ANSWER" then respNoAnswer
  else if ascii "+CME ERROR: " <+: line then atoi (line.drop (ascii "+CME ERROR: ").length) + cmeErrorBase
  else if ascii "+CMS ERROR: " <+: line then atoi (line.drop (ascii "+CMS ERROR: ").length) + cmsErrorBase
  else respUnknown

/-- One hexadecimal digit, as `%x` prints it. -/
def hexDigit (n : UInt8) : UInt8 := if n < 10 then 48 + n else 87 + n

/-- The text of a short message as it is sent. -/
def hexText (pdu : Octets) : Octets := pdu.flatMap fun x => [hexDigit (x / 16), hexDigit (x % 16)]

namespace Comm

/-- The string in the buffer. -/
def text (c : Comm) : Octets := cString c.buf

@[simps]
def write (c : Comm) (octets : Octets) : Comm := { c with outputs := c.outputs ++ [.write octets] }

/-- `vgsm_comm_change_state`. -/
@[simps]
def changeState (c : Comm) (state : CommState) (timeout : Timeout) : Comm :=
  { c with
    state := state
    pending := match timeout with
      | .stop => false
      | .keep => c.pending
      | .start _ => true
    outputs := c.outputs ++ [.state state timeout] }

/-- The request gets its result and is handed to the completion thread. -/
@[simps]
def complete (c : Comm) (req : Req) (err : Int) : Comm :=
  { c with
    completionQueue := c.completionQueue ++ [{ req with err := err, ready := true }]
    outputs := c.outputs ++ [.complete req.id err] }

/-- The current request is done with. -/
@[simps]
def finish (c : Comm) (req : Req) (state : CommState) (err : Int) : Comm :=
  { (c.changeState state .stop).complete req err with currentReq := none }

/-- `vgsm_req_make_va`: the text printed has to leave room for the CR. -/
def reqMake (c : Comm) (timeout : Int) (smsPdu printed : Octets) : Comm :=
  if (cString printed).length ≥ 80 then c
  else
    { c with
      requestsQueue := c.requestsQueue ++
        [{ id := c.accepted
           request := cString printed ++ [13]
           smsTextPdu := if smsPdu = [] then none else some (hexText smsPdu)
           timeout := timeout + 100 * millisec }]
      accepted := c.accepted + 1 }

/-! ## Matching what was received

Each function says how many octets of the buffer are done with; `none` is an assertion
that fails or a pointer that is NULL. -/

/-- A line of the response: the buffer now ends with it. -/
@[simps]
def addLine (c : Comm) (req : Req) (buf line : Octets) : Comm :=
  { c with
    buf := buf
    currentReq := some { req with lines := req.lines ++ [line] }
    outputs := c.outputs ++ [.line line] }

/-- Where the line of `vgsm_match_response` begins, if anything can be told yet. -/
def responseBegin : Octets → Option Nat
  | [] => none
  | 13 :: [] => none
  | 13 :: x :: _ => if x = 10 then some 2 else some 1
  | x :: _ => if x = 10 then some 1 else some 0

/-- `vgsm_match_response`. -/
def matchResponse (c : Comm) : Option (Comm × Nat) :=
  c.currentReq.bind fun req =>
    match responseBegin c.text with
    | none => some (c, 0)
    | some skipped =>
      if ascii "> " <+: c.text.drop skipped then
        match req.smsTextPdu with
        | none => some (c.write [0x1b], 4)
        | some pdu => some ((c.write pdu).changeState .awaitingSmsEcho smsEchoTimeout, 4)
      else
        -- the search begins at the third octet, whatever the string's length
        match findCrlf (cString (c.buf.drop 2)) with
        | none => some (c, 0)
        | some offset =>
          let stop := offset + 2
          let buf := c.buf.set stop 0
          let line := cString (buf.drop skipped)
          let c := c.addLine req buf line
          let err := finalResponseCode line
          if err = respUnknown then some (c, stop + 2)
          else some (c.finish { req with lines := req.lines ++ [line] } .idle err, stop + 2)

/-- `vgsm_comm_match_echo`: how many octets match if all that was sent has come back, 0
if more is to come, -1 if it cannot match. -/
def matchEcho : Octets → Octets → Nat → Int
  | _, [], n => n
  | [], _ :: _, _ => 0
  | x :: buf, y :: sent, n => if x = y then matchEcho buf sent (n + 1) else -1

/-- Where the message of `vgsm_comm_match_urc` begins: `inl` is what the function returns
without one. -/
def urcBegin : Octets → Nat ⊕ Nat
  | [] => .inl 0
  | 13 :: [] => .inl 0
  | 13 :: 10 :: [] => .inl 0
  | 13 :: 10 :: 13 :: [] => .inl 0
  | 13 :: 10 :: 13 :: x :: _ => if x = 10 then .inr 4 else .inl 1
  | 13 :: 10 :: _ :: _ => .inr 2
  | 13 :: _ :: _ => .inl 1
  | x :: _ => if x = 43 ∨ x = 94 then .inr 0 else .inl 1

@[simps]
def queueUrc (c : Comm) (urc : Urc) : Comm :=
  { c with urcQueue := c.urcQueue ++ [urc], outputs := c.outputs ++ [.urc urc.lines] }

/-- `vgsm_comm_match_urc` has read the first line of a message. -/
def beginUrc (c : Comm) (urc : Urc) : Comm :=
  let c := if c.state = .awaitingEcho then c.changeState .awaitingEcho echoTimeout else c
  match urc.urcClass.detectEnd with
  | none => c.queueUrc urc
  | some _ =>
    let c := { c with currentUrc := some urc }
    let c :=
      if c.state = .awaitingEcho then c.changeState .awaitingEchoReadingUrc echoTimeout
      else c.changeState .readingUrc readingUrcTimeout
    -- started again, with URC_TIMEOUT
    { c with pending := true }

/-- `vgsm_comm_match_urc`. -/
def matchUrc (c : Comm) : Option (Comm × Nat) :=
  match urcBegin c.text with
  | .inl npull => some (c, npull)
  | .inr skipped =>
    match findCrlf (c.text.drop skipped) with
    | none => some (c, 0)
    | some offset =>
      let stop := skipped + offset
      let c := { c with buf := c.buf.set stop 0 }
      let line := cString (c.buf.drop skipped)
      if c.currentUrc.isSome then none
      else
        match c.urcClasses.find? fun urcClass => urcClass.code.isPrefixOf line with
        | none => some (c, stop + 2)
        | some urcClass => some (c.beginUrc { urcClass := urcClass, lines := [line] }, stop + 2)

/-- A line of the message; before the echo it starts the timer again. -/
@[simps]
def addUrcLine (c : Comm) (urc : Urc) (buf line : Octets) : Comm :=
  { c with
    buf := buf
    currentUrc := some { urc with lines := urc.lines ++ [line] }
    pending := c.pending || c.state == .awaitingEchoReadingUrc }

/-- `vgsm_comm_match_urc_cont` has read the last line of the message. -/
def endUrc (c : Comm) (urc : Urc) : Comm :=
  let c := { c.queueUrc urc with currentUrc := none }
  if c.state = .awaitingEchoReadingUrc then c.changeState .awaitingEcho echoTimeout
  else c.changeState .idle .stop

/-- `vgsm_comm_match_urc_cont`. -/
def matchUrcCont (c : Comm) : Option (Comm × Nat) :=
  match findCrlf c.text with
  | none => some (c, 0)
  | some stop =>
    let buf := c.buf.set stop 0
    let line := cString buf
    c.currentUrc.bind fun urc =>
      let c := c.addUrcLine urc buf line
      urc.urcClass.detectEnd.bind fun detectEnd =>
        let urc := { urc with lines := urc.lines ++ [line] }
        some (if detectEnd urc.lines then c.endUrc urc else c, stop + 2)

/-- The switch of `vgsm_comm_receive`. -/
def matchBuffer (c : Comm) (nread : Nat) : Option (Comm × Nat) :=
  match c.state with
  | .closed | .closing => some (c, 0)
  | .failed | .recovering => some (c, nread)
  | .idle => c.matchUrc
  | .awaitingEcho =>
    c.currentReq.bind fun req =>
      let nmatch := matchEcho c.text req.request 0
      if nmatch > 0 then some (c.changeState .readingResponse (.start req.timeout), nmatch.toNat)
      else if nmatch ≠ 0 then c.matchUrc
      else some (c, 0)
  | .readingUrc | .awaitingEchoReadingUrc => c.matchUrcCont
  | .awaitingSmsEcho =>
    (c.currentReq.bind Req.smsTextPdu).bind fun pdu =>
      let nmatch := matchEcho c.text pdu 0
      if nmatch > 0 then some ((c.write [0x1a]).changeState .awaitingSmsEcho1a .keep, nmatch.toNat)
      else some (c, 0)
  | .awaitingSmsEcho1a =>
    let nmatch := matchEcho c.text [0x1a] 0
    if nmatch > 0 then
      c.currentReq.bind fun req =>
        some (c.changeState .readingResponse (.start req.timeout), nmatch.toNat)
    else some (c, 0)
  | .readingResponse => c.matchResponse

/-- `vgsm_comm_receive` begins: what is read goes into the buffer. -/
@[simps]
def receive (c : Comm) (chunk : Octets) : Comm :=
  { c with buf := stored c.buf chunk, scanning := some chunk.length }

/-- One iteration of the loop of `vgsm_comm_receive`. -/
def scan (c : Comm) (nread : Nat) : Option Comm :=
  (c.matchBuffer nread).bind fun (c, npull) =>
    if npull = 0 then some { c with scanning := none }
    else some { c with buf := pull npull c.buf, scanning := some 0 }

/-! ## Requests and the timer -/

/-- The request is written to the module, which is to echo it. -/
@[simps]
def transmit (c : Comm) (req : Req) : Comm :=
  { (c.write req.request).changeState .awaitingEcho echoTimeout with
    currentReq := some { req with sent := req.sent + 1 } }

/-- `vgsm_process_next_request`. -/
def processNextRequest (c : Comm) : Option Comm :=
  if c.currentReq.isSome then none
  else
    match c.requestsQueue with
    | [] => some c
    | req :: rest => some ({ c with requestsQueue := rest }.transmit req)

/-- `vgsm_flush_requests`. -/
def flushRequests (c : Comm) : Comm :=
  c.requestsQueue.foldl (fun c req => c.complete req respFailed) { c with requestsQueue := [] }

/-- `vgsm_comm_send_recovery_sequence`. -/
def sendRecoverySequence (c : Comm) : Comm := c.write (ascii "AT E1 V1 Q0\r")

/-- `vgsm_comm_timer_fired`; the timer is no longer pending. -/
def timerFired (c : Comm) : Option Comm :=
  match c.state with
  | .recovering =>
    match c.currentReq with
    | none => some (c.changeState .idle .stop)
    | some req =>
      let req := { req with retransmitCnt := req.retransmitCnt - 1 }
      if req.retransmitCnt = 0 then
        some (c.finish req .failed respFailed)
      else if req.request.length ≤ 80 then some (c.transmit req)
      else none
  | .readingUrc | .awaitingSmsEcho | .awaitingSmsEcho1a | .awaitingEcho | .awaitingEchoReadingUrc
  | .readingResponse =>
    let c := { c with currentUrc := none }.changeState .recovering (.start (1 * sec))
    some { c with buf := c.buf.set 0 0 }.sendRecoverySequence
  | .closed | .closing | .failed | .idle => some c

end Comm

/-! ## The thread

An iteration of `vgsm_comm_thread_main` runs the timer, sends or flushes requests, takes
a message from the pipe and reads what the module sent. Here the four may come in any
order, and other threads make requests in between. -/

inductive Event where
  | make (timeout : Int) (smsPdu printed : Octets)
  | open
  | timer
  | requests
  | message (message : CommMessage)
  | read (chunk : Octets)
  | scan
  | exit
  deriving DecidableEq, Repr

namespace Comm

/-- The thread is in its loop. -/
def running (c : Comm) : Bool := c.state != .closed && c.state != .closing

/-- When each event can happen. `read` is given the room that is left in the buffer. -/
def enabled (c : Comm) : Event → Bool
  | .make .. => true
  | .open => c.state == .closed
  | .timer => c.running && c.scanning.isNone && c.pending
  | .requests => c.running && c.scanning.isNone
  | .message _ => c.running && c.scanning.isNone
  | .read chunk => c.running && c.scanning.isNone && chunk.length + c.text.length < bufSize
  | .scan => c.scanning.isSome
  | .exit => c.state == .closing

/-- What each event does. -/
def handle (c : Comm) : Event → Option Comm
  | .make timeout smsPdu printed => some (c.reqMake timeout smsPdu printed)
  | .open => some (c.changeState .idle .stop)
  | .timer => { c with pending := false }.timerFired
  | .requests =>
    if c.state = .idle then c.processNextRequest
    else if c.state = .failed then some c.flushRequests
    else some c
  | .message .close => some (c.changeState .closing .stop)
  | .message _ => some c
  | .read chunk => some (c.receive chunk)
  | .scan => c.scanning.bind c.scan
  | .exit => some (c.changeState .closed .stop)

/-- One event, refused where it cannot happen. -/
def step (c : Comm) (e : Event) : Option Comm := if c.enabled e then c.handle e else none

/-- Every request there has been: those done with, the current one and those that wait. -/
def requests (c : Comm) : List Req := c.completionQueue ++ c.currentReq.toList ++ c.requestsQueue

/-- `vgsm_comm_init`, and the thread has been started. -/
def opened (urcClasses : List UrcClass) : Comm := { urcClasses := urcClasses : Comm }.changeState .idle .stop

end Comm

end Vstuff.Vgsm
