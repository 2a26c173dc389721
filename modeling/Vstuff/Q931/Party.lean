import Vstuff.Q931.Ces

/-! A call with its terminals: what happens to the one is told to the other in the
middle of its handlers, and the call keeps two bare pointers to terminals. What is
left open here are the channels of the interface. -/
namespace Vstuff.Q931.Call
open Lapd (IntfRole)
set_option linter.all false

/-- What `malloc` returns for a new terminal; `q931_ces_alloc` initialises neither the
flags nor the count. -/
structure Fresh where
  id : Nat
  t308Fired : Bool := false
  senqReceived : Bool := false
  senqCnt : Int := 0

/-- What comes with an event: the rest of the interface, the link it comes on, and
where a new terminal would be. -/
structure Setting where
  env : Env
  link : Nat
  fresh : Fresh

/-- A new terminal as `q931_ces_alloc` leaves it. -/
def Setting.newCes (s : Setting) : Ces where
  id := s.fresh.id
  link := s.link
  t308Fired := s.fresh.t308Fired
  senqReceived := s.fresh.senqReceived
  senqCnt := s.fresh.senqCnt

/-- A multipoint access on which channels are to be had. -/
def Env.multipointAccess : Env :=
  { Env.idle with multipoint := true, acquired := true, selected := true }

/-- Something comes on a link, and a new terminal would be at an address. -/
def Setting.on (link id : Nat) : Setting where
  env := .multipointAccess
  link := link
  fresh := { id := id }

/-- The terminals of a call: `call->ces`, the pointers to two of them, and
`call->dlc`. `freed` and `astray` are not in the source: the terminals freed so far,
as they were then, and that a pointer has been read that is neither NULL nor one of
`call->ces`. -/
structure Terminals where
  ces : List Ces := []
  preselected : Option Nat := none
  selected : Option Nat := none
  dlc : Option Nat
  freed : List Ces := []
  astray : Bool := false

namespace Terminals
variable (terminals : Terminals)

def find (id : Nat) : Option Ces := terminals.ces.find? (·.id == id)

/-- The terminals other than one. -/
def others (id : Nat) : List Ces := terminals.ces.filter (·.id != id)

def update (id : Nat) (f : Ces → Ces) : Terminals :=
  { terminals with ces := terminals.ces.map fun ces => if ces.id = id then f ces else ces }

/-- `q931_ces_alloc`. -/
def alloc (s : Setting) : Terminals := { terminals with ces := s.newCes :: terminals.ces }

/-- `q931_ces_free`. -/
def free (id : Nat) : Terminals :=
  { terminals with
    ces := terminals.others id
    freed := terminals.freed ++ terminals.ces.filter (·.id == id) }

/-- A pointer is read. -/
def look (pointer : Option Nat) : Terminals :=
  { terminals with astray := terminals.astray || pointer.any fun id => (terminals.find id).isNone }

/-- A request of the call is carried out. -/
def ask (callT322 : Bool) (request : CesRequest) (ces : Ces) : Ces :=
  ces.perform ((CesBranch.request callT322 request).acts ces.state)

/-- What an act of the call does to its terminals; `current` is the one that is
talked about. -/
def act (callT322 : Bool) (current : Option Nat) : Act → Terminals
  | .ces request => current.elim terminals fun id => terminals.update id (ask callT322 request)
  | .cesAll request => { terminals with ces := terminals.ces.map (ask callT322 request) }
  | .cesFree => current.elim terminals terminals.free
  | .cesFreeSelected => terminals.selected.elim terminals (terminals.look terminals.selected).free
  | .preselect => { terminals with preselected := current }
  | _ => terminals

/-- The acts one after the other; a new terminal is the one talked about from then
on. -/
def perform (s : Setting) (callT322 : Bool) : Option Nat → List Act → Terminals → Terminals
  | _, [], terminals => terminals
  | _, .cesAlloc :: rest, terminals => perform s callT322 (some s.fresh.id) rest (terminals.alloc s)
  | current, act :: rest, terminals => perform s callT322 current rest (terminals.act callT322 current act)

end Terminals

/-- The number of a state in `enum q931_ces_state`. -/
def CesState.value (state : CesState) : Nat := CesState.all.idxOf state

/-- The number of a state in `enum q931_call_state`. -/
def State.value (state : State) : Nat := State.all.idxOf state

/-- The terminal is able to proceed: its state is compared with two states of a
call. -/
def Ces.ableToProceed (ces : Ces) : Bool :=
  ces.state.value != State.n0.value && ces.state.value != State.n19.value

/-- A call with its terminals. `did` and `acknowledged` are not in the source: what the
call has done in the last step, and how many CONNECT ACKNOWLEDGE it has sent. -/
structure Party where
  call : Process
  terminals : Terminals
  did : List Act := []
  acknowledged : Nat := 0

/-- An event of the call itself; `about` is the terminal of a status enquiry. A
message and the data link come on a link. -/
inductive PartyEvent where
  | call (s : Setting) (about : Option Nat) (e : Event)
  | message (s : Setting) (msg : Received)
  | unknown (s : Setting) (toOriginating : Bool) (msg : Received)
  | dlEstablishIndication (s : Setting)
  | dlEstablishConfirm (s : Setting)
  | dlReleaseIndication (s : Setting)
  | dlReleaseConfirm (s : Setting)
  | cesTimer (s : Setting) (id : Nat) (timer : CesTimer)

def PartyEvent.setting : PartyEvent → Setting
  | call s _ _ | message s _ | unknown s _ _ | dlEstablishIndication s | dlEstablishConfirm s
  | dlReleaseIndication s | dlReleaseConfirm s | cesTimer s _ _ => s

/-- A request of the call control or a timer of the call. -/
def Event.isOwn : Event → Bool
  | message _ | unknown _ _ | dlEstablishIndication | dlEstablishConfirm | dlReleaseIndication
  | dlReleaseConfirm | intAlertingIndication | intConnectIndication | intCallProceedingIndication
  | intReleaseCompleteIndication | intInfoIndication | intProgressIndication | intReleaseIndication => false
  | _ => true

namespace Party

/-- What the call sees when it looks at some of its terminals. -/
def env (s : Setting) (ces : List Ces) : Env :=
  { s.env with ableToProceed := ces.any Ces.ableToProceed, cesEmpty := ces.isEmpty }

/-- The call handles an event. -/
def handle (s : Setting) (current : Option Nat) (ces : List Ces) (e : Event) (p : Party) : Option Party :=
  let acts := respond p.call (env s ces) e
  if .absentIe ∈ acts then none
  else some { p with
    call := p.call.perform acts
    terminals := p.terminals.perform s (p.call.pending .t322) current acts
    did := p.did ++ acts }

/-- A terminal tells the call; the pointer to the preselected one is read when it
tells of its release. -/
def indicate (s : Setting) (id : Nat) (indication : Indication) (p : Party) : Option Party :=
  let looked : Party :=
    if indication = .release ∧ p.call.state = .n8 then
      { p with terminals := p.terminals.look p.terminals.preselected }
    else p
  looked.handle s (some id) (p.terminals.others id) indication.event

/-- What an act of a terminal does. -/
def cesAct (s : Setting) (id : Nat) (p : Party) : CesAct → Option Party
  | .absentIe => none
  | .indicate indication => p.indicate s id indication
  | .report type => some { p with call := p.call.act (.send type) }
  | .statusIndication => some { p with call := p.call.act (.primitive (.statusIndication false)) }
  | act => some { p with terminals := p.terminals.update id (·.act act) }

def cesPerform (s : Setting) (id : Nat) (acts : List CesAct) (p : Party) : Option Party :=
  acts.foldlM (cesAct s id) p

/-- A terminal handles an event. -/
def cesHandle (s : Setting) (ces : Ces) (judgement : Judgement) (branch : CesBranch) (p : Party) : Option Party :=
  p.cesPerform s ces.id (cesDecoded judgement (branch.acts ces.state))

/-- The terminals are gone through as they stand at the beginning; one that is not
there any more has been freed. -/
def eachCes (s : Setting) (branch : CesBranch) : List Nat → Party → Option Party
  | [], p => some p
  | id :: rest, p =>
    match p.terminals.find id with
    | none => some { p with terminals := { p.terminals with astray := true } }
    | some ces =>
      if ces.link = s.link then (p.cesHandle s ces unjudged branch).bind (eachCes s branch rest)
      else eachCes s branch rest p

/-- The data link of a terminal, or of the call. -/
def dataLink (s : Setting) (branch : CesBranch) (e : Event) (p : Party) : Option Party :=
  (p.eachCes s branch (p.terminals.ces.map (·.id))).bind fun p =>
    if p.terminals.dlc = some s.link then p.handle s none p.terminals.ces e else some p

/-- `q931_receive`: a message is for the terminal on its link, or for the call; the
pointer to the selected terminal is read when one is found. -/
def receive (s : Setting) (msg : Received) (p : Party) : Option Party :=
  match p.terminals.ces.find? (·.link == s.link) with
  | none => p.handle s none p.terminals.ces (.message msg)
  | some ces =>
    let looked : Party := { p with terminals := p.terminals.look p.terminals.selected }
    (looked.cesHandle s ces msg.judgement (ces.dispatchMessage (p.call.pending .t322) msg)).bind fun next =>
      if p.terminals.selected = some ces.id then next.handle s none next.terminals.ces (.message msg) else some next

/-- `q931_setup_complete_request` selects the preselected terminal, whose link is the
call's from then on. -/
def select (p : Party) : Option Party :=
  p.terminals.preselected.map fun id =>
    { p with terminals := { p.terminals.look (some id) with
        selected := some id
        dlc := ((p.terminals.find id).map Ces.link).or p.terminals.dlc } }

/-- The event is a SETUP-COMPLETE-REQUEST that a terminal is selected for. -/
def selects (p : Party) : Event → Bool
  | .setupCompleteRequest => p.call.state == .n8 && p.call.broadcastSetup
  | _ => false

/-- What is done about an event. -/
def take (p : Party) : PartyEvent → Option Party
  | .call s about e =>
    if p.selects e then p.select.bind fun p => p.handle s about p.terminals.ces e
    else p.handle s about p.terminals.ces e
  | .message s msg => p.receive s msg
  | .unknown s toOriginating msg => p.handle s none p.terminals.ces (.unknown toOriginating msg)
  | .dlEstablishIndication s => p.dataLink s .dlEstablishIndication .dlEstablishIndication
  | .dlEstablishConfirm s => p.dataLink s .nothing .dlEstablishConfirm
  | .dlReleaseIndication s => p.dataLink s .dlReleaseIndication .dlReleaseIndication
  | .dlReleaseConfirm s => p.dataLink s .nothing .dlReleaseConfirm
  | .cesTimer s id timer =>
    (p.terminals.find id).bind fun ces =>
      { p with terminals := p.terminals.update id (·.setPending timer false) }.cesHandle s ces unjudged
        (ces.expire timer)

/-- The event of the call that comes with it. -/
def ready (p : Party) : PartyEvent → Party
  | .call _ _ e => { p with call := p.call.ready e, did := [] }
  | _ => { p with call := { p.call with sent := [], fresh := false }, did := [] }

/-- An event that can happen; a new terminal is where none is. -/
def enabled (p : Party) (e : PartyEvent) : Bool :=
  (p.terminals.find e.setting.fresh.id).isNone &&
  match e with
  | .call _ about e => e.isOwn && p.call.enabled e && about.all fun id => (p.terminals.find id).isSome
  | .unknown _ _ _ => p.call.fresh
  | .cesTimer _ id timer => (p.terminals.find id).any (·.pending timer)
  | _ => p.call.listed

/-- One step. -/
def step (p : Party) (e : PartyEvent) : Option Party :=
  if p.enabled e then
    ((p.ready e).take e).map fun next =>
      { next with acknowledged := p.acknowledged + next.call.sent.count .connectAcknowledge }
  else none

/-- A new call; `dlc` is NULL for one the network side makes on a multipoint access. -/
def alloc (role : IntfRole) (broadcastSetup tonesOption : Bool) (dlc : Option Nat) : Party where
  call := Call.alloc role broadcastSetup tonesOption
  terminals := { dlc := dlc }

end Party

end Vstuff.Q931.Call
