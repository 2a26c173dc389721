import Vstuff.Lapd.TeiUnique

/-! The TEI management entities of the user side (`tei_mgmt_te.c`), those of all
the devices of one bus: the list of them, the frames their devices receive and the
timer T202. Logging and the locks are left out, but for one: the handler of T202 may
have to wait for the lock of its entity, so that the expiry and the handler are two
events. Memory allocation is taken to succeed. -/
namespace Vstuff.Lapd.Utme
open Ntme (Tei Ri MessageType octet messageType tmSendMultiai aiOctets aiValues aiValue isDynamic allTeis)
set_option linter.all false

/-- `enum lapd_tei_state`. -/
inductive TeiState where
  | unassigned | assigned
  deriving DecidableEq, Repr

/-- `LAPD_TEI_UNASSIGNED`, which is also the -1 of `lapd_utme_alloc`. -/
def teiUnassigned : Nat := 255

/-- `LAPD_DYNAMIC_TEI`: what a socket without a TEI of its own binds to. -/
def dynamicTei : Nat := 255

/-- `struct lapd_utme`. `t202` is the timer while it is pending, `firing` the handler
that has been started and still waits for the lock, and `hashed` is false when the
socket of the entity is gone. The last two fields are not in the source: they remember
the primitives passed to the socket, and the Ri values of the requests since the
last MDL-ASSIGN indication. -/
structure Entity where
  dev : Nat
  hashed : Bool := true
  refcnt : Int := 1
  n202 : Nat := 3
  t202 : Bool := false
  firing : Bool := false
  retransCnt : Nat := 0
  state : TeiState := .unassigned
  tei : Nat := teiUnassigned
  teiRequestRi : Ri := (0, 0)
  teiRequestPending : Bool := false
  told : List MdlPrimitive := []
  asked : List Ri := []
  deriving DecidableEq, Repr

/-- The TEI a socket uses that has been told this. -/
def inUse (told : List MdlPrimitive) : Option Nat :=
  told.foldl (fun tei pri =>
    match pri with
    | .assignRequest tei => some tei
    | .removeRequest => none
    | _ => tei) none

section Entity
variable (tme : Entity)

/-- The TEI the socket of the entity uses, while there is one. -/
def Entity.uses : Option Nat := if tme.hashed then inUse tme.told else none

/-! ## The timer and the references -/

def get : Entity := { tme with refcnt := tme.refcnt + 1 }

/-- `lapd_utme_put`. An entity without references is freed. -/
def put : Entity := { tme with refcnt := tme.refcnt - 1 }

/-- `lapd_utme_reset_timer`: a timer that was not pending holds a reference from now on. -/
def resetTimer : Entity :=
  { tme with t202 := true, refcnt := if tme.t202 then tme.refcnt else tme.refcnt + 1 }

/-- `lapd_utme_stop_timer`: one that was pending gives it back. -/
def stopTimer : Entity :=
  { tme with t202 := false, refcnt := if tme.t202 then tme.refcnt - 1 else tme.refcnt }

/-! ## One entity -/

/-- `lapd_mdl_primitive` for the socket of the entity, while there is one. -/
def mdlPrimitive (pri : MdlPrimitive) : Entity :=
  { tme with told := if tme.hashed then tme.told ++ [pri] else tme.told }

/-- `lapd_utme_send_tei_request`. The Ri is a random number. -/
def sendTeiRequest (ri : Ri) : Entity × List Octets :=
  ({ tme with teiRequestRi := ri, asked := tme.asked ++ [ri] }, [tmSendMultiai .te .request ri [allTeis]])

/-- `lapd_utme_mdl_assign_indication`. -/
def mdlAssignIndication (ri : Ri) : Entity × List Octets :=
  let tme := resetTimer { tme with retransCnt := 0, asked := [] }
  sendTeiRequest { tme with
    retransCnt := tme.retransCnt + 1
    teiRequestPending := true
    state := .unassigned } ri

/-- `lapd_utme_T202_timer`. -/
def t202Timer (ri : Ri) : Entity × List Octets :=
  if tme.retransCnt ≥ tme.n202 then
    let tme := mdlPrimitive { tme with
      state := .unassigned
      teiRequestPending := false
      teiRequestRi := (0, 0) } .errorResponse
    (put { tme with firing := false }, [])
  else
    let sent := sendTeiRequest { tme with retransCnt := tme.retransCnt + 1 } ri
    (put { resetTimer sent.1 with firing := false }, sent.2)

/-- What `lapd_utme_handle_tei_assigned` does with the entity whose request is answered. -/
def assign (tei : Nat) : Entity :=
  mdlPrimitive (stopTimer { tme with
    teiRequestPending := false
    teiRequestRi := (0, 0)
    tei := tei
    state := .assigned }) (.assignRequest tei)

/-- `lapd_utme_assign_static_tei`. -/
def assignStaticTei (tei : Nat) : Entity := assign tme tei

/-- `_lapd_utme_tei_remove`, and the same for a duplicate in `lapd_utme_handle_tei_assigned`. -/
def teiRemove : Entity :=
  mdlPrimitive { tme with tei := teiUnassigned, state := .unassigned } .removeRequest

/-- The destructor of the socket: the entity leaves the list, and two references go. -/
def destruct : Entity := put (put { tme with hashed := false })

end Entity

/-- `lapd_utme_alloc` and what `lapd_bind` does with the new entity. -/
def bind (dev salTei : Nat) : Entity :=
  let tme := get { dev := dev }
  if salTei ≤ Ntme.maxStaTei then assignStaticTei tme salTei else tme

/-! ## Received frames -/

/-- The checks of `lapd_ph_data_indication` and `lapd_utme_handle_frame`. The CRC is
counted here. -/
def accepts (skb : Octets) : Prop := Ntme.accepts skb ∧ Ntme.frameSize + 2 ≤ skb.length

instance (skb : Octets) : Decidable (accepts skb) := inferInstanceAs (Decidable (_ ∧ _))

/-- `lapd_utme_handle_tei_assigned`, from this place of the list on: who has the TEI
loses it, and the first entity that asked for it ends the search. -/
def handleTeiAssigned (dev : Nat) (skb : Octets) : List Entity → List Entity
  | [] => []
  | tme :: rest =>
    if tme.hashed = false ∨ tme.dev ≠ dev then tme :: handleTeiAssigned dev skb rest
    else if tme.state ≠ .unassigned ∧ (Ntme.ai skb).val = tme.tei then
      teiRemove tme :: handleTeiAssigned dev skb rest
    else if tme.teiRequestPending ∧ Ntme.ri skb = tme.teiRequestRi then assign tme (Ntme.ai skb).val :: rest
    else tme :: handleTeiAssigned dev skb rest

/-- The entities of a device that have a TEI. -/
def holds (dev : Nat) (tme : Entity) : Bool :=
  tme.hashed && tme.dev == dev && tme.state != .unassigned

/-- `ARRAY_SIZE(teis)` of `lapd_utme_handle_tei_check_request`. -/
def maxTeis : Nat := 128

/-- `value` of `struct lapd_tei_mgmt_ai` takes seven bits of the octet. -/
def aiOf (tei : Nat) : Tei := Fin.ofNat 128 tei

/-- `lapd_utme_handle_tei_check_request`: one response with all TEIs to a check of all
of them, else one for each entity that has the TEI. Nothing if it stores behind the
array. `random` are the numbers drawn. -/
def handleTeiCheckRequest (dev : Nat) (skb : Octets) (random : Nat → Ri) (hash : List Entity) :
    Option (List Octets) :=
  if Ntme.ai skb = allTeis then
    let teis := (hash.filter (holds dev)).map fun tme => aiOf tme.tei
    if teis.length ≤ maxTeis then
      some (if teis = [] then [] else [tmSendMultiai .te .chkRes (random 0) teis])
    else none
  else
    let teis := (hash.filter fun tme => holds dev tme && (Ntme.ai skb).val == tme.tei).map fun tme => aiOf tme.tei
    some (teis.zipIdx.map fun (tei, i) => tmSendMultiai .te .chkRes (random i) [tei])

/-- `lapd_utme_remove_tei`. -/
def removeTei (dev : Nat) (tei : Nat) (hash : List Entity) : List Entity :=
  hash.map fun tme => if holds dev tme ∧ (tei = broadcastTei ∨ tei = tme.tei) then teiRemove tme else tme

/-! ## Events -/

/-- `lapd_utme_hash`, and the frames sent by the event under way. -/
structure Users where
  hash : List Entity := []
  out : List Octets := []
  deriving DecidableEq, Repr

inductive Event where
  /-- `lapd_bind` of a socket of this device. -/
  | bind (dev salTei : Nat)
  /-- The socket of this entity asks for a TEI. -/
  | assignIndication (i : Nat) (ri : Ri)
  /-- T202 expires. -/
  | expire (i : Nat)
  /-- Its handler gets the lock. -/
  | t202 (i : Nat) (ri : Ri)
  /-- A frame received by the device. -/
  | frame (dev : Nat) (skb : Octets) (random : Nat → Ri)
  /-- `lapd_utme_tei_remove`, for a socket in trouble. -/
  | teiRemove (i : Nat)
  /-- The device is disconnected (`lapd_mph_information_indication`). -/
  | disconnected (dev : Nat)
  /-- The option `LAPD_TEI_MGMT_N202`, or `LAPD_TEI_MGMT_T202`, which writes N202 as well. -/
  | setN202 (i n202 : Nat)
  /-- The socket of this entity is destroyed. -/
  | destruct (i : Nat)

section Users
variable (s : Users)

/-- One entity acts, if it may. -/
def Users.act (i : Nat) (may : Entity → Bool) (f : Entity → Entity × List Octets) : Option Users :=
  (s.hash[i]?).bind fun tme =>
    if may tme then some { hash := s.hash.set i (f tme).1, out := (f tme).2 } else none

/-- `lapd_utme_handle_frame`. -/
def handleFrame (dev : Nat) (skb : Octets) (random : Nat → Ri) : Option Users :=
  if accepts skb then
    match messageType skb with
    | some .assigned => some { hash := handleTeiAssigned dev skb s.hash }
    | some .chkReq => (handleTeiCheckRequest dev skb random s.hash).map fun out => { s with out := out }
    | some .remove => some { hash := removeTei dev (Ntme.ai skb).val s.hash }
    | _ => some { hash := s.hash }
  else some { hash := s.hash }

/-- Both options are checked to be from 1 to 30, and the second is scaled by the
frequency of the clock, which is at most 1000. -/
def maxN202 : Nat := 30

def step : Event → Option Users
  | .bind dev salTei =>
    if salTei = dynamicTei ∨ salTei ≤ Ntme.maxStaTei then some { hash := bind dev salTei :: s.hash } else none
  | .assignIndication i ri => s.act i (·.hashed) (mdlAssignIndication · ri)
  | .expire i =>
    s.act i (fun tme => tme.t202 && !tme.firing) fun tme => ({ tme with t202 := false, firing := true }, [])
  | .t202 i ri => s.act i (·.firing) (t202Timer · ri)
  | .frame dev skb random => handleFrame s dev skb random
  | .teiRemove i => s.act i (·.hashed) fun tme => (teiRemove tme, [])
  | .disconnected dev => some { hash := removeTei dev broadcastTei s.hash }
  | .setN202 i n202 =>
    if n202 ≤ maxN202 then s.act i (·.hashed) fun tme => ({ tme with n202 := n202 }, []) else none
  | .destruct i => s.act i (·.hashed) fun tme => (destruct tme, [])

end Users

end Vstuff.Lapd.Utme
