import Vstuff.Lapd.Proto
import Vstuff.Lib.Machine

/-! The TEI management entity of the network side (`tei_mgmt_nt.c`): the table of
dynamic TEIs, the checks in progress and the frames it handles, octet by octet.
Logging, the locks and the reference counts are left out, and memory allocation
is taken to succeed. -/
namespace Vstuff.Lapd.Ntme
open Transition
set_option linter.all false

/-- A TEI on the wire, seven bits. -/
abbrev Tei := Fin 128

/-- `LAPD_MIN_DYN_TEI`, `LAPD_MAX_DYN_TEI` and `LAPD_NUM_DYN_TEIS`. -/
def minDynTei : Nat := 64

def maxDynTei : Nat := 126

def numDynTeis : Nat := maxDynTei - minDynTei + 1

/-- `LAPD_MAX_STA_TEI`. -/
def maxStaTei : Nat := 63

/-- A TEI the network assigns by itself. -/
def isDynamic (tei : Tei) : Prop := minDynTei ≤ tei.val ∧ tei.val ≤ maxDynTei

instance (tei : Tei) : Decidable (isDynamic tei) := inferInstanceAs (Decidable (_ ∧ _))

/-- `LAPD_BROADCAST_TEI`: a check of it is a check of all TEIs. -/
def allTeis : Tei := Fin.ofNat 128 broadcastTei

/-- `enum lapd_intf_mode`. -/
inductive IntfMode where
  | pointToPoint | multipoint
  deriving DecidableEq, Repr

/-- The `LAPD_TEI_MT_*` values, in the order of their numbers from 1 on. -/
inductive MessageType where
  | request | assigned | denied | chkReq | chkRes | remove | verify
  deriving DecidableEq, Repr

/-- The reference number Ri: two octets that are copied and never looked at. -/
abbrev Ri := UInt8 × UInt8

/-- A message handed to `lapd_tm_send`. -/
structure Message where
  type : MessageType
  ri : Ri
  ai : Tei
  deriving DecidableEq, Repr

/-- A check has two windows. -/
instance checkWindows : NeZero 2 := ⟨by decide⟩

/-- `struct lapd_ntme_tei_check`. `responses` are the octets of the source, one
for each TEI and window. The last field is not in the source: it remembers the
Ai values of the check responses received since the check began. -/
structure TeiCheck where
  tei : Tei
  count : Fin 2 := 0
  responses : Tei → Fin 2 → UInt8 := fun _ _ => 0
  heard : List Tei := []

/-- `struct lapd_ntme`. `out` collects the messages of the event under way. -/
structure Entity where
  mode : IntfMode
  curDynTei : Nat
  teis : Nat → Bool := fun _ => false
  teiChecks : List TeiCheck := []
  out : List Message := []

variable (tme : Entity)

/-- `lapd_tm_send`. -/
def tmSend (type : MessageType) (ri : Ri) (ai : Tei) : Entity :=
  { tme with out := tme.out ++ [{ type := type, ri := ri, ai := ai }] }

/-! ## Received frames -/

/-- `sizeof(struct lapd_tei_mgmt_frame)`. -/
def frameSize : Nat := 8

/-- The offset of the first Ai octet. -/
def aiOffset : Nat := 7

def octet (skb : Octets) (offset : Nat) : UInt8 := skb.getD offset 0

/-- `value` of `struct lapd_tei_mgmt_ai`. -/
def aiValue (o : UInt8) : Tei := Fin.ofNat 128 (o.toNat / 2)

/-- `ext` of `struct lapd_tei_mgmt_ai`: no octet follows. -/
def aiExt (o : UInt8) : Bool := o.toNat % 2 == 1

/-- The loop over Ai octets of `lapd_ntme_handle_tei_check_response`, from the
first octet given. -/
def aiValues : Octets → List Tei
  | [] => []
  | o :: rest => aiValue o :: if aiExt o then [] else aiValues rest

def ri (skb : Octets) : Ri := (octet skb 4, octet skb 5)

/-- `tm->ai.value`. -/
def ai (skb : Octets) : Tei := aiValue (octet skb aiOffset)

/-- The switch over `tm_hdr.message_type`. -/
def messageType (skb : Octets) : Option MessageType :=
  match (octet skb 6).toNat with
  | 1 => some .request
  | 2 => some .assigned
  | 3 => some .denied
  | 4 => some .chkReq
  | 5 => some .chkRes
  | 6 => some .remove
  | 7 => some .verify
  | _ => none

/-- The checks of `lapd_ph_data_indication` and `lapd_ntme_handle_frame`: the
extension bits and the SAPI of the address, the size, a UI frame and the
management entity. -/
def accepts (skb : Octets) : Prop :=
  (octet skb 0).toNat % 2 = 0 ∧ (octet skb 1).toNat % 2 = 1 ∧ (octet skb 0).toNat / 4 = 0x3f ∧
    frameSize ≤ skb.length ∧ (octet skb 2).toNat % 4 = 3 ∧ (octet skb 2) &&& 0xEC = 0 ∧
    octet skb 3 = 0x0f

instance (skb : Octets) : Decidable (accepts skb) :=
  inferInstanceAs (Decidable (_ ∧ _ ∧ _ ∧ _ ∧ _ ∧ _ ∧ _))

/-! ## Transmitted frames (`tei_mgmt.c`) -/

def typeCode : MessageType → UInt8
  | .request => 1
  | .assigned => 2
  | .denied => 3
  | .chkReq => 4
  | .chkRes => 5
  | .remove => 6
  | .verify => 7

/-- The Ai octets; the last one is marked. -/
def aiOctets : List Tei → Octets
  | [] => []
  | [ai] => [UInt8.ofNat (2 * ai.val + 1)]
  | ai :: ais => UInt8.ofNat (2 * ai.val) :: aiOctets ais

/-- The frame `lapd_tm_send_multiai` builds. -/
def tmSendMultiai (role : IntfRole) (type : MessageType) (ri : Ri) (ais : List Tei) : Octets :=
  [if makeCr role .command then 0xfe else 0xfc, 0xff, 0x03, 0x0f, ri.1, ri.2, typeCode type] ++
    aiOctets ais

/-! ## TEI checks -/

/-- `_lapd_ntme_start_tei_check`. -/
def startTeiCheck (tei : Tei) : Entity :=
  if tme.teiChecks.any (fun tc => tc.tei == tei) then tme
  else tmSend { tme with teiChecks := tme.teiChecks ++ [{ tei := tei }] } .chkReq (0, 0) tei

/-- `lapd_ntme_tc_check_first`. -/
def tcCheckFirst (tc : TeiCheck) (tme : Entity) (tei : Tei) : Entity :=
  if tc.responses tei 0 > 1 then tmSend tme .remove (0, 0) tei else tme

/-- `lapd_ntme_tc_check_second`. -/
def tcCheckSecond (tc : TeiCheck) (tme : Entity) (tei : Tei) : Entity :=
  if tc.responses tei 0 = 0 ∧ tc.responses tei 1 = 0 then
    if isDynamic tei then
      { tme with teis := fun i => if i = tei.val - minDynTei then false else tme.teis i }
    else tme
  else if tc.responses tei 0 ≤ 1 ∧ tc.responses tei 1 ≤ 1 then tme
  else tmSend tme .remove (0, 0) tei

/-- One of the two checks, over the whole array for a check of all TEIs. -/
def tcCheckAll (check : TeiCheck → Entity → Tei → Entity) (tc : TeiCheck) (tme : Entity) : Entity :=
  if tc.tei = allTeis then (List.finRange 128).foldl (check tc) tme else check tc tme tc.tei

/-- `lapd_ntme_tc_T201_timer`, for the check at the given place of the list. A
check of a single TEI ends after its first window. -/
def tcT201Timer (i : Nat) : Entity :=
  match tme.teiChecks[i]? with
  | none => tme
  | some tc =>
    if tc.count = 0 then
      let tme := tcCheckAll tcCheckFirst tc tme
      if tc.tei = allTeis then
        tmSend { tme with teiChecks := tme.teiChecks.set i { tc with count := 1 } } .chkReq (0, 0) tc.tei
      else { tme with teiChecks := tme.teiChecks.eraseIdx i }
    else
      let tme := tcCheckAll tcCheckSecond tc tme
      { tme with teiChecks := tme.teiChecks.eraseIdx i }

/-! ## Handlers -/

/-- The search for a free TEI of `lapd_ntme_handle_tei_request`, for as many
turns as are left. -/
def findTei : Nat → Entity → Entity × Option Tei
  | 0, tme => (tme, none)
  | i + 1, tme =>
    let next := if tme.curDynTei + 1 > maxDynTei then minDynTei else tme.curDynTei + 1
    let tme := { tme with curDynTei := next }
    if tme.teis (next - minDynTei) then findTei i tme
    else
      ({ tme with teis := fun j => if j = next - minDynTei then true else tme.teis j },
        some (Fin.ofNat 128 next))

/-- `lapd_ntme_handle_tei_request`. -/
def handleTeiRequest (skb : Octets) : Entity :=
  if tme.mode = .pointToPoint then tmSend tme .denied (ri skb) (ai skb)
  else if (ai skb).val ≤ maxStaTei then tme
  else if isDynamic (ai skb) then tmSend tme .denied (ri skb) (ai skb)
  else
    match findTei numDynTeis tme with
    | (tme, some tei) => tmSend tme .assigned (ri skb) tei
    | (tme, none) =>
      (List.range numDynTeis).foldl (fun tme i => startTeiCheck tme (Fin.ofNat 128 (minDynTei + i)))
        (tmSend tme .denied (ri skb) (ai skb))

/-- The increment of a response counter, an octet that wraps. -/
def credit (tc : TeiCheck) (tei : Tei) : TeiCheck :=
  if tc.tei = allTeis ∨ tc.tei = tei then
    { tc with responses := fun t w =>
        if t = tei ∧ w = tc.count then tc.responses t w + 1 else tc.responses t w }
  else tc

/-- The Ai values a check response carries: those behind the two headers. -/
def listed (skb : Octets) : List Tei := aiValues (skb.drop aiOffset)

/-- `lapd_ntme_handle_tei_check_response`. The loop starts at `skb->data`. -/
def handleTeiCheckResponse (skb : Octets) : Entity :=
  { tme with teiChecks := tme.teiChecks.map fun tc =>
      let tc := (aiValues skb).foldl credit tc
      { tc with heard := tc.heard ++ listed skb } }

/-- `lapd_ntme_handle_tei_verify`. -/
def handleTeiVerify (skb : Octets) : Entity :=
  if ai skb = allTeis then tme else startTeiCheck tme (ai skb)

/-- `lapd_ntme_handle_frame`, on a frame the device received. -/
def handleFrame (skb : Octets) : Entity :=
  if accepts skb then
    match messageType skb with
    | some .chkRes => handleTeiCheckResponse tme skb
    | some .verify => handleTeiVerify tme skb
    | some .request => handleTeiRequest tme skb
    | _ => tme
  else tme

/-! ## Events -/

inductive Event where
  /-- A frame received by the device. -/
  | frame (skb : Octets)
  /-- `lapd_ntme_audit`. -/
  | audit
  /-- `lapd_ntme_start_tei_check`, for a socket in trouble. -/
  | check (tei : Tei)
  /-- T201 of the check at this place of the list expires. -/
  | t201 (i : Nat)
  deriving DecidableEq, Repr

def enabled : Event → Bool
  | .t201 i => i < tme.teiChecks.length
  | _ => true

def perform : Event → Entity
  | .frame skb => handleFrame tme skb
  | .audit => startTeiCheck tme allTeis
  | .check tei => startTeiCheck tme tei
  | .t201 i => tcT201Timer tme i

/-- One event. Its messages replace those of the event before. -/
def step (e : Event) : Option Entity :=
  if enabled tme e then some (perform { tme with out := [] } e) else none

/-- An entity as `lapd_ntme_alloc` makes it. -/
structure Init : Prop where
  cursor : minDynTei ≤ tme.curDynTei ∧ tme.curDynTei ≤ maxDynTei
  free : ∀ i, tme.teis i = false
  checks : tme.teiChecks = []

end Vstuff.Lapd.Ntme
