import Vstuff.Q931.Decode

/-! Building and taking apart whole messages: `q931_make_callref`,
`q931_prepare_header` and `q931_write_ies` on the one side, the header code of
`q931_receive` on the other. The host is little-endian. -/
namespace Vstuff.Q931
open Lapd (Octets IntfRole)
set_option linter.all false

/-- `enum q931_callref_flag`. -/
inductive CallrefFlag where
  | fromOriginatingSide | toOriginatingSide
  deriving DecidableEq, Repr

/-- `enum q931_call_direction`. -/
inductive CallDirection where
  | inbound | outbound
  deriving DecidableEq, Repr

/-- The direction the other side gives the call. -/
def CallDirection.opposite : CallDirection → CallDirection
  | .inbound => .outbound
  | .outbound => .inbound

/-- The flag of the messages sent on a call. -/
def CallDirection.flag : CallDirection → CallrefFlag
  | .inbound => .toOriginatingSide
  | .outbound => .fromOriginatingSide

/-- The direction of the call a message with the flag is for. -/
def CallrefFlag.direction : CallrefFlag → CallDirection
  | .fromOriginatingSide => .inbound
  | .toOriginatingSide => .outbound

/-- `Q931_PROTOCOL_DISCRIMINATOR_Q931`. -/
def protocolDiscriminatorQ931 : UInt8 := 0x08

/-- `sizeof(struct q931_header)`. -/
def headerSize : Nat := 2

/-- The size of `raw` in `struct q931_message`. -/
def rawSize : Nat := 512

/-! ## Output -/

/-- `q931_make_callref`: the octets of the reference, highest first. -/
def makeCallref (len callref : Nat) (direction : CallrefFlag) : Octets :=
  let octets := (List.range len).map fun i => UInt8.ofNat (callref / 256 ^ (len - 1 - i))
  match direction, octets with
  | .toOriginatingSide, first :: rest => (first ||| 0x80) :: rest
  | _, octets => octets

/-- `1 << (len * 8 - 1)` as an `int`. -/
def callrefLimit (len : Nat) : Int := ((1 : BitVec 32) <<< (len * 8 - 1)).toInt

/-- `q931_prepare_header`; nothing if an assertion fails. -/
def prepareHeader (callReferenceLen callReference : Nat) (direction : CallDirection)
    (messageType : UInt8) : Option Octets :=
  if 1 ≤ callReferenceLen ∧ callReferenceLen ≤ 4 ∧ 0 < callReference ∧
      callReference < callrefLimit callReferenceLen then
    some (protocolDiscriminatorQ931 :: UInt8.ofNat callReferenceLen ::
      makeCallref callReferenceLen callReference direction.flag ++ [messageType])
  else none

/-- `qsort` with `q931_ies_compare`: it may leave elements with the same
identifier in any order. -/
structure Qsort (γ : Type) where
  sort : List (Ie γ) → List (Ie γ)
  perm : ∀ ies, (sort ies).Perm ies
  sorted : ∀ ies, (sort ies).Pairwise fun a b => a.cls.id.code ≤ b.cls.id.code

section Output
variable {γ : Type} (codecs : Codecs γ) (qsort : Qsort γ)

/-- One turn of the loop of `q931_write_ies`; nothing if an assertion fails. Of
a single octet element one octet is kept. -/
def writeIe (ie : Ie γ) : Option Octets :=
  if !ie.cls.coded then none
  else (codecs.write ie.cls.id ie.content).bind fun payload =>
    match ie.cls.type with
    | .vl => some (ie.cls.id.code :: UInt8.ofNat payload.length :: payload)
    | .so => payload.head?.map fun octet => [octet]

/-- `q931_write_ies`, with the assertion of `q931_ies_add`. -/
def writeIes (ies : List (Ie γ)) : Option Octets :=
  if ies.length ≤ iesNumIes then ((qsort.sort ies).mapM (writeIe codecs)).map List.flatten else none

/-- The message `q931_send_message` hands to the data link; nothing if it does
not fit `raw`. -/
def buildMessage (callReferenceLen callReference : Nat) (direction : CallDirection)
    (messageType : UInt8) (ies : List (Ie γ)) : Option Octets := do
  let header ← prepareHeader callReferenceLen callReference direction messageType
  let octets ← writeIes codecs qsort ies
  if header.length + octets.length ≤ rawSize then some (header ++ octets) else none

end Output

/-! ## Input -/

/-- What a message is for: the dummy call reference, the global call, or a call
that was begun by this side or the other. -/
inductive Addressee where
  | dummy
  | global
  | call (direction : CallDirection) (callref : Nat)
  deriving DecidableEq, Repr

/-- The fields of `struct q931_message` the header gives. -/
structure Received where
  callref : Nat
  callrefDirection : CallrefFlag
  callrefLen : Nat
  messageType : UInt8
  rawies : Octets
  deriving DecidableEq, Repr

/-- The loop over the octets of the call reference. -/
def receiveCallref (octets : Octets) : Nat × CallrefFlag :=
  match octets with
  | [] => (0, .fromOriginatingSide)
  | first :: rest =>
    (((first &&& 0x7f) :: rest).foldl (fun callref octet => callref * 256 + octet.toNat) 0,
      if first &&& 0x80 ≠ 0 then .toOriginatingSide else .fromOriginatingSide)

/-- The header code of `q931_receive`; nothing if the message is ignored. -/
def receiveHeader (raw : Octets) : Option Received :=
  match raw with
  | discriminator :: lengths :: rest =>
    if discriminator ≠ protocolDiscriminatorQ931 then none
    else if bits lengths 4 4 ≠ 0 then none
    else
      let len := bits lengths 0 4
      if len > 4 then none
      else
        let (callref, direction) := receiveCallref (rest.take len)
        match rest.drop len with
        | [] => none
        | messageType :: rawies =>
          some {
            callref := callref
            callrefDirection := direction
            callrefLen := len
            messageType := messageType
            rawies := rawies }
  | _ => none

/-- Which call is searched for, if any. -/
def Received.addressee (received : Received) : Addressee :=
  if received.callrefLen = 0 then .dummy
  else if received.callref = 0 then .global
  else .call received.callrefDirection.direction received.callref

end Vstuff.Q931
