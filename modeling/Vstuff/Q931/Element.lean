import Vstuff.Q931.Codec

/-! The longer information elements (bearer capability, low and high layer
compatibility, channel identification) and the table of all decoders and
encoders. -/
namespace Vstuff.Q931
open Lapd (Octets IntfRole)
open Peek (cell)
set_option linter.all false

/-! ## Bearer capability and low layer compatibility -/

/-- `struct q931_ie_bearer_capability` and
`struct q931_ie_low_layer_compatibility`. A protocol that is `UNUSED` is not
there. -/
structure Compatibility where
  codingStandard : Nat
  informationTransferCapability : Nat
  transferMode : Nat
  informationTransferRate : Nat
  userInformationLayer1Protocol : Option Nat := none
  userInformationLayer2Protocol : Option Nat := none
  userInformationLayer3Protocol : Option Nat := none
  deriving DecidableEq, Repr

/-- What follows the octets read so far, with the number of them. -/
abbrev Continuation := Compatibility → Nat → Reader (Verdict Compatibility)

/-- The layer identifier of an octet 5, 6 or 7. -/
def octIdent (o : UInt8) : Nat := bits o 5 2

/-- `UIL1P_V110` and `UIL1P_V120` have octets 5b to 5d. -/
def hasOctet5b (protocol : Nat) : Bool := protocol == 1 || protocol == 8

/-- Octet 5 and its extensions. Octet 5 is looked at whatever the length. -/
def readOctet5 (ie : Compatibility) (n : Nat) (next : Continuation) : Reader (Verdict Compatibility) := do
  let oct5 ← cell n
  if octIdent oct5 = 1 then
    let ie := { ie with userInformationLayer1Protocol := some (bits oct5 0 5) }
    if ext oct5 then next ie (n + 1)
    else
      let oct5a ← cell (n + 1)
      if ext oct5a then next ie (n + 2)
      else if hasOctet5b (bits oct5 0 5) then
        let oct5b ← cell (n + 2)
        if ext oct5b then next ie (n + 3)
        else
          let oct5c ← cell (n + 3)
          if ext oct5c then next ie (n + 4)
          else
            let oct5d ← cell (n + 4)
            if ext oct5d then pure .reject else next ie (n + 5)
      else pure .reject
  else next ie n

/-- The octets 3 to 5, where the two decoders are the same. -/
def readOctets3To5 (len : Nat) (next : Continuation) : Reader (Verdict Compatibility) :=
  if len < 2 then pure .reject
  else do
    let oct3 ← cell 0
    if ext oct3 then
      let oct4 ← cell 1
      let ie : Compatibility := {
        codingStandard := bits oct3 5 2
        informationTransferCapability := bits oct3 0 5
        transferMode := bits oct4 5 2
        informationTransferRate := bits oct4 0 5 }
      if ext oct4 then readOctet5 ie 2 next
      else
        let oct4a ← cell 2
        if ext oct4a then readOctet5 ie 3 next
        else
          let oct4b ← cell 3
          if ext oct4b then readOctet5 ie 4 next else pure .reject
    else pure .reject

/-- Octet 7 of a bearer capability. -/
def readBearerOctet7 (len : Nat) (ie : Compatibility) (n : Nat) : Reader (Verdict Compatibility) :=
  if n ≥ len then pure (.accept ie)
  else do
    let oct7 ← cell n
    if octIdent oct7 = 2 then
      if ext oct7 then pure .reject
      else pure (.accept { ie with userInformationLayer3Protocol := some (bits oct7 0 5) })
    else pure (.accept ie)

/-- Octet 6 of a bearer capability. -/
def readBearerOctet6 (len : Nat) (ie : Compatibility) (n : Nat) : Reader (Verdict Compatibility) :=
  if n ≥ len then pure (.accept ie)
  else do
    let oct6 ← cell n
    if octIdent oct6 = 2 then
      if ext oct6 then pure .reject
      else
        readBearerOctet7 len { ie with userInformationLayer2Protocol := some (bits oct6 0 5) } (n + 1)
    else readBearerOctet7 len ie n

/-- `q931_ie_bearer_capability_read_from_buf`. -/
def readBearerCapability (len : Nat) : Reader (Verdict Compatibility) :=
  readOctets3To5 len (readBearerOctet6 len)

/-- Octets 7 and 7a of a low layer compatibility. -/
def readLowLayerOctet7 (len : Nat) (ie : Compatibility) (n : Nat) : Reader (Verdict Compatibility) :=
  if n ≥ len then pure (.accept ie)
  else do
    let oct7 ← cell n
    if octIdent oct7 = 2 then
      let ie := { ie with userInformationLayer3Protocol := some (bits oct7 0 5) }
      if ext oct7 then pure (.accept ie)
      else
        let oct7a ← cell (n + 1)
        if ext oct7a then pure .reject else pure (.accept ie)
    else pure (.accept ie)

/-- Octets 6 and 6a of a low layer compatibility. -/
def readLowLayerOctet6 (len : Nat) (ie : Compatibility) (n : Nat) : Reader (Verdict Compatibility) :=
  if n ≥ len then pure (.accept ie)
  else do
    let oct6 ← cell n
    if octIdent oct6 = 2 then
      let ie := { ie with userInformationLayer2Protocol := some (bits oct6 0 5) }
      if ext oct6 then readLowLayerOctet7 len ie (n + 1)
      else if n + 1 ≥ len then pure (.accept ie)
      else
        let oct6a ← cell (n + 1)
        if ext oct6a then pure .reject else readLowLayerOctet7 len ie (n + 2)
    else readLowLayerOctet7 len ie n

/-- `q931_ie_low_layer_compatibility_read_from_buf`. -/
def readLowLayerCompatibility (len : Nat) : Reader (Verdict Compatibility) :=
  readOctets3To5 len (readLowLayerOctet6 len)

/-- `q931_ie_bearer_capability_write_to_buf` and
`q931_ie_low_layer_compatibility_write_to_buf`. Octet 5 is left out of an
unrestricted or restricted digital circuit without a layer 1 protocol; packet
mode and a layer 2 protocol are errors. The last check of the source looks at
the layer 2 protocol again. -/
def writeCompatibility (ie : Compatibility) : Option Octets :=
  let oct3 := pack [(1, 1), (2, ie.codingStandard), (5, ie.informationTransferCapability)]
  let oct4 := pack [(1, 1), (2, ie.transferMode), (5, ie.informationTransferRate)]
  let oct5 :=
    if ie.transferMode = 0 ∧ ie.informationTransferCapability ∈ [0x08, 0x09] ∧
        ie.userInformationLayer1Protocol = none then []
    else [pack [(1, 1), (2, 1), (5, ie.userInformationLayer1Protocol.getD 0x1f)]]
  if ie.transferMode = 2 ∨ ie.userInformationLayer2Protocol ≠ none then none
  else some (oct3 :: oct4 :: oct5)

/-! ## High layer compatibility -/

/-- `struct q931_ie_high_layer_compatibility`. -/
structure HighLayerCompatibility where
  codingStandard : Nat
  interpretation : Nat
  presentationMethod : Nat
  characteristicsIdentification : Nat
  extendedCharacteristicsIdentification : Nat := 0
  deriving DecidableEq, Repr

/-- `q931_ie_high_layer_compatibility_read_from_buf`. -/
def readHighLayerCompatibility (len : Nat) : Reader (Verdict HighLayerCompatibility) :=
  if len < 2 then pure .reject
  else do
    let oct3 ← cell 0
    let oct4 ← cell 1
    let ie : HighLayerCompatibility := {
      codingStandard := bits oct3 5 2
      interpretation := bits oct3 2 3
      presentationMethod := bits oct3 0 2
      characteristicsIdentification := bits oct4 0 7 }
    if ext oct4 then pure (.accept ie)
    else if len < 3 then pure .reject
    else
      let oct4a ← cell 2
      if ext oct4a then pure .reject
      else pure (.accept { ie with extendedCharacteristicsIdentification := bits oct4a 0 7 })

/-- `q931_ie_high_layer_compatibility_write_to_buf`: the two values reserved for
maintenance and management have an octet 4a. -/
def writeHighLayerCompatibility (ie : HighLayerCompatibility) : Octets :=
  let oct3 := pack [(1, 1), (2, ie.codingStandard), (3, ie.interpretation), (2, ie.presentationMethod)]
  if ie.characteristicsIdentification ∈ [0x5e, 0x5f] then
    [oct3, pack [(1, 0), (7, ie.characteristicsIdentification)],
      pack [(1, 1), (7, ie.extendedCharacteristicsIdentification)]]
  else [oct3, pack [(1, 1), (7, ie.characteristicsIdentification)]]

/-! ## Channel identification -/

/-- `enum lapd_intf_type`. -/
inductive IntfType where
  | bra | pra
  deriving DecidableEq, Repr

/-- The fields of `struct q931_interface` the codecs read. A channel is known by
its place in `channels`. -/
structure Intf where
  type : IntfType
  role : IntfRole
  nChannels : Nat
  deriving DecidableEq, Repr

/-- `Q931_CHANSET_MAX_SIZE`. -/
def chansetMaxSize : Nat := 32

/-- `q931_chanset_add`, unless its assertion fails. -/
def chansetAdd (chanset : List Nat) (channel : Nat) : Option (List Nat) :=
  if chanset.length < chansetMaxSize then
    some (if channel ∈ chanset then chanset else chanset ++ [channel])
  else none

/-- `struct q931_ie_channel_identification`. -/
structure ChannelIdentification where
  interfacePrimary : Bool
  preferredExclusive : Nat
  dChannelIndicator : Nat := 0
  anyChannel : Bool := false
  chanset : List Nat := []
  deriving DecidableEq, Repr

/-- The loop over the octets 3d, for as many turns as are left. -/
def readChannels (len : Nat) : Nat → Nat → List Nat → Reader (Option (List Nat))
  | 0, _, chanset => pure (some chanset)
  | turns + 1, n, chanset => do
    let oct3d ← cell n
    match chansetAdd chanset (bits oct3d 0 7) with
    | none => pure none
    | some chanset =>
      if !ext oct3d ∧ n + 1 < len then readChannels len turns (n + 1) chanset
      else pure (some chanset)

/-- The channels of a primary rate interface, by the channel selection. -/
def readPrimaryChannels (intf : Intf) (len selection : Nat) (ie : ChannelIdentification) :
    Reader (Verdict ChannelIdentification) :=
  if selection = 1 then do
    match ← readChannels len len 2 [] with
    | none => pure .abort
    | some chanset => pure (.accept { ie with chanset := chanset })
  else if selection = 3 then
    match (List.range intf.nChannels).foldlM chansetAdd [] with
    | none => pure .abort
    | some chanset => pure (.accept { ie with anyChannel := true, chanset := chanset })
  else pure (.accept ie)

/-- `q931_ie_channel_identification_read_from_buf`. -/
def readChannelIdentification (intf : Intf) (len : Nat) : Reader (Verdict ChannelIdentification) :=
  if len < 1 then pure .reject
  else do
    let oct3 ← cell 0
    let selection := bits oct3 0 2
    let ie : ChannelIdentification := {
      interfacePrimary := bits oct3 5 1 == 1
      preferredExclusive := bits oct3 3 1
      dChannelIndicator := bits oct3 2 1 }
    -- An explicit interface and the D channel are not supported.
    if bits oct3 6 1 = 1 then pure .reject
    else if bits oct3 2 1 = 1 then pure .reject
    else if ie.interfacePrimary then
      if len < 2 then pure .reject
      else if intf.type = .bra then pure .reject
      else
        let oct3c ← cell 1
        if bits oct3c 5 2 ≠ 0 ∨ bits oct3c 4 1 = 1 then pure .reject
        else readPrimaryChannels intf len selection ie
    else if intf.type = .pra then pure .reject
    else if selection = 1 then pure (.accept { ie with chanset := [0] })
    else if selection = 2 then pure (.accept { ie with chanset := [1] })
    else if selection = 3 then
      if ie.preferredExclusive = 1 then pure .reject
      else pure (.accept { ie with anyChannel := true, chanset := [0, 1] })
    else pure (.accept ie)

/-- The first octet of a channel identification. -/
def channelOctet3 (ie : ChannelIdentification) (primary selection : Nat) : UInt8 :=
  pack [(1, 1), (1, 0), (1, primary), (1, 0), (1, ie.preferredExclusive), (1, ie.dChannelIndicator),
    (2, selection)]

/-- `q931_ie_channel_identification_write_to_buf_bra`. -/
def writeChannelIdentificationBra (ie : ChannelIdentification) : Option Octets :=
  if ie.anyChannel then some [channelOctet3 ie 0 3]
  else match ie.chanset with
    | [] => some [channelOctet3 ie 0 0]
    | [0] => some [channelOctet3 ie 0 1]
    | [1] => some [channelOctet3 ie 0 2]
    | [a, b] => if a ≤ 1 ∧ b ≤ 1 then some [channelOctet3 ie 0 3] else none
    | _ => none

/-- `q931_ie_channel_identification_write_to_buf_pra`. Every octet 3d has its
extension bit set. -/
def writeChannelIdentificationPra (ie : ChannelIdentification) : Octets :=
  let oct3c := pack [(1, 1), (2, 0), (1, 0), (4, 3)]
  if ie.anyChannel then [channelOctet3 ie 1 3, oct3c]
  else if ie.chanset = [] then [channelOctet3 ie 1 0, oct3c]
  else channelOctet3 ie 1 1 :: oct3c :: ie.chanset.map fun channel => pack [(1, 1), (7, channel)]

/-- `q931_ie_channel_identification_write_to_buf`. -/
def writeChannelIdentification (ie : ChannelIdentification) : Option Octets :=
  if ie.interfacePrimary then some (writeChannelIdentificationPra ie)
  else writeChannelIdentificationBra ie

/-! ## All elements -/

/-- What an element carries besides its class. -/
inductive Content where
  | sendingComplete
  | callIdentity (data : Octets)
  | callState (ie : CallState)
  | display (text : Octets)
  | notificationIndicator (description : Nat)
  | restartIndicator (restartClass : Nat)
  | progressIndicator (ie : ProgressIndicator)
  | datetime (time : Int)
  | calledPartyNumber (ie : PartyNumber)
  | callingPartyNumber (ie : PartyNumber)
  | connectedNumber (ie : PartyNumber)
  | cause (ie : Cause)
  | bearerCapability (ie : Compatibility)
  | lowLayerCompatibility (ie : Compatibility)
  | highLayerCompatibility (ie : HighLayerCompatibility)
  | channelIdentification (ie : ChannelIdentification)
  deriving DecidableEq, Repr

/-- Decoders and encoders by the identifier of the class, for elements with some
content. An encoder that fails gives no octets. -/
structure Codecs (γ : Type) where
  read : IeId → Nat → Reader (Verdict γ)
  write : IeId → γ → Option Octets

/-- A decoder of one kind of content. -/
def readAs {δ γ : Type} (kind : δ → γ) (x : Reader (Verdict δ)) : Reader (Verdict γ) := do
  let verdict ← x
  pure (verdict.map kind)

/-- The `read_from_buf` of each class that has one. -/
def readFromBuf (libc : Libc) (intf : Intf) (id : IeId) (len : Nat) : Reader (Verdict Content) :=
  match id with
  | .sendingComplete => pure (.accept .sendingComplete)
  | .callIdentity => readAs .callIdentity (readCallIdentity len)
  | .callState => readAs .callState (readCallState len)
  | .display => readAs .display (readDisplay len)
  | .notificationIndicator => readAs .notificationIndicator (readNotificationIndicator len)
  | .restartIndicator => readAs .restartIndicator (readRestartIndicator len)
  | .progressIndicator => readAs .progressIndicator (readProgressIndicator len)
  | .datetime => readAs .datetime (readDatetime libc len)
  | .calledPartyNumber => readAs .calledPartyNumber (readCalledPartyNumber len)
  | .callingPartyNumber => readAs .callingPartyNumber (readCallingPartyNumber len)
  | .connectedNumber => readAs .connectedNumber (readConnectedNumber len)
  | .cause => readAs .cause (readCause len)
  | .bearerCapability => readAs .bearerCapability (readBearerCapability len)
  | .lowLayerCompatibility => readAs .lowLayerCompatibility (readLowLayerCompatibility len)
  | .highLayerCompatibility => readAs .highLayerCompatibility (readHighLayerCompatibility len)
  | .channelIdentification => readAs .channelIdentification (readChannelIdentification intf len)
  | _ => pure .reject

/-- The `write_to_buf` of each class that has one. -/
def writeToBuf (libc : Libc) : Content → Option Octets
  | .sendingComplete => some [IeId.sendingComplete.code]
  | .callIdentity data => some data
  | .callState ie => some (writeCallState ie)
  | .display text => some (cString text)
  | .notificationIndicator description => some (writeNotificationIndicator description)
  | .restartIndicator restartClass => some (writeRestartIndicator restartClass)
  | .progressIndicator ie => some (writeProgressIndicator ie)
  | .datetime time => some (writeDatetime libc time)
  | .calledPartyNumber ie => some (writeCalledPartyNumber ie)
  | .callingPartyNumber ie | .connectedNumber ie => some (writeNumberWithIndicators ie)
  | .cause ie => some (writeCause ie)
  | .bearerCapability ie | .lowLayerCompatibility ie => writeCompatibility ie
  | .highLayerCompatibility ie => some (writeHighLayerCompatibility ie)
  | .channelIdentification ie => writeChannelIdentification ie

/-- The decoders and encoders of the library. -/
def codecs (libc : Libc) (intf : Intf) : Codecs Content where
  read := readFromBuf libc intf
  write _ := writeToBuf libc

end Vstuff.Q931
