import Vstuff.Lapd.Proto

/-! Information elements of Q.931 messages (`ie.h`, `ie.c`, `msgtype.h`): their
identifiers, classes and usage in messages. Names, which are only printed, the
network types and the directions, which nothing reads, are left out. -/
namespace Vstuff.Q931
open Lapd (Octets IntfRole)
set_option linter.all false

/-- `enum q931_ie_id`. -/
inductive IeId where
  | shift | congestionLevel | moreData | sendingComplete | repeatIndicator | segmentedMessage
  | changeStatus | special | connectedAddress | extendedFacility | bearerCapability | cause
  | callIdentity | callState | channelIdentification | facility | progressIndicator
  | networkSpecificFacilities | endpointId | notificationIndicator | display | datetime
  | keypadFacility | callStatus | update | infoRequest | signal | switchhook | featureActivation
  | featureIndication | informationRate | endToEndTransitDelay
  | transitDelaySelectionAndIndication | packetLayerBinaryParameters | packetLayerWindowSize
  | packetSize | closedUserGroup | reverseChargeIndication | connectedNumber | callingPartyNumber
  | callingPartySubaddress | calledPartyNumber | calledPartySubaddress | originalCalledNumber
  | redirectingNumber | redirectingSubaddress | redirectionNumber | redirectionSubaddress
  | transitNetworkSelection | restartIndicator | userUserFacility | lowLayerCompatibility
  | userUser | highLayerCompatibility | escapeForExtension
  deriving DecidableEq, Repr

def IeId.code : IeId → UInt8
  | .shift => 0x90
  | .congestionLevel => 0xb0
  | .moreData => 0xa0
  | .sendingComplete => 0xa1
  | .repeatIndicator => 0xd0
  | .segmentedMessage => 0x00
  | .changeStatus => 0x01
  | .special => 0x02
  | .connectedAddress => 0x0c
  | .extendedFacility => 0x0d
  | .bearerCapability => 0x04
  | .cause => 0x08
  | .callIdentity => 0x10
  | .callState => 0x14
  | .channelIdentification => 0x18
  | .facility => 0x1c
  | .progressIndicator => 0x1e
  | .networkSpecificFacilities => 0x20
  | .endpointId => 0x26
  | .notificationIndicator => 0x27
  | .display => 0x28
  | .datetime => 0x29
  | .keypadFacility => 0x2c
  | .callStatus => 0x2d
  | .update => 0x31
  | .infoRequest => 0x32
  | .signal => 0x34
  | .switchhook => 0x36
  | .featureActivation => 0x38
  | .featureIndication => 0x39
  | .informationRate => 0x40
  | .endToEndTransitDelay => 0x42
  | .transitDelaySelectionAndIndication => 0x43
  | .packetLayerBinaryParameters => 0x44
  | .packetLayerWindowSize => 0x45
  | .packetSize => 0x46
  | .closedUserGroup => 0x47
  | .reverseChargeIndication => 0x4a
  | .connectedNumber => 0x4c
  | .callingPartyNumber => 0x6c
  | .callingPartySubaddress => 0x6d
  | .calledPartyNumber => 0x70
  | .calledPartySubaddress => 0x71
  | .originalCalledNumber => 0x73
  | .redirectingNumber => 0x74
  | .redirectingSubaddress => 0x75
  | .redirectionNumber => 0x76
  | .redirectionSubaddress => 0x77
  | .transitNetworkSelection => 0x78
  | .restartIndicator => 0x79
  | .userUserFacility => 0x7a
  | .lowLayerCompatibility => 0x7c
  | .userUser => 0x7e
  | .highLayerCompatibility => 0x7d
  | .escapeForExtension => 0x7f

/-- `enum q931_message_type`. -/
inductive MessageType where
  | alerting | callProceeding | connect | connectAcknowledge | progress | setup
  | setupAcknowledge | disconnect | release | releaseComplete | restart | restartAcknowledge
  | status | statusEnquiry | userInformation | segment | congestionControl | information
  | facility | register | notify | hold | holdAcknowledge | holdReject | retrieve
  | retrieveAcknowledge | retrieveReject | resume | resumeAcknowledge | resumeReject | suspend
  | suspendAcknowledge | suspendReject
  deriving DecidableEq, Repr

def MessageType.code : MessageType → UInt8
  | .alerting => 0x01
  | .callProceeding => 0x02
  | .connect => 0x07
  | .connectAcknowledge => 0x0f
  | .progress => 0x03
  | .setup => 0x05
  | .setupAcknowledge => 0x0d
  | .disconnect => 0x45
  | .release => 0x4d
  | .releaseComplete => 0x5a
  | .restart => 0x46
  | .restartAcknowledge => 0x4e
  | .status => 0x7d
  | .statusEnquiry => 0x75
  | .userInformation => 0x20
  | .segment => 0x60
  | .congestionControl => 0x79
  | .information => 0x7b
  | .facility => 0x62
  | .register => 0x64
  | .notify => 0x6e
  | .hold => 0x24
  | .holdAcknowledge => 0x28
  | .holdReject => 0x30
  | .retrieve => 0x31
  | .retrieveAcknowledge => 0x33
  | .retrieveReject => 0x37
  | .resume => 0x26
  | .resumeAcknowledge => 0x2e
  | .resumeReject => 0x22
  | .suspend => 0x25
  | .suspendAcknowledge => 0x2d
  | .suspendReject => 0x21

/-! ## Single octet elements -/

/-- `q931_is_so_ie`. -/
def isSoIe (id : UInt8) : Bool := id &&& 0x80 != 0

/-- `q931_get_so_ie_type` is `Q931_SOIE_TYPE2`. -/
def isSoIeType2 (id : UInt8) : Bool := id &&& 0x70 == 0x20

/-- `q931_get_so_ie_id`. -/
def getSoIeId (id : UInt8) : UInt8 := if isSoIeType2 id then id else id &&& 0xF0

/-- `q931_get_so_ie_type2_value`. -/
def getSoIeType2Value (id : UInt8) : UInt8 := id &&& 0x0F

/-- `q931_ie_comprehension_required`. -/
def ieComprehensionRequired (id : UInt8) : Bool := id &&& 0xF0 == 0

/-! ## Classes -/

/-- `enum q931_ie_type`. -/
inductive IeType where
  | so | vl
  deriving DecidableEq, Repr

/-- `INT_MAX`: no limit. -/
def intMax : Nat := 2147483647

/-- `struct q931_ie_class`. `coded` says that it has functions to allocate, read
and write its elements: a class has all of them or none. -/
structure IeClass where
  type : IeType
  maxLen : Nat
  maxOccur : Nat
  codeset : UInt8
  id : IeId
  coded : Bool
  deriving DecidableEq, Repr

/-- `q931_ie_classes`. -/
def ieClasses : List IeClass :=
  [⟨.so, 1, 1, 0, .shift, false⟩,
    ⟨.so, 1, 1, 0, .moreData, false⟩,
    ⟨.so, 1, 1, 0, .sendingComplete, true⟩,
    ⟨.so, 1, 1, 0, .congestionLevel, false⟩,
    ⟨.so, 1, 1, 0, .repeatIndicator, false⟩,
    ⟨.vl, 4, 1, 0, .segmentedMessage, false⟩,
    ⟨.vl, intMax, 1, 0, .changeStatus, false⟩,
    ⟨.vl, intMax, 1, 0, .special, false⟩,
    ⟨.vl, intMax, 1, 0, .connectedAddress, false⟩,
    ⟨.vl, intMax, intMax, 0, .extendedFacility, false⟩,
    ⟨.vl, 12, 1, 0, .bearerCapability, true⟩,
    ⟨.vl, 32, 1, 0, .cause, true⟩,
    ⟨.vl, 10, 1, 0, .callIdentity, true⟩,
    ⟨.vl, 3, 1, 0, .callState, true⟩,
    ⟨.vl, intMax, intMax, 0, .channelIdentification, true⟩,
    ⟨.vl, intMax, intMax, 0, .facility, false⟩,
    ⟨.vl, 4, 2, 0, .progressIndicator, true⟩,
    ⟨.vl, intMax, 4, 0, .networkSpecificFacilities, false⟩,
    ⟨.vl, intMax, 1, 0, .endpointId, false⟩,
    ⟨.vl, 3, 1, 0, .notificationIndicator, true⟩,
    ⟨.vl, 82, 1, 0, .display, true⟩,
    ⟨.vl, 8, 1, 0, .datetime, true⟩,
    ⟨.vl, 34, 1, 0, .keypadFacility, false⟩,
    ⟨.vl, intMax, 1, 0, .callStatus, false⟩,
    ⟨.vl, intMax, 1, 0, .update, false⟩,
    ⟨.vl, intMax, 1, 0, .infoRequest, false⟩,
    ⟨.vl, 3, 1, 0, .signal, false⟩,
    ⟨.vl, 3, 1, 0, .switchhook, false⟩,
    ⟨.vl, 4, 1, 0, .featureActivation, false⟩,
    ⟨.vl, 5, 1, 0, .featureIndication, false⟩,
    ⟨.vl, 6, 1, 0, .informationRate, false⟩,
    ⟨.vl, 11, 1, 0, .endToEndTransitDelay, false⟩,
    ⟨.vl, 5, 1, 0, .transitDelaySelectionAndIndication, false⟩,
    ⟨.vl, 3, 1, 0, .packetLayerBinaryParameters, false⟩,
    ⟨.vl, 4, 1, 0, .packetLayerWindowSize, false⟩,
    ⟨.vl, 4, 1, 0, .packetSize, false⟩,
    ⟨.vl, intMax, 1, 0, .closedUserGroup, false⟩,
    ⟨.vl, intMax, 1, 0, .reverseChargeIndication, false⟩,
    ⟨.vl, intMax, 1, 0, .connectedNumber, true⟩,
    ⟨.vl, 24, 1, 0, .callingPartyNumber, true⟩,
    ⟨.vl, 23, 1, 0, .callingPartySubaddress, false⟩,
    ⟨.vl, 23, 1, 0, .calledPartyNumber, true⟩,
    ⟨.vl, 23, 1, 0, .calledPartySubaddress, false⟩,
    ⟨.vl, intMax, 1, 0, .originalCalledNumber, false⟩,
    ⟨.vl, intMax, 1, 0, .redirectingNumber, false⟩,
    ⟨.vl, intMax, 1, 0, .redirectingSubaddress, false⟩,
    ⟨.vl, intMax, 1, 0, .redirectionNumber, false⟩,
    ⟨.vl, intMax, 1, 0, .redirectionSubaddress, false⟩,
    ⟨.vl, intMax, 1, 0, .transitNetworkSelection, false⟩,
    ⟨.vl, 3, 1, 0, .restartIndicator, true⟩,
    ⟨.vl, intMax, intMax, 0, .userUserFacility, false⟩,
    ⟨.vl, 16, 1, 0, .lowLayerCompatibility, true⟩,
    ⟨.vl, 5, 1, 0, .highLayerCompatibility, true⟩,
    ⟨.vl, 131, 1, 0, .userUser, false⟩,
    ⟨.vl, intMax, 1, 0, .escapeForExtension, false⟩]

/-- `q931_get_ie_class`. -/
def getIeClass (codeset id : UInt8) : Option IeClass :=
  ieClasses.find? fun c => c.codeset == codeset && c.id.code == id

/-! ## Usage -/

/-- `enum q931_ie_presence`. -/
inductive IePresence where
  | optional | mandatory
  deriving DecidableEq, Repr

/-- `struct q931_ie_usage`. -/
structure IeUsage where
  messageType : MessageType
  codeset : UInt8
  ieId : IeId
  presence : IePresence
  deriving DecidableEq, Repr

/-- The rows of one message type, all of codeset 0. -/
def usages (messageType : MessageType) (rows : List (IeId × IePresence)) : List IeUsage :=
  rows.map fun row => ⟨messageType, 0, row.1, row.2⟩

/-- `q931_ie_usages`. -/
def ieUsages : List IeUsage :=
  usages .alerting [(.bearerCapability, .optional), (.channelIdentification, .optional),
    (.facility, .optional), (.extendedFacility, .optional), (.progressIndicator, .optional),
    (.display, .optional), (.userUser, .optional)] ++
  usages .callProceeding [(.bearerCapability, .optional), (.channelIdentification, .optional),
    (.progressIndicator, .optional), (.display, .optional),
    (.highLayerCompatibility, .optional)] ++
  usages .connect [(.bearerCapability, .optional), (.channelIdentification, .optional),
    (.facility, .optional), (.extendedFacility, .optional), (.progressIndicator, .optional),
    (.display, .optional), (.datetime, .optional), (.lowLayerCompatibility, .optional),
    (.highLayerCompatibility, .optional), (.userUser, .optional), (.connectedNumber, .optional)] ++
  usages .congestionControl [(.congestionLevel, .mandatory), (.cause, .optional),
    (.display, .optional)] ++
  usages .connectAcknowledge [(.display, .optional)] ++
  usages .disconnect [(.cause, .mandatory), (.facility, .optional),
    (.extendedFacility, .optional), (.progressIndicator, .optional), (.display, .optional),
    (.userUser, .optional)] ++
  usages .facility [(.facility, .mandatory), (.extendedFacility, .mandatory),
    (.calledPartyNumber, .optional), (.calledPartySubaddress, .optional), (.display, .optional)] ++
  usages .register [(.facility, .optional), (.extendedFacility, .optional),
    (.display, .optional)] ++
  usages .information [(.sendingComplete, .optional), (.cause, .optional),
    (.display, .optional), (.keypadFacility, .optional), (.calledPartyNumber, .optional)] ++
  usages .notify [(.notificationIndicator, .mandatory), (.display, .optional)] ++
  usages .hold [(.display, .optional)] ++
  usages .holdAcknowledge [(.display, .optional)] ++
  usages .holdReject [(.cause, .mandatory), (.display, .optional)] ++
  usages .retrieve [(.channelIdentification, .optional), (.display, .optional)] ++
  usages .retrieveAcknowledge [(.channelIdentification, .optional), (.display, .optional)] ++
  usages .retrieveReject [(.cause, .mandatory), (.display, .optional)] ++
  usages .progress [(.bearerCapability, .optional), (.cause, .optional),
    (.progressIndicator, .mandatory), (.display, .optional),
    (.highLayerCompatibility, .optional), (.userUser, .optional)] ++
  usages .release [(.cause, .optional), (.facility, .optional), (.extendedFacility, .optional),
    (.display, .optional), (.userUser, .optional)] ++
  usages .releaseComplete [(.cause, .optional), (.facility, .optional),
    (.extendedFacility, .optional), (.display, .optional), (.userUser, .optional)] ++
  usages .restart [(.channelIdentification, .optional), (.display, .optional),
    (.restartIndicator, .mandatory)] ++
  usages .restartAcknowledge [(.channelIdentification, .optional), (.display, .optional),
    (.restartIndicator, .mandatory)] ++
  usages .resume [(.callIdentity, .optional)] ++
  usages .resumeAcknowledge [(.channelIdentification, .mandatory), (.display, .optional)] ++
  usages .resumeReject [(.cause, .mandatory), (.display, .optional)] ++
  usages .setup [(.sendingComplete, .optional), (.bearerCapability, .mandatory),
    (.channelIdentification, .optional), (.facility, .optional), (.extendedFacility, .optional),
    (.progressIndicator, .optional), (.networkSpecificFacilities, .optional),
    (.display, .optional), (.keypadFacility, .optional), (.callingPartyNumber, .optional),
    (.callingPartySubaddress, .optional), (.calledPartyNumber, .optional),
    (.calledPartySubaddress, .optional), (.transitNetworkSelection, .optional),
    (.lowLayerCompatibility, .optional), (.highLayerCompatibility, .optional),
    (.datetime, .optional), (.userUser, .optional)] ++
  usages .setupAcknowledge [(.channelIdentification, .optional),
    (.progressIndicator, .optional), (.display, .optional)] ++
  usages .status [(.cause, .mandatory), (.callState, .mandatory), (.display, .optional)] ++
  usages .statusEnquiry [(.display, .optional)] ++
  usages .suspend [(.callIdentity, .optional)] ++
  usages .suspendAcknowledge [(.display, .optional)] ++
  usages .suspendReject [(.cause, .mandatory), (.display, .optional)] ++
  usages .userInformation [(.moreData, .optional), (.userUser, .mandatory)]

/-- `q931_get_ie_usage`. The message type is not looked at. -/
def getIeUsage (_messageType codeset ieId : UInt8) : Option IeUsage :=
  ieUsages.find? fun u => u.codeset == codeset && u.ieId.code == ieId

/-- The table has one class for each identifier. -/
theorem getIeClass_self : ∀ c ∈ ieClasses, getIeClass c.codeset c.id.code = some c := by
  decide +kernel

/-- A Cause is no element of the last codeset. -/
example : getIeClass 7 IeId.cause.code = none := by decide +kernel

theorem getIeClass_mem {codeset id : UInt8} {c : IeClass} (found : getIeClass codeset id = some c) :
    c ∈ ieClasses ∧ c.codeset = codeset ∧ c.id.code = id := by
  have here := List.find?_some found
  simp only [Bool.and_eq_true, beq_iff_eq] at here
  exact ⟨List.mem_of_find?_eq_some found, here⟩

end Vstuff.Q931
