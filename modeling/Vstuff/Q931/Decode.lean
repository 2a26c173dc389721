import Vstuff.Q931.Element

/-! Decoding the information elements of a received message: `q931_decode_ie`,
`q931_decode_shift_ie` and `q931_decode_ies` of `input.c`. The octets are looked
at in the memory from `rawies` on, which goes on behind the message. Logging is
left out, and with it what only the log reads (`curie`, `previous_ie_id`); its
dump of a rejected element is kept, since it reads the octets. -/
namespace Vstuff.Q931
open Lapd (Octets IntfRole)
open Peek (cell touch)
set_option linter.all false

/-- `struct q931_ie`. -/
structure Ie (γ : Type) where
  cls : IeClass
  content : γ
  deriving DecidableEq, Repr

/-- An element of `msg->ies`. The other fields are not in the source: they
remember the octets given to its decoder and the length the message declares. -/
structure Decoded (γ : Type) where
  ie : Ie γ
  start : Nat
  len : Nat
  declared : Nat
  deriving DecidableEq, Repr

/-- `struct q931_ieid_entry`. -/
structure IeidEntry where
  codeset : UInt8
  id : UInt8
  deriving DecidableEq, Repr

/-- `struct q931_decoder_status` with the elements of the message. `aborted` is
set when an assertion has failed. -/
structure DecoderStatus (γ : Type) where
  activeCodeset : UInt8 := 0
  mandatoryIes : List IeidEntry
  invalidMandIes : List IeidEntry := []
  invalidOptIes : List IeidEntry := []
  invalidAccessIes : List IeidEntry := []
  unrecognizedIes : List IeidEntry := []
  ies : List (Decoded γ) := []
  aborted : Bool := false
  deriving DecidableEq, Repr

section Decoder
variable {γ : Type} (codecs : Codecs γ) (ds : DecoderStatus γ)

/-- An element that cannot be handled is reported when its identifier asks for
comprehension. -/
def unrecognized (ieId : UInt8) (entry : IeidEntry) : DecoderStatus γ :=
  if ieComprehensionRequired ieId then { ds with unrecognizedIes := ds.unrecognizedIes ++ [entry] }
  else ds

/-- The entry of a class in one of the lists. -/
def IeClass.entry (cls : IeClass) : IeidEntry := { codeset := cls.codeset, id := cls.id.code }

/-- `q931_ie_has_content_errors`. -/
def ieHasContentErrors (cls : IeClass) (usage : IeUsage) : DecoderStatus γ :=
  if ieComprehensionRequired cls.id.code ∨ usage.presence = .mandatory then
    { ds with invalidMandIes := ds.invalidMandIes ++ [cls.entry] }
  else { ds with invalidOptIes := ds.invalidOptIes ++ [cls.entry] }

/-- How many elements of a class the message has so far. -/
def occurrences (cls : IeClass) : Nat :=
  ds.ies.countP fun d => d.ie.cls.id == cls.id && d.ie.cls.codeset == cls.codeset

/-- `q931_check_ie_size` fails. -/
def tooBig (cls : IeClass) (len : Nat) : Prop := cls.maxLen ≠ intMax ∧ len > cls.maxLen

instance (cls : IeClass) (len : Nat) : Decidable (tooBig cls len) :=
  inferInstanceAs (Decidable (_ ∧ _))

/-- More than `max_occur` elements of the class are there already. -/
def repeated (cls : IeClass) : Prop :=
  cls.maxOccur > 0 ∧ cls.maxOccur ≠ intMax ∧ occurrences ds cls > cls.maxOccur

instance (cls : IeClass) : Decidable (repeated ds cls) := inferInstanceAs (Decidable (_ ∧ _ ∧ _))

/-- The elements whose wrong size is an access error. -/
def accessIes : List IeId :=
  [.userUser, .lowLayerCompatibility, .highLayerCompatibility, .calledPartySubaddress]

/-- The first half of `q931_decode_ie`, up to the call of the decoder: the status
if it is not called, or the class with the length given to the decoder. -/
def admitIe (messageType codeset ieId : UInt8) (len : Nat) :
    Except (DecoderStatus γ) (IeClass × IeUsage × Nat) :=
  match getIeClass codeset ieId with
  | none => .error (unrecognized ds ieId { codeset := codeset, id := ieId })
  | some cls =>
    match getIeUsage messageType codeset ieId with
    | none => .error (unrecognized ds ieId { codeset := codeset, id := ieId })
    | some usage =>
      if repeated ds cls then .error ds
      else if !cls.coded then .error (unrecognized ds ieId cls.entry)
      else if tooBig cls len then
        if cls.id ∈ accessIes then
          .error { ds with invalidAccessIes := ds.invalidAccessIes ++ [cls.entry] }
        else if cls.id = .callIdentity then .ok (cls, usage, cls.maxLen)
        else .error (ieHasContentErrors ds cls usage)
      else .ok (cls, usage, len)

/-- `Q931_IES_NUM_IES`. -/
def iesNumIes : Nat := 260

/-- `q931_ies_add_put`, with the assertion of `q931_ies_add`. -/
def iesAddPut (d : Decoded γ) : DecoderStatus γ :=
  if ds.ies.length < iesNumIes then { ds with ies := ds.ies ++ [d] } else { ds with aborted := true }

/-- The second half of `q931_decode_ie`: the decoder is called. The octets of a
rejected element are dumped. -/
def readIe (cls : IeClass) (usage : IeUsage) (start len declared : Nat) : Reader (DecoderStatus γ) := do
  match ← (codecs.read cls.id len).shifted start with
  | .reject =>
    (touch len).shifted start
    pure (ieHasContentErrors ds cls usage)
  | .abort => pure { ds with aborted := true }
  | .accept content =>
    pure (iesAddPut ds { ie := ⟨cls, content⟩, start := start, len := len, declared := declared })

/-- `q931_decode_ie`, for the octets from `start` on. -/
def decodeIe (messageType codeset ieId : UInt8) (start len : Nat) : Reader (DecoderStatus γ) :=
  match admitIe ds messageType codeset ieId len with
  | .error ds => pure ds
  | .ok (cls, usage, admitted) => readIe codecs ds cls usage start admitted len

/-- `q931_decode_shift_ie`: the codeset of the next element, and the status. The
assertion on the codeset cannot fail. -/
def decodeShiftIe (ieId : UInt8) : UInt8 × DecoderStatus γ :=
  let codeset := getSoIeType2Value ieId &&& 0x07
  if getSoIeType2Value ieId &&& 0x08 ≠ 0 then (codeset, ds)
  else (codeset, { ds with activeCodeset := codeset })

/-- The element is not missing: its first entry is removed. -/
def present (codeset ieId : UInt8) : DecoderStatus γ :=
  { ds with mandatoryIes := ds.mandatoryIes.erase { codeset := codeset, id := ieId } }

/-- The loop of `q931_decode_ies` for as many turns as are left; nothing comes
out when they do not suffice. -/
def decodeLoop (messageType : UInt8) (rawiesLen : Nat) :
    Nat → Nat → UInt8 → DecoderStatus γ → Reader (Option (DecoderStatus γ))
  | 0, pos, _, ds => pure (if pos < rawiesLen then none else some ds)
  | turns + 1, pos, codeset, ds =>
    if pos < rawiesLen then do
      let ieId ← cell pos
      if isSoIe ieId then
        if getSoIeId ieId = IeId.shift.code then
          let (codeset, ds) := decodeShiftIe ds ieId
          decodeLoop messageType rawiesLen turns (pos + 1) codeset ds
        else
          let ds ← decodeIe codecs ds messageType codeset (getSoIeId ieId) pos 1
          if ds.aborted then pure (some ds)
          else
            let ds := present ds codeset ieId
            decodeLoop messageType rawiesLen turns (pos + 1) ds.activeCodeset ds
      else
        let ieLen ← cell (pos + 1)
        let ds ← decodeIe codecs ds messageType codeset ieId (pos + 2) ieLen.toNat
        if ds.aborted then pure (some ds)
        -- The frame is malformed: the element just decoded ends behind it.
        else if pos + ieLen.toNat + 2 > rawiesLen then pure (some ds)
        else
          let ds := present ds codeset ieId
          decodeLoop messageType rawiesLen turns (pos + ieLen.toNat + 2) ds.activeCodeset ds
    else pure (some ds)

/-- The mandatory elements of a message type, for one role of the interface. -/
def mandatoryIes (messageType : UInt8) (role : IntfRole) : List IeidEntry :=
  (ieUsages.filter fun u => u.messageType.code == messageType && u.presence == .mandatory).map
    (fun u => { codeset := u.codeset, id := u.ieId.code }) ++
    if messageType = MessageType.setup.code ∧ role = .te then
      [{ codeset := 0, id := IeId.channelIdentification.code }]
    else []

/-- `q931_decode_ies`. Every turn of the loop takes an octet at least. -/
def decodeIes (messageType : UInt8) (role : IntfRole) (rawiesLen : Nat) :
    Reader (Option (DecoderStatus γ)) :=
  decodeLoop codecs messageType rawiesLen rawiesLen 0 0
    { mandatoryIes := mandatoryIes messageType role }

end Decoder

end Vstuff.Q931
