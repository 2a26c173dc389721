import Vstuff.Q931.Codings

/-! The three compatibility elements both ways: what is written comes back, and what was read
comes back once it is written again. -/
namespace Vstuff.Q931
open Lapd (Octets)
open Fields
set_option linter.all false

/-- The two elements that describe a connection by its layers. -/
inductive CompatKind where
  | bearer | lowLayer
  deriving DecidableEq, Repr

def CompatKind.id : CompatKind → IeId
  | .bearer => .bearerCapability
  | .lowLayer => .lowLayerCompatibility

def CompatKind.content : CompatKind → Compatibility → Content
  | .bearer => .bearerCapability
  | .lowLayer => .lowLayerCompatibility

/-- Where the two decoders part. -/
def CompatKind.readOctet6 : CompatKind → Nat → Continuation
  | .bearer => readBearerOctet6
  | .lowLayer => readLowLayerOctet6

/-- The octets of an element with nothing but the octets 3, 4 and 5: no extension of octet 4, and
none of octet 5 if that is there. -/
structure CompatOctets where
  oct3 : UInt8
  oct4 : UInt8
  oct5 : Option UInt8
  last4 : ext oct4 = true
  last5 : ∀ o ∈ oct5, octIdent o = 1 ∧ ext o = true

def CompatOctets.octets (wire : CompatOctets) : Octets := wire.oct3 :: wire.oct4 :: wire.oct5.toList

/-- The octets of a high layer compatibility, with an octet 4a if octet 4 is not the last. -/
structure HighLayerOctets where
  oct3 : UInt8
  oct4 : UInt8
  oct4a : Option UInt8
  last4 : oct4a.isSome = !ext oct4

def HighLayerOctets.octets (wire : HighLayerOctets) : Octets :=
  wire.oct3 :: wire.oct4 :: wire.oct4a.toList

/-- If the encoder takes the content, it comes back. -/
def ReturnsWritten (libc : Libc) (intf : Intf) (id : IeId) (content : Content) : Prop :=
  (codecs libc intf).write id content ≠ none → RoundTrips libc intf id content

/-- If the decoder takes the octets, whatever follows in memory, what it makes of them comes back. -/
def ReturnsRead (libc : Libc) (intf : Intf) (id : IeId) (octets : Octets) : Prop :=
  ∀ m, Holds m 0 octets → ∀ content, ((codecs libc intf).read id octets.length).value m = .accept content →
    RoundTrips libc intf id content

/-- The value fits its octets, has a layer 1 protocol and no layer 3 protocol. -/
structure Compatibility.Carried (ie : Compatibility) : Prop where
  standard : ie.codingStandard < 4
  capability : ie.informationTransferCapability < 32
  mode : ie.transferMode < 4
  rate : ie.informationTransferRate < 32
  layer1 : ∃ protocol < 32, ie.userInformationLayer1Protocol = some protocol
  layer3 : ie.userInformationLayer3Protocol = none

/-- The value fits its octets and needs no octet 4a. -/
structure HighLayerCompatibility.Carried (ie : HighLayerCompatibility) : Prop where
  standard : ie.codingStandard < 4
  interpretation : ie.interpretation < 8
  presentation : ie.presentationMethod < 4
  characteristics : ie.characteristicsIdentification < 128
  unreserved : ie.characteristicsIdentification ∉ [0x5e, 0x5f]
  unextended : ie.extendedCharacteristicsIdentification = 0

/-- A field of an octet is the value cut to it. -/
theorem bits_pack_mod (front : List (Nat × Nat)) (w v : Nat) (back : List (Nat × Nat))
    (fits : width (front ++ (w, v) :: back) ≤ 8) :
    bits (pack (front ++ (w, v) :: back)) (width back) w = v % 2 ^ w := by
  rw [bits, toNat_pack fits, packed_field]

/-- If all that a decoder finds in the octets is the same, that has to come back. -/
theorem returnsRead_iff {libc : Libc} {intf : Intf} {id : IeId} {octets : Octets} (found : Verdict Content)
    (finds : ∀ m, Holds m 0 octets → ((codecs libc intf).read id octets.length).value m = found) :
    ReturnsRead libc intf id octets ↔ ∀ content, found = .accept content → RoundTrips libc intf id content := by
  constructor
  · intro returns content accepted
    have holds := memory_holds octets fun _ => 0
    exact returns _ holds content ((finds _ holds).trans accepted)
  · intro back m holds content read
    exact back content ((finds m holds).symm.trans read)

theorem bits_lt (o : UInt8) (low w : Nat) : bits o low w < 2 ^ w := Nat.mod_lt _ (Nat.two_pow_pos w)

section Layers
variable {libc : Libc} {intf : Intf} {kind : CompatKind} {ie : Compatibility} {m : Nat → UInt8}

theorem read_compat (len : Nat) :
    ((codecs libc intf).read kind.id len).value m =
      ((readOctets3To5 len (kind.readOctet6 len)).value m).map kind.content := by
  cases kind <;> rfl

theorem write_compat : (codecs libc intf).write kind.id (kind.content ie) = writeCompatibility ie := by
  cases kind <;> rfl

/-- Behind the last octet the decoders are done. -/
theorem readOctet6_end {len n : Nat} (past : n ≥ len) : kind.readOctet6 len ie n = pure (.accept ie) := by
  cases kind <;> exact if_pos past

theorem content_inj {ie' : Compatibility} (same : kind.content ie = kind.content ie') : ie = ie' := by
  cases kind <;> cases same <;> rfl

/-- The fields of the octets 3 and 4. -/
def compatFields (oct3 oct4 : UInt8) : Compatibility where
  codingStandard := bits oct3 5 2
  informationTransferCapability := bits oct3 0 5
  transferMode := bits oct4 5 2
  informationTransferRate := bits oct4 0 5

/-- And with the layer 1 protocol of an octet 5. -/
def compatValue (oct3 oct4 oct5 : UInt8) : Compatibility :=
  { compatFields oct3 oct4 with userInformationLayer1Protocol := some (bits oct5 0 5) }

theorem octets3To5_found {len : Nat} {next : Continuation} (long : ¬len < 2) (last3 : ext (m 0) = true)
    (last4 : ext (m 1) = true) :
    (readOctets3To5 len next).value m = (readOctet5 (compatFields (m 0) (m 1)) 2 next).value m := by
  rw [readOctets3To5, if_neg long, Peek.value_cell_bind, if_pos last3, Peek.value_cell_bind, if_pos last4]
  rfl

/-- An octet 5 without extensions gives the layer 1 protocol. -/
theorem octet5_found {n : Nat} {next : Continuation} (ident : octIdent (m n) = 1) (last : ext (m n) = true) :
    (readOctet5 ie n next).value m =
      (next { ie with userInformationLayer1Protocol := some (bits (m n) 0 5) } (n + 1)).value m := by
  rw [readOctet5, Peek.value_cell_bind, if_pos ident]
  simp only [last, if_true]

/-- Another octet is left to whatever comes behind. -/
theorem octet5_missing {n : Nat} {next : Continuation} (other : octIdent (m n) ≠ 1) :
    (readOctet5 ie n next).value m = (next ie n).value m := by
  rw [readOctet5, Peek.value_cell_bind, if_neg other]

/-- What the decoder makes of the octets 3 to 5, the last of which need not be part of the element. -/
theorem with_octet5_found {len : Nat} (long : ¬len < 2) (short : 3 ≥ len) (last3 : ext (m 0) = true)
    (last4 : ext (m 1) = true) (ident : octIdent (m 2) = 1) (last5 : ext (m 2) = true) :
    ((codecs libc intf).read kind.id len).value m =
      .accept (kind.content (compatValue (m 0) (m 1) (m 2))) := by
  rw [read_compat, octets3To5_found long last3 last4, octet5_found ident last5, readOctet6_end short]
  rfl

/-- What it makes of the octets 3 and 4 if no octet 5 seems to follow. -/
theorem without_octet5_found (last3 : ext (m 0) = true) (last4 : ext (m 1) = true)
    (other : octIdent (m 2) ≠ 1) :
    ((codecs libc intf).read kind.id 2).value m = .accept (kind.content (compatFields (m 0) (m 1))) := by
  rw [read_compat, octets3To5_found (by decide) last3 last4, octet5_missing other,
    readOctet6_end (Nat.le_refl 2)]
  rfl

/-- The octets 3 and 4 as they are written. -/
def compatOctet3 (ie : Compatibility) : UInt8 :=
  pack [(1, 1), (2, ie.codingStandard), (5, ie.informationTransferCapability)]

def compatOctet4 (ie : Compatibility) : UInt8 :=
  pack [(1, 1), (2, ie.transferMode), (5, ie.informationTransferRate)]

def compatOctet5 (protocol : Nat) : UInt8 := pack [(1, 1), (2, 1), (5, protocol)]

theorem ext_compatOctet3 : ext (compatOctet3 ie) = true := ext_pack 1 _ (by simp [width]) (by decide)

theorem ext_compatOctet4 : ext (compatOctet4 ie) = true := ext_pack 1 _ (by simp [width]) (by decide)

/-- The fields come back cut to their octets. -/
theorem compatFields_written : compatFields (compatOctet3 ie) (compatOctet4 ie) = {
    codingStandard := ie.codingStandard % 4
    informationTransferCapability := ie.informationTransferCapability % 32
    transferMode := ie.transferMode % 4
    informationTransferRate := ie.informationTransferRate % 32 } := by
  have standard := bits_pack_mod [(1, 1)] 2 ie.codingStandard [(5, ie.informationTransferCapability)]
    (by simp [width])
  have capability := bits_pack_mod [(1, 1), (2, ie.codingStandard)] 5 ie.informationTransferCapability []
    (by simp [width])
  have mode := bits_pack_mod [(1, 1)] 2 ie.transferMode [(5, ie.informationTransferRate)] (by simp [width])
  have rate := bits_pack_mod [(1, 1), (2, ie.transferMode)] 5 ie.informationTransferRate [] (by simp [width])
  rw [compatFields, Compatibility.mk.injEq]
  exact ⟨standard, capability, mode, rate, rfl, rfl, rfl⟩

theorem compatOctet5_fields (protocol : Nat) :
    ext (compatOctet5 protocol) = true ∧ octIdent (compatOctet5 protocol) = 1 ∧
      bits (compatOctet5 protocol) 0 5 = protocol % 32 :=
  ⟨ext_pack 1 _ (by simp [width]) (by decide), bits_pack_mod [(1, 1)] 2 1 [(5, protocol)] (by simp [width]),
    bits_pack_mod [(1, 1), (2, 1)] 5 protocol [] (by simp [width])⟩

/-- What comes back of a value written with an octet 5 is the value exactly if that is carried. -/
theorem carried_iff (layer2 : ie.userInformationLayer2Protocol = none) :
    compatValue (compatOctet3 ie) (compatOctet4 ie)
        (compatOctet5 (ie.userInformationLayer1Protocol.getD 0x1f)) = ie ↔ ie.Carried := by
  rw [compatValue, compatFields_written, (compatOctet5_fields _).2.2]
  constructor
  · intro same
    have standard : ie.codingStandard % 4 = ie.codingStandard := congrArg Compatibility.codingStandard same
    have capability : ie.informationTransferCapability % 32 = ie.informationTransferCapability :=
      congrArg Compatibility.informationTransferCapability same
    have mode : ie.transferMode % 4 = ie.transferMode := congrArg Compatibility.transferMode same
    have rate : ie.informationTransferRate % 32 = ie.informationTransferRate :=
      congrArg Compatibility.informationTransferRate same
    have layer1 := congrArg Compatibility.userInformationLayer1Protocol same
    have layer3 := congrArg Compatibility.userInformationLayer3Protocol same
    exact ⟨by omega, by omega, by omega, by omega, ⟨_, Nat.mod_lt _ (by decide), layer1.symm⟩, layer3.symm⟩
  · rintro ⟨standard, capability, mode, rate, ⟨protocol, small, layer1⟩, layer3⟩
    cases ie
    cases layer1
    cases layer2
    cases layer3
    rw [Option.getD_some, Nat.mod_eq_of_lt standard, Nat.mod_eq_of_lt capability, Nat.mod_eq_of_lt mode,
      Nat.mod_eq_of_lt rate, Nat.mod_eq_of_lt small]

theorem write_refused_iff : (codecs libc intf).write kind.id (kind.content ie) = none ↔
    ie.transferMode = 2 ∨ ie.userInformationLayer2Protocol ≠ none := by
  rw [write_compat, writeCompatibility]
  split
  · rename_i refused
    exact iff_of_true rfl refused
  · rename_i accepted
    exact iff_of_false nofun accepted

/-- Of a value it takes, the encoder leaves out octet 5 or writes one without extensions. -/
theorem accepted_round_trips_iff (circuit : ie.transferMode ≠ 2)
    (layer2 : ie.userInformationLayer2Protocol = none) :
    RoundTrips libc intf kind.id (kind.content ie) ↔ ie.Carried := by
  have written : (codecs libc intf).write kind.id (kind.content ie) = writeCompatibility ie := write_compat
  have accepted : ¬(ie.transferMode = 2 ∨ ie.userInformationLayer2Protocol ≠ none) :=
    not_or.mpr ⟨circuit, not_not.mpr layer2⟩
  rw [writeCompatibility, if_neg accepted] at written
  by_cases omitted : ie.transferMode = 0 ∧ ie.informationTransferCapability ∈ [0x08, 0x09] ∧
      ie.userInformationLayer1Protocol = none
  · rw [if_pos omitted] at written
    constructor
    · intro back
      -- What follows in memory looks like an octet 5.
      have holds := memory_holds [compatOctet3 ie, compatOctet4 ie] fun _ => 0xa0
      have found : ((codecs libc intf).read kind.id 2).value _ = _ := with_octet5_found (Nat.lt_irrefl 2)
        (Nat.le_succ 2) (holds.head ▸ ext_compatOctet3) (holds.tail.head ▸ ext_compatOctet4)
        (by decide : octIdent 0xa0 = 1) (by decide : ext 0xa0 = true)
      have same := found.symm.trans ((roundTrips_iff written).mp back _ holds)
      have layer1 := congrArg Compatibility.userInformationLayer1Protocol (content_inj (Verdict.accept.inj same))
      rw [omitted.2.2] at layer1
      cases layer1
    · intro carried
      obtain ⟨protocol, -, layer1⟩ := carried.layer1
      exact nomatch omitted.2.2.symm.trans layer1
  · rw [if_neg omitted] at written
    rw [← carried_iff layer2, roundTrips_iff_eq _ written fun m holds => ?_]
    · exact ⟨fun same => content_inj (Verdict.accept.inj same),
        fun same => congrArg (fun value => Verdict.accept (kind.content value)) same⟩
    · obtain ⟨last5, ident, -⟩ := compatOctet5_fields (ie.userInformationLayer1Protocol.getD 0x1f)
      have oct3 : m 0 = compatOctet3 ie := holds.head
      have oct4 : m 1 = compatOctet4 ie := holds.tail.head
      have oct5 : m 2 = compatOctet5 (ie.userInformationLayer1Protocol.getD 0x1f) := holds.tail.tail.head
      rw [← oct3, ← oct4, ← oct5]
      exact with_octet5_found (by simp) (Nat.le_refl 3) (oct3 ▸ ext_compatOctet3) (oct4 ▸ ext_compatOctet4)
        (oct5 ▸ ident) (oct5 ▸ last5)

/-- A bearer capability or a low layer compatibility comes back exactly if the encoder takes it and
the value is carried. -/
theorem compat_round_trips_iff : RoundTrips libc intf kind.id (kind.content ie) ↔
    ie.transferMode ≠ 2 ∧ ie.userInformationLayer2Protocol = none ∧ ie.Carried := by
  by_cases refused : ie.transferMode = 2 ∨ ie.userInformationLayer2Protocol ≠ none
  · constructor
    · rintro ⟨octets, written, -⟩
      exact nomatch (write_refused_iff.mpr refused).symm.trans written
    · rintro ⟨circuit, layer2, -⟩
      exact absurd layer2 (refused.resolve_left circuit)
  · obtain ⟨circuit, layer2⟩ := not_or.mp refused
    rw [accepted_round_trips_iff circuit (not_not.mp layer2)]
    exact ⟨fun carried => ⟨circuit, not_not.mp layer2, carried⟩, fun all => all.2.2⟩

theorem compat_returns_written_iff : ReturnsWritten libc intf kind.id (kind.content ie) ↔
    ie.transferMode = 2 ∨ ie.userInformationLayer2Protocol ≠ none ∨ ie.Carried := by
  rw [← or_assoc, ReturnsWritten, ne_eq, write_refused_iff, compat_round_trips_iff]
  constructor
  · intro returns
    by_cases refused : ie.transferMode = 2 ∨ ie.userInformationLayer2Protocol ≠ none
    · exact .inl refused
    · exact .inr (returns refused).2.2
  · rintro (refused | carried) accepted
    · exact absurd refused accepted
    · obtain ⟨circuit, layer2⟩ := not_or.mp accepted
      exact ⟨circuit, not_not.mp layer2, carried⟩

theorem oct3_extended {len : Nat} (more : ext (m 0) = false) :
    ((codecs libc intf).read kind.id len).value m = .reject := by
  rw [read_compat, readOctets3To5]
  split
  · rfl
  · rw [Peek.value_cell_bind, if_neg (by rw [more]; decide)]
    rfl

/-- What was read from the octets 3 to 5 is carried. -/
theorem compatValue_carried (oct3 oct4 oct5 : UInt8) : (compatValue oct3 oct4 oct5).Carried where
  standard := bits_lt ..
  capability := bits_lt ..
  mode := bits_lt ..
  rate := bits_lt ..
  layer1 := ⟨_, bits_lt .., rfl⟩
  layer3 := rfl

/-- What was read from the octets 3 to 5 comes back if there is an octet 5 and the mode is not packet. -/
theorem compat_returns_read_iff (wire : CompatOctets) :
    ReturnsRead libc intf kind.id wire.octets ↔
      ext wire.oct3 = false ∨ wire.oct5 ≠ none ∧ bits wire.oct4 5 2 ≠ 2 := by
  obtain ⟨oct3, oct4, oct5, last4, last5⟩ := wire
  by_cases last3 : ext oct3 = true
  · rw [or_iff_right (by simp [last3])]
    cases oct5 with
    | none =>
      refine iff_of_false (fun returns => ?_) fun there => there.1 rfl
      -- What follows in memory does not look like an octet 5.
      have holds := memory_holds [oct3, oct4] fun _ => 0
      have found : ((codecs libc intf).read kind.id 2).value _ = _ := without_octet5_found
        (holds.head ▸ last3) (holds.tail.head ▸ last4) (by decide : octIdent 0 ≠ 1)
      obtain ⟨-, -, carried⟩ := compat_round_trips_iff.mp (returns _ holds _ found)
      obtain ⟨protocol, -, layer1⟩ := carried.layer1
      cases layer1
    | some oct5 =>
      obtain ⟨ident, last⟩ := last5 oct5 rfl
      have found (m : Nat → UInt8) (holds : Holds m 0 [oct3, oct4, oct5]) :
          ((codecs libc intf).read kind.id 3).value m = .accept (kind.content (compatValue oct3 oct4 oct5)) := by
        have at3 : m 0 = oct3 := holds.head
        have at4 : m 1 = oct4 := holds.tail.head
        have at5 : m 2 = oct5 := holds.tail.tail.head
        rw [← at3, ← at4, ← at5]
        exact with_octet5_found (by decide) (Nat.le_refl 3) (at3 ▸ last3) (at4 ▸ last4) (at5 ▸ ident)
          (at5 ▸ last)
      refine (returnsRead_iff _ found).trans ?_
      constructor
      · intro returns
        exact ⟨nofun, (compat_round_trips_iff.mp (returns _ rfl)).1⟩
      · rintro ⟨-, circuit⟩ content accepted
        obtain rfl := Verdict.accept.inj accepted
        exact compat_round_trips_iff.mpr ⟨circuit, rfl, compatValue_carried ..⟩
  · rw [Bool.not_eq_true] at last3
    refine (returnsRead_iff .reject fun m holds => oct3_extended (holds.head ▸ last3)).trans ?_
    exact iff_of_true nofun (.inl last3)

end Layers

section HighLayer
variable {libc : Libc} {intf : Intf} {ie : HighLayerCompatibility} {m : Nat → UInt8}

theorem read_high (len : Nat) :
    ((codecs libc intf).read .highLayerCompatibility len).value m =
      ((readHighLayerCompatibility len).value m).map .highLayerCompatibility := rfl

/-- The fields of the octets 3 and 4. -/
def highFields (oct3 oct4 : UInt8) : HighLayerCompatibility where
  codingStandard := bits oct3 5 2
  interpretation := bits oct3 2 3
  presentationMethod := bits oct3 0 2
  characteristicsIdentification := bits oct4 0 7

theorem two_high_octets_found (last : ext (m 1) = true) :
    (readHighLayerCompatibility 2).value m = .accept (highFields (m 0) (m 1)) := by
  rw [readHighLayerCompatibility, if_neg (by decide), Peek.value_cell_bind, Peek.value_cell_bind, if_pos last]
  rfl

/-- Of an octet 4a the decoder wants the extension bit clear. -/
theorem three_high_octets_found (more : ext (m 1) = false) :
    (readHighLayerCompatibility 3).value m = if ext (m 2) then .reject else .accept
      { highFields (m 0) (m 1) with extendedCharacteristicsIdentification := bits (m 2) 0 7 } := by
  rw [readHighLayerCompatibility, if_neg (by decide), Peek.value_cell_bind, Peek.value_cell_bind]
  simp only [more, Bool.false_eq_true, if_false, Nat.lt_irrefl, Peek.value_cell_bind]
  split <;> rfl

/-- The octets 3 and 4 as they are written, with the extension bit of the latter. -/
def highOctet3 (ie : HighLayerCompatibility) : UInt8 :=
  pack [(1, 1), (2, ie.codingStandard), (3, ie.interpretation), (2, ie.presentationMethod)]

def highOctet4 (last : Nat) (ie : HighLayerCompatibility) : UInt8 :=
  pack [(1, last), (7, ie.characteristicsIdentification)]

theorem ext_highOctet4 {last : Nat} (bit : last < 2) : ext (highOctet4 last ie) = (last == 1) :=
  ext_pack last _ (by simp [width]) bit

/-- Without an octet 4a the fields come back cut to their octets. -/
theorem highFields_written : highFields (highOctet3 ie) (highOctet4 1 ie) = {
    codingStandard := ie.codingStandard % 4
    interpretation := ie.interpretation % 8
    presentationMethod := ie.presentationMethod % 4
    characteristicsIdentification := ie.characteristicsIdentification % 128 } := by
  have standard := bits_pack_mod [(1, 1)] 2 ie.codingStandard
    [(3, ie.interpretation), (2, ie.presentationMethod)] (by simp [width])
  have interpretation := bits_pack_mod [(1, 1), (2, ie.codingStandard)] 3 ie.interpretation
    [(2, ie.presentationMethod)] (by simp [width])
  have presentation := bits_pack_mod [(1, 1), (2, ie.codingStandard), (3, ie.interpretation)] 2
    ie.presentationMethod [] (by simp [width])
  have characteristics := bits_pack_mod [(1, 1)] 7 ie.characteristicsIdentification [] (by simp [width])
  rw [highFields, HighLayerCompatibility.mk.injEq]
  exact ⟨standard, interpretation, presentation, characteristics, rfl⟩

theorem high_carried_iff (unreserved : ie.characteristicsIdentification ∉ [0x5e, 0x5f]) :
    highFields (highOctet3 ie) (highOctet4 1 ie) = ie ↔ ie.Carried := by
  rw [highFields_written]
  constructor
  · intro same
    have standard : ie.codingStandard % 4 = ie.codingStandard :=
      congrArg HighLayerCompatibility.codingStandard same
    have interpretation : ie.interpretation % 8 = ie.interpretation :=
      congrArg HighLayerCompatibility.interpretation same
    have presentation : ie.presentationMethod % 4 = ie.presentationMethod :=
      congrArg HighLayerCompatibility.presentationMethod same
    have characteristics : ie.characteristicsIdentification % 128 = ie.characteristicsIdentification :=
      congrArg HighLayerCompatibility.characteristicsIdentification same
    have unextended := congrArg HighLayerCompatibility.extendedCharacteristicsIdentification same
    exact ⟨by omega, by omega, by omega, by omega, unreserved, unextended.symm⟩
  · rintro ⟨standard, interpretation, presentation, characteristics, -, unextended⟩
    cases ie
    cases unextended
    rw [Nat.mod_eq_of_lt standard, Nat.mod_eq_of_lt interpretation, Nat.mod_eq_of_lt presentation,
      Nat.mod_eq_of_lt characteristics]

/-- A high layer compatibility comes back exactly if it is carried. The two values with an octet 4a
never do, as the encoder sets the extension bit there. -/
theorem high_round_trips_iff :
    RoundTrips libc intf .highLayerCompatibility (.highLayerCompatibility ie) ↔ ie.Carried := by
  have written : writeToBuf libc (.highLayerCompatibility ie) = some (writeHighLayerCompatibility ie) := rfl
  rw [writeHighLayerCompatibility] at written
  by_cases reserved : ie.characteristicsIdentification ∈ [0x5e, 0x5f]
  · rw [if_pos reserved] at written
    refine iff_of_false ?_ fun carried => carried.unreserved reserved
    rw [roundTrips_iff_eq .reject written fun m holds => ?_]
    · exact nofun
    · have more : ext (m 1) = false := holds.tail.head ▸ ext_highOctet4 (by decide)
      have last : ext (m 2) = true := holds.tail.tail.head ▸ ext_pack 1 _ (by simp [width]) (by decide)
      exact congrArg (Verdict.map _) ((three_high_octets_found more).trans (if_pos last))
  · rw [if_neg reserved] at written
    rw [← high_carried_iff reserved, roundTrips_iff_eq _ written fun m holds => ?_]
    · exact ⟨fun same => Content.highLayerCompatibility.inj (Verdict.accept.inj same),
        fun same => congrArg (fun value => Verdict.accept (Content.highLayerCompatibility value)) same⟩
    · have oct3 : m 0 = highOctet3 ie := holds.head
      have oct4 : m 1 = highOctet4 1 ie := holds.tail.head
      rw [← oct3, ← oct4]
      exact congrArg (Verdict.map _) (two_high_octets_found (oct4 ▸ ext_highOctet4 (by decide)))

theorem highFields_carried_iff (oct3 oct4 : UInt8) (extended : Nat) :
    { highFields oct3 oct4 with extendedCharacteristicsIdentification := extended }.Carried ↔
      bits oct4 0 7 ∉ [0x5e, 0x5f] ∧ extended = 0 :=
  ⟨fun carried => ⟨carried.unreserved, carried.unextended⟩, fun ⟨unreserved, unextended⟩ =>
    ⟨bits_lt .., bits_lt .., bits_lt .., bits_lt .., unreserved, unextended⟩⟩

theorem high_returns_read_iff (wire : HighLayerOctets) :
    ReturnsRead libc intf .highLayerCompatibility wire.octets ↔
      (∃ o ∈ wire.oct4a, ext o = true) ∨
        bits wire.oct4 0 7 ∉ [0x5e, 0x5f] ∧ ∀ o ∈ wire.oct4a, bits o 0 7 = 0 := by
  obtain ⟨oct3, oct4, oct4a, last4⟩ := wire
  cases oct4a with
  | none =>
    have last : ext oct4 = true := by simpa using last4
    have found (m : Nat → UInt8) (holds : Holds m 0 [oct3, oct4]) :
        ((codecs libc intf).read .highLayerCompatibility 2).value m =
          .accept (.highLayerCompatibility (highFields oct3 oct4)) := by
      have at3 : m 0 = oct3 := holds.head
      have at4 : m 1 = oct4 := holds.tail.head
      rw [← at3, ← at4]
      exact congrArg (Verdict.map _) (two_high_octets_found (at4 ▸ last))
    refine (returnsRead_iff _ found).trans ?_
    constructor
    · intro returns
      have carried := high_round_trips_iff.mp (returns _ rfl)
      exact .inr ⟨carried.unreserved, nofun⟩
    · rintro (⟨_, ⟨⟩, -⟩ | ⟨unreserved, -⟩) content accepted
      obtain rfl := Verdict.accept.inj accepted
      exact high_round_trips_iff.mpr ((highFields_carried_iff oct3 oct4 0).mpr ⟨unreserved, rfl⟩)
  | some oct4a =>
    have more : ext oct4 = false := by simpa using last4
    have found (m : Nat → UInt8) (holds : Holds m 0 [oct3, oct4, oct4a]) :
        ((codecs libc intf).read .highLayerCompatibility 3).value m = Verdict.map .highLayerCompatibility
          (if ext oct4a then .reject else .accept
            { highFields oct3 oct4 with extendedCharacteristicsIdentification := bits oct4a 0 7 }) := by
      have at3 : m 0 = oct3 := holds.head
      have at4 : m 1 = oct4 := holds.tail.head
      have at4a : m 2 = oct4a := holds.tail.tail.head
      rw [← at3, ← at4, ← at4a]
      exact congrArg (Verdict.map _) (three_high_octets_found (at4 ▸ more))
    refine (returnsRead_iff _ found).trans ?_
    by_cases last : ext oct4a = true
    · rw [if_pos last]
      exact iff_of_true nofun (.inl ⟨oct4a, rfl, last⟩)
    · rw [if_neg last]
      constructor
      · intro returns
        obtain ⟨unreserved, unextended⟩ :=
          (highFields_carried_iff oct3 oct4 _).mp (high_round_trips_iff.mp (returns _ rfl))
        refine .inr ⟨unreserved, ?_⟩
        rintro _ ⟨⟩
        exact unextended
      · rintro (⟨_, ⟨⟩, rejected⟩ | ⟨unreserved, unextended⟩) content accepted
        · exact absurd rejected last
        · obtain rfl := Verdict.accept.inj accepted
          exact high_round_trips_iff.mpr
            ((highFields_carried_iff oct3 oct4 _).mpr ⟨unreserved, unextended oct4a rfl⟩)

end HighLayer

/-- Which compatibility elements come back, written and read. -/
theorem compatibilities_return_iff (libc : Libc) (intf : Intf) (kind : CompatKind) (ie : Compatibility)
    (wire : CompatOctets) (high : HighLayerCompatibility) (highWire : HighLayerOctets) :
    (ReturnsWritten libc intf kind.id (kind.content ie) ↔
      ie.transferMode = 2 ∨ ie.userInformationLayer2Protocol ≠ none ∨ ie.Carried) ∧
    (ReturnsRead libc intf kind.id wire.octets ↔
      ext wire.oct3 = false ∨ wire.oct5 ≠ none ∧ bits wire.oct4 5 2 ≠ 2) ∧
    (ReturnsWritten libc intf .highLayerCompatibility (.highLayerCompatibility high) ↔ high.Carried) ∧
    (ReturnsRead libc intf .highLayerCompatibility highWire.octets ↔
      (∃ o ∈ highWire.oct4a, ext o = true) ∨
        bits highWire.oct4 0 7 ∉ [0x5e, 0x5f] ∧ ∀ o ∈ highWire.oct4a, bits o 0 7 = 0) := by
  refine ⟨compat_returns_written_iff, compat_returns_read_iff wire, ?_, high_returns_read_iff highWire⟩
  constructor
  · exact fun returns => high_round_trips_iff.mp (returns nofun)
  · exact fun carried _ => high_round_trips_iff.mpr carried

/-- A high layer compatibility reserved for maintenance is written with an octet 4a that is not taken back. -/
theorem maintenance_is_not_returned :
    ¬ReturnsWritten utc ⟨.bra, .te, 2⟩ .highLayerCompatibility
      (.highLayerCompatibility ⟨0, 4, 1, 0x5e, 1⟩) := by
  intro returns
  have carried := high_round_trips_iff.mp (returns nofun)
  exact carried.unreserved (by decide)

end Vstuff.Q931
