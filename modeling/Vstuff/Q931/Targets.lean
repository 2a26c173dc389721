import Mathlib.Data.List.Perm.Subperm
import Vstuff.Q931.Element

/-! The arrays the decoders write to and index: `number`, `data`, `text` and the
chanset of the elements, and the channels of the interface. The limits on the
length of an element are in the table of classes, the sizes of the arrays in the
headers, and the offsets in the decoders. -/
namespace Vstuff.Q931
open Peek (cell)
set_option linter.all false

/-- An access to some consecutive places of an array. -/
structure Access where
  size : Nat
  first : Int
  count : Int
  deriving DecidableEq, Repr

/-- All places are in the array, and they are not a negative number. -/
def Access.inBounds (access : Access) : Prop :=
  0 ≤ access.count ∧ 0 ≤ access.first ∧ access.first + access.count ≤ access.size

instance (access : Access) : Decidable access.inBounds := inferInstanceAs (Decidable (_ ∧ _ ∧ _))

/-- `memcpy` to the beginning of an array. -/
def Access.copy (size : Nat) (count : Int) : Access := ⟨size, 0, count⟩

/-- One place of an array. -/
def Access.place (size : Nat) (index : Int) : Access := ⟨size, index, 1⟩

/-- The size of `number` in the called, calling and connected number. -/
def numberSize : Nat := 21

/-- The size of `data` in a call identity. -/
def callIdentitySize : Nat := 8

/-- The size of `text` in a display. -/
def displaySize : Nat := 83

/-- `intf->n_channels` and `intf->type` go together (`q931_open_interface`). -/
def Intf.opened (intf : Intf) : Prop :=
  intf.type = .bra ∧ intf.nChannels = 2 ∨ intf.type = .pra ∧ intf.nChannels = 30

instance (intf : Intf) : Decidable intf.opened := inferInstanceAs (Decidable (_ ∨ _))

/-! ## The accesses of the decoders -/

/-- The digits and the terminator of a called number, which is one place behind
the digits' end. -/
def calledNumberAccesses (len : Nat) : List Access :=
  [.copy numberSize (len - 1), .place numberSize len]

/-- The digits and the terminator of a calling or connected number. -/
def numberAccesses (len : Nat) (m : Nat → UInt8) : List Access :=
  let nextoct : Int := if ext (m 0) then 1 else 2
  [.copy numberSize (len - nextoct), .place numberSize (len - nextoct)]

/-- `q931_chanset_add` of a channel of the interface: the channel must be one of
those the interface has. -/
def addAccesses (intf : Intf) (chanset : List Nat) (channel : Nat) : List Access :=
  [.place intf.nChannels channel, .place chansetMaxSize chanset.length]

/-- The channels added one after the other, until an assertion fails. -/
def addsAccesses (intf : Intf) : List Nat → List Nat → List Access
  | _, [] => []
  | chanset, channel :: channels =>
    addAccesses intf chanset channel ++
      match chansetAdd chanset channel with
      | none => []
      | some chanset => addsAccesses intf chanset channels

/-- The numbers in the octets 3d from `n` on, for as many turns as are left. -/
def channelNumbers (len : Nat) (m : Nat → UInt8) : Nat → Nat → List Nat
  | 0, _ => []
  | turns + 1, n =>
    bits (m n) 0 7 :: if !ext (m n) ∧ n + 1 < len then channelNumbers len m turns (n + 1) else []

/-- The channels a channel identification adds. -/
def addedChannels (intf : Intf) (len : Nat) (m : Nat → UInt8) : List Nat :=
  if len < 1 ∨ bits (m 0) 6 1 = 1 ∨ bits (m 0) 2 1 = 1 then []
  else if bits (m 0) 5 1 = 1 then
    if len < 2 ∨ intf.type = .bra ∨ bits (m 1) 5 2 ≠ 0 ∨ bits (m 1) 4 1 = 1 then []
    else if bits (m 0) 0 2 = 1 then channelNumbers len m len 2
    else if bits (m 0) 0 2 = 3 then List.range intf.nChannels
    else []
  else if intf.type = .pra then []
  else if bits (m 0) 0 2 = 1 then [0]
  else if bits (m 0) 0 2 = 2 then [1]
  else if bits (m 0) 0 2 = 3 then [0, 1]
  else []

/-- The accesses of `read_from_buf`. -/
def accesses (intf : Intf) (id : IeId) (len : Nat) (m : Nat → UInt8) : List Access :=
  match id with
  | .callIdentity => if len < 1 ∨ len > 10 then [] else [.copy callIdentitySize len]
  | .display => if len < 1 ∨ len > 82 then [] else [.copy displaySize len, .place displaySize len]
  | .calledPartyNumber => if len < 1 then [] else calledNumberAccesses len
  | .callingPartyNumber => if len = 0 then [] else numberAccesses len m
  | .connectedNumber => if len < 1 then [] else numberAccesses len m
  | .channelIdentification => addsAccesses intf [] (addedChannels intf len m)
  | _ => []

/-! ## What is copied is what the element holds -/

section Faithful
variable {intf : Intf} {len : Nat} {m : Nat → UInt8}

theorem readChannels_adds (turns n : Nat) (chanset : List Nat) :
    (readChannels len turns n chanset).value m = (channelNumbers len m turns n).foldlM chansetAdd chanset := by
  induction turns generalizing n chanset with
  | zero => rfl
  | succ turns further =>
    rw [readChannels, Peek.value_cell_bind, channelNumbers, List.foldlM_cons]
    cases chansetAdd chanset (bits (m n) 0 7) with
    | none => rfl
    | some chanset =>
      dsimp only
      by_cases more : (!ext (m n)) = true ∧ n + 1 < len
      · simp only [if_pos more, further]
        rfl
      · simp only [if_neg more]
        rfl

/-- The chanset of a channel identification is made of the channels added. -/
theorem chanset_is_added {ie : ChannelIdentification}
    (accepted : (readChannelIdentification intf len).value m = .accept ie) :
    (addedChannels intf len m).foldlM chansetAdd [] = some ie.chanset := by
  unfold readChannelIdentification at accepted
  unfold addedChannels
  by_cases short : len < 1
  · rw [if_pos short] at accepted
    cases accepted
  rw [if_neg short, Peek.value_cell_bind] at accepted
  dsimp only at accepted
  split_ifs at accepted with explicit dChannel primary short2 basic pra first second any exclusive
  all_goals first | cases accepted; done | skip
  · have header : ¬(len < 1 ∨ bits (m 0) 6 1 = 1 ∨ bits (m 0) 2 1 = 1) := by simp [short, explicit, dChannel]
    rw [Peek.value_cell_bind] at accepted
    split_ifs at accepted with map
    · cases accepted
    rw [if_neg header, if_pos (by simpa using primary), if_neg (by simpa [short2, basic] using map)]
    unfold readPrimaryChannels at accepted
    split_ifs at accepted with indicated any
    · rw [if_pos indicated, ← readChannels_adds]
      rw [Peek.value_bind] at accepted
      cases added : (readChannels len len 2 []).value m with
      | none =>
        rw [added] at accepted
        cases accepted
      | some chanset =>
        rw [added] at accepted
        cases accepted
        rfl
    · rw [if_neg indicated, if_pos any]
      cases added : (List.range intf.nChannels).foldlM chansetAdd [] with
      | none =>
        rw [added] at accepted
        cases accepted
      | some chanset =>
        rw [added] at accepted
        cases accepted
        rfl
    · rw [if_neg indicated, if_neg any]
      cases accepted
      rfl
  all_goals
    cases accepted
    simp_all [chansetAdd, chansetMaxSize]

/-- The digits of a number are those copied. -/
theorem digits_are_copied {ie : PartyNumber}
    (accepted : (readNumberWithIndicators len).value m = .accept ie) :
    (numberAccesses len m).head? = some (.copy numberSize ie.number.length) := by
  unfold readNumberWithIndicators at accepted
  rw [Peek.value_cell_bind] at accepted
  unfold numberAccesses
  split at accepted
  · next extended =>
    simp only [memcpy] at accepted
    split_ifs at accepted with fits
    · cases accepted
      simp only [if_pos extended, List.head?_cons, Option.some.injEq, List.length_map, List.length_range,
        Peek.value_block]
      congr 1
      omega
    · cases accepted
  · next extended =>
    rw [Peek.value_cell_bind] at accepted
    simp only [memcpy] at accepted
    split_ifs at accepted with fits
    · cases accepted
      simp only [if_neg extended, List.head?_cons, Option.some.injEq, List.length_map, List.length_range,
        Peek.value_block]
      congr 1
      omega
    · cases accepted

end Faithful

/-! ## When they are in bounds -/

/-- The length of an element fits its array, and its channels are channels of the
interface. -/
def Fits (intf : Intf) (id : IeId) (len : Nat) (m : Nat → UInt8) : Prop :=
  match id with
  | .callIdentity => len ≤ 8
  | .calledPartyNumber => len ≤ 20
  | .callingPartyNumber | .connectedNumber =>
    len = 0 ∨ if ext (m 0) then len ≤ 21 else 2 ≤ len ∧ len ≤ 22
  | .channelIdentification => ∀ channel ∈ addedChannels intf len m, channel < intf.nChannels
  | _ => True

section Bounds
variable {intf : Intf} {len : Nat} {m : Nat → UInt8}

theorem copy_inBounds {size : Nat} {count : Int} :
    (Access.copy size count).inBounds ↔ 0 ≤ count ∧ count ≤ size := by
  simp only [Access.copy, Access.inBounds]
  omega

theorem place_inBounds {size : Nat} {index : Int} :
    (Access.place size index).inBounds ↔ 0 ≤ index ∧ index < size := by
  simp only [Access.place, Access.inBounds]
  omega

theorem nodup_snoc {chanset : List Nat} {channel : Nat} (nodup : chanset.Nodup) (fresh : channel ∉ chanset) :
    (chanset ++ [channel]).Nodup := by
  rw [List.nodup_append]
  refine ⟨nodup, by simp, ?_⟩
  rintro a member b single rfl
  rw [List.mem_singleton.mp single] at member
  exact fresh member

theorem forall_mem_snoc {chanset : List Nat} {channel bound : Nat}
    (known : ∀ channel ∈ chanset, channel < bound) (below : channel < bound) :
    ∀ c ∈ chanset ++ [channel], c < bound := by
  simpa [or_imp, forall_and] using ⟨known, below⟩

/-- A chanset of channels of the interface has room for one more. -/
theorem adds_inBounds (opened : intf.opened) (channels : List Nat) :
    ∀ chanset : List Nat, chanset.Nodup → (∀ channel ∈ chanset, channel < intf.nChannels) →
      ((∀ access ∈ addsAccesses intf chanset channels, access.inBounds) ↔
        ∀ channel ∈ channels, channel < intf.nChannels) := by
  have few : intf.nChannels < chansetMaxSize := by
    rcases opened with ⟨-, count⟩ | ⟨-, count⟩ <;> simp [count, chansetMaxSize]
  induction channels with
  | nil => simp [addsAccesses]
  | cons channel channels further =>
    intro chanset nodup known
    have room : chanset.length < chansetMaxSize := by
      have subset : chanset ⊆ List.range intf.nChannels := fun c member => List.mem_range.mpr (known c member)
      have := (List.subperm_of_subset nodup subset).length_le
      simp only [List.length_range] at this
      omega
    simp only [addsAccesses, addAccesses, chansetAdd, if_pos room, List.forall_mem_append,
      List.forall_mem_cons, place_inBounds]
    constructor
    · rintro ⟨⟨here, -⟩, rest⟩
      have below : channel < intf.nChannels := by omega
      refine ⟨below, ?_⟩
      split at rest
      · exact (further chanset nodup known).mp rest
      · next fresh =>
        exact (further (chanset ++ [channel]) (nodup_snoc nodup fresh)
          (forall_mem_snoc known below)).mp rest
    · rintro ⟨below, rest⟩
      refine ⟨⟨⟨by omega, by omega⟩, ⟨by omega, by omega⟩, by simp⟩, ?_⟩
      split
      · exact (further chanset nodup known).mpr rest
      · next fresh =>
        exact (further (chanset ++ [channel]) (nodup_snoc nodup fresh)
          (forall_mem_snoc known below)).mpr rest

theorem numberAccesses_inBounds (long : 1 ≤ len) :
    (∀ access ∈ numberAccesses len m, access.inBounds) ↔
      if ext (m 0) then len ≤ 21 else 2 ≤ len ∧ len ≤ 22 := by
  simp only [numberAccesses, List.forall_mem_cons, copy_inBounds, place_inBounds, numberSize]
  split <;> simp <;> omega

/-- Every access of a decoder is in bounds exactly if the element fits: a called
number has 20 octets at most, a calling or connected number 20 digits at most
and the octet 3a it announces, a call identity eight octets, and a channel number
is that of a channel of the interface. -/
theorem decoder_stays_in_its_targets_iff_the_element_fits (opened : intf.opened) (cls : IeClass)
    (known : cls ∈ ieClasses) (admitted : len ≤ min cls.maxLen 255) :
    (∀ access ∈ accesses intf cls.id len m, access.inBounds) ↔ Fits intf cls.id len m := by
  have limits : ∀ cls ∈ ieClasses, (cls.id = .callIdentity → cls.maxLen = 10) := by decide +kernel
  cases id : cls.id
  case callIdentity =>
    have limit := limits cls known id
    by_cases empty : len < 1
    · simp [accesses, Fits, show len = 0 by omega]
    · rw [accesses, if_neg (by omega)]
      simp only [List.forall_mem_singleton, copy_inBounds, callIdentitySize, Fits]
      omega
  case display =>
    by_cases rejected : len < 1 ∨ len > 82
    · rw [accesses, if_pos rejected]
      simp [Fits]
    · rw [accesses, if_neg rejected]
      simp only [List.forall_mem_cons, copy_inBounds, place_inBounds, displaySize, Fits, iff_true]
      exact ⟨by omega, by omega, by simp⟩
  case calledPartyNumber =>
    by_cases empty : len < 1
    · simp [accesses, Fits, show len = 0 by omega]
    · rw [accesses, if_neg empty]
      simp only [calledNumberAccesses, List.forall_mem_cons, copy_inBounds, place_inBounds, numberSize, Fits]
      simp
      omega
  case callingPartyNumber =>
    by_cases empty : len = 0
    · simp [accesses, Fits, empty]
    · rw [accesses, if_neg empty, numberAccesses_inBounds (by omega)]
      simp [Fits, empty]
  case connectedNumber =>
    by_cases empty : len = 0
    · simp [accesses, Fits, empty]
    · rw [accesses, if_neg (by omega), numberAccesses_inBounds (by omega)]
      simp [Fits, empty]
  case channelIdentification => exact adds_inBounds opened _ [] List.nodup_nil (by simp)
  all_goals simp [accesses, Fits]

/-- A called number of three octets is stored where it belongs. -/
theorem short_number_fits :
    List.Forall Access.inBounds (accesses ⟨.bra, .te, 2⟩ .calledPartyNumber 3 fun _ => 0x31) :=
  List.forall_iff_forall_mem.mpr <|
    (decoder_stays_in_its_targets_iff_the_element_fits (by decide)
      ⟨.vl, 23, 1, 0, .calledPartyNumber, true⟩ (by decide) (by decide)).mpr (show 3 ≤ 20 by decide)

/-- A calling number of one octet without extension bit copies minus one octets. -/
theorem short_number_is_copied_with_a_negative_length :
    ¬∀ (intf : Intf) (cls : IeClass) (len : Nat) (m : Nat → UInt8), intf.opened → cls ∈ ieClasses →
      len ≤ min cls.maxLen 255 → ∀ access ∈ accesses intf cls.id len m, access.inBounds := by
  intro always
  have copied := always ⟨.bra, .te, 2⟩ ⟨.vl, 24, 1, 0, .callingPartyNumber, true⟩ 1 (fun _ => 0x21)
    (by decide) (by decide) (by decide) (.copy numberSize (-1)) (by decide)
  revert copied
  decide

end Bounds

end Vstuff.Q931
