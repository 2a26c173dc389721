import Vstuff.Q931.Message
import Vstuff.Q931.Bounds

/-! What is sent is received: a message built by one side gives the other side
its type, its call reference and its information elements. -/
namespace Vstuff.Q931
open Lapd (Octets IntfRole)
open Peek (cell)
set_option linter.all false

/-! ## The header -/

/-- The highest octet of a call reference leaves room for the flag. -/
theorem flag_octet {first : Nat} (small : first < 128) :
    ((UInt8.ofNat first ||| 0x80) &&& 0x7f).toNat = first ∧
      (UInt8.ofNat first ||| 0x80) &&& 0x80 ≠ 0 ∧
      (UInt8.ofNat first &&& 0x7f).toNat = first ∧ UInt8.ofNat first &&& 0x80 = 0 := by
  have all : ∀ first < 128, ((UInt8.ofNat first ||| 0x80) &&& 0x7f).toNat = first ∧
      (UInt8.ofNat first ||| 0x80) &&& 0x80 ≠ 0 ∧
      (UInt8.ofNat first &&& 0x7f).toNat = first ∧ UInt8.ofNat first &&& 0x80 = 0 := by
    decide +kernel
  exact all first small

theorem makeCallref_length (len callref : Nat) (direction : CallrefFlag) :
    (makeCallref len callref direction).length = len := by
  unfold makeCallref
  dsimp only
  split
  · next octets => simpa using (congrArg List.length octets).symm
  · simp

theorem receiveCallref_makeCallref {len callref : Nat} (lower : 1 ≤ len) (upper : len ≤ 3)
    (small : callref < 2 ^ (8 * len - 1)) (direction : CallrefFlag) :
    receiveCallref (makeCallref len callref direction) = (callref, direction) := by
  have shapes : len = 1 ∨ len = 2 ∨ len = 3 := by omega
  have top : callref / 256 ^ (len - 1) < 128 := by
    rcases shapes with rfl | rfl | rfl <;> simp only [Nat.reduceMul, Nat.reduceSub, Nat.reducePow] at * <;>
      omega
  obtain ⟨setLow, setHigh, clearLow, clearHigh⟩ := flag_octet top
  rcases shapes with rfl | rfl | rfl <;> cases direction <;>
    simp_all [makeCallref, receiveCallref, List.range_succ, UInt8.toNat_ofNat'] <;> omega

/-- The header of a message is taken apart as it was built. -/
theorem receiveHeader_prepareHeader {len callref : Nat} (lower : 1 ≤ len) (upper : len ≤ 3)
    (positive : 0 < callref) (small : callref < 2 ^ (8 * len - 1)) (direction : CallDirection)
    (messageType : UInt8) :
    ∃ header, prepareHeader len callref direction messageType = some header ∧
      header.length = len + 3 ∧
      ∀ rawies, ∃ received, receiveHeader (header ++ rawies) = some received ∧
        received.messageType = messageType ∧
        received.addressee = .call direction.opposite callref ∧ received.rawies = rawies := by
  have limit : (callref : Int) < callrefLimit len := by
    have : callrefLimit len = 2 ^ (8 * len - 1) := by
      rcases (by omega : len = 1 ∨ len = 2 ∨ len = 3) with rfl | rfl | rfl <;> decide
    rw [this]
    exact_mod_cast small
  have back := receiveCallref_makeCallref lower upper small direction.flag
  have size := makeCallref_length len callref direction.flag
  refine ⟨_, if_pos ⟨lower, by omega, positive, limit⟩, by simp [size], fun rawies => ?_⟩
  generalize makeCallref len callref _ = octets at back size
  have low : bits (UInt8.ofNat len) 0 4 = len ∧ bits (UInt8.ofNat len) 4 4 = 0 := by
    rcases (by omega : len = 1 ∨ len = 2 ∨ len = 3) with rfl | rfl | rfl <;> decide
  refine ⟨{ callref := callref, callrefDirection := direction.flag, callrefLen := len,
            messageType := messageType, rawies := rawies }, ?_, rfl, ?_, rfl⟩
  · have taken : (octets ++ messageType :: rawies).take len = octets := by simp [← size]
    have dropped : (octets ++ messageType :: rawies).drop len = messageType :: rawies := by
      simp [← size]
    simp [receiveHeader, low, taken, dropped, back, show ¬len > 4 by omega]
  · rw [Received.addressee, if_neg (by dsimp only; omega), if_neg (by dsimp only; omega)]
    cases direction <;> rfl

/-! ## One element -/

/-- The memory from a place on begins with some octets. -/
def Holds (m : Nat → UInt8) (start : Nat) (octets : Octets) : Prop :=
  ∀ i (below : i < octets.length), m (start + i) = octets.get ⟨i, below⟩

theorem Holds.head {m : Nat → UInt8} {start : Nat} {octet : UInt8} {octets : Octets}
    (holds : Holds m start (octet :: octets)) : m start = octet :=
  holds 0 (Nat.succ_pos _)

theorem Holds.tail {m : Nat → UInt8} {start : Nat} {octet : UInt8} {octets : Octets}
    (holds : Holds m start (octet :: octets)) : Holds m (start + 1) octets := by
  intro i below
  have here := holds (i + 1) (Nat.succ_lt_succ below)
  rwa [Nat.add_assoc, Nat.add_comm 1 i]

theorem Holds.left {m : Nat → UInt8} {start : Nat} {front back : Octets}
    (holds : Holds m start (front ++ back)) : Holds m start front := by
  intro i below
  have here := holds i (by simp; omega)
  simpa [List.getElem_append_left below] using here

theorem Holds.right {m : Nat → UInt8} {start : Nat} {front back : Octets}
    (holds : Holds m start (front ++ back)) : Holds m (start + front.length) back := by
  intro i below
  have here := holds (front.length + i) (by simp; omega)
  simpa [Nat.add_assoc] using here

theorem memory_holds (area : Octets) (behind : Nat → UInt8) : Holds (memory area behind) 0 area := by
  intro i below
  simp [memory, below]

section Element
variable {libc : Libc} {intf : Intf}

/-- An element that can be sent: its class has a `write_to_buf` whose octets, no
more than the class and a length octet allow, its `read_from_buf` decodes back
whatever follows them, and it is used in some message. -/
structure Sendable (libc : Libc) (intf : Intf) (ie : Ie Content) : Prop where
  known : ie.cls ∈ ieClasses
  codeset : ie.cls.codeset = 0
  coded : ie.cls.coded = true
  used : ∃ u ∈ ieUsages, u.codeset = 0 ∧ u.ieId = ie.cls.id
  carried : ∃ octets, (codecs libc intf).write ie.cls.id ie.content = some octets ∧
    octets.length ≤ min ie.cls.maxLen 255 ∧
    ∀ m, Holds m 0 octets → ((codecs libc intf).read ie.cls.id octets.length).value m = .accept ie.content

/-- The octets of an element in a message. -/
def wire (libc : Libc) (intf : Intf) (ie : Ie Content) : Octets :=
  (writeIe (codecs libc intf) ie).getD []

/-- The one single octet element that is sent. -/
theorem coded_single : ∀ cls ∈ ieClasses, cls.coded = true → cls.type = .so → cls.id = .sendingComplete := by
  decide +kernel

/-- The identifiers of the others are told from single octets. -/
theorem coded_container : ∀ cls ∈ ieClasses, cls.type = .vl → isSoIe cls.id.code = false := by
  decide +kernel

/-- What is written for an element: a container with its length, or the octet of
a sending complete. -/
theorem Sendable.wire_eq {ie : Ie Content} (sendable : Sendable libc intf ie) :
    (∃ octets, isSoIe ie.cls.id.code = false ∧ writeIe (codecs libc intf) ie = some (wire libc intf ie) ∧
      wire libc intf ie = ie.cls.id.code :: UInt8.ofNat octets.length :: octets ∧
      octets.length ≤ min ie.cls.maxLen 255 ∧ ∀ m, Holds m 0 octets →
        ((codecs libc intf).read ie.cls.id octets.length).value m = .accept ie.content) ∨
    (ie.cls.id = .sendingComplete ∧ ie.content = .sendingComplete ∧
      writeIe (codecs libc intf) ie = some (wire libc intf ie) ∧ wire libc intf ie = [ie.cls.id.code] ∧
      1 ≤ ie.cls.maxLen) := by
  obtain ⟨octets, written, short, decodes⟩ := sendable.carried
  cases type : ie.cls.type with
  | vl =>
    refine .inl ⟨octets, coded_container _ sendable.known type, ?_, ?_, short, decodes⟩ <;>
      simp [wire, writeIe, sendable.coded, written, type]
  | so =>
    have complete := coded_single _ sendable.known sendable.coded type
    have content : ie.content = .sendingComplete := by
      have back := decodes (fun i => octets.getD i 0) fun i below => by simp [below]
      simp only [codecs, complete, readFromBuf, Peek.value_pure, Verdict.accept.injEq] at back
      exact back.symm
    have octet : octets = [ie.cls.id.code] := by
      simpa [codecs, content, writeToBuf, complete, eq_comm] using written
    subst octet
    refine .inr ⟨complete, content, ?_, ?_, ?_⟩
    · simp [wire, writeIe, sendable.coded, written, type]
    · simp [wire, writeIe, sendable.coded, written, type]
    · simp at short
      omega

/-- The status with one more element. -/
def received (ds : DecoderStatus Content) (ie : Ie Content) (start len : Nat) : DecoderStatus Content :=
  { ds with ies := ds.ies ++ [{ ie := ie, start := start, len := len, declared := len }] }

theorem Sendable.admitted {ie : Ie Content} (sendable : Sendable libc intf ie)
    {ds : DecoderStatus Content} (messageType : UInt8) {len : Nat} (short : len ≤ ie.cls.maxLen)
    (few : occurrences ds ie.cls ≤ ie.cls.maxOccur) :
    ∃ usage, admitIe ds messageType 0 ie.cls.id.code len = .ok (ie.cls, usage, len) := by
  have found : getIeClass 0 ie.cls.id.code = some ie.cls := by
    have self := getIeClass_self ie.cls sendable.known
    rwa [sendable.codeset] at self
  obtain ⟨usage, looked⟩ : ∃ usage, getIeUsage messageType 0 ie.cls.id.code = some usage := by
    obtain ⟨u, member, codeset, id⟩ := sendable.used
    refine Option.ne_none_iff_exists'.mp fun none => ?_
    have unlike := List.find?_eq_none.mp none u member
    simp [codeset, id] at unlike
  have once : ¬repeated ds ie.cls := fun more => absurd more.2.2 (by omega)
  have fits : ¬tooBig ie.cls len := fun big => absurd big.2 (by omega)
  exact ⟨usage, by simp [admitIe, found, looked, once, sendable.coded, fits]⟩

/-- An element that is admitted and decoded back is added. -/
theorem Sendable.decoded {ie : Ie Content} (sendable : Sendable libc intf ie)
    {ds : DecoderStatus Content} {messageType : UInt8} {m : Nat → UInt8} {start len : Nat}
    (short : len ≤ ie.cls.maxLen) (few : occurrences ds ie.cls ≤ ie.cls.maxOccur)
    (room : ds.ies.length < iesNumIes)
    (decodes : (((codecs libc intf).read ie.cls.id len).shifted start).value m = .accept ie.content) :
    (decodeIe (codecs libc intf) ds messageType 0 ie.cls.id.code start len).value m =
      received ds ie start len := by
  obtain ⟨usage, admitted⟩ := sendable.admitted messageType short few
  simp only [decodeIe, admitted, readIe_value, decodes, judged, iesAddPut, if_pos room]
  rfl

/-- One turn of the loop takes one element. -/
theorem Sendable.turn {ie : Ie Content} (sendable : Sendable libc intf ie) (messageType : UInt8)
    (turns rawiesLen : Nat) {ds : DecoderStatus Content} {m : Nat → UInt8} {pos : Nat}
    (holds : Holds m pos (wire libc intf ie)) (inside : pos + (wire libc intf ie).length ≤ rawiesLen)
    (few : occurrences ds ie.cls ≤ ie.cls.maxOccur) (room : ds.ies.length < iesNumIes)
    (unlocked : ds.activeCodeset = 0) (running : ds.aborted = false) :
    ∃ start len, (decodeLoop (codecs libc intf) messageType rawiesLen (turns + 1) pos 0 ds).value m =
      (decodeLoop (codecs libc intf) messageType rawiesLen turns (pos + (wire libc intf ie).length) 0
        (present (received ds ie start len) 0 ie.cls.id.code)).value m := by
  rcases sendable.wire_eq with ⟨octets, container, -, shape, short, decodes⟩ | ⟨complete, content, -, shape, short⟩
  · rw [shape] at holds inside ⊢
    have length : (UInt8.ofNat octets.length).toNat = octets.length := by
      rw [UInt8.toNat_ofNat']
      omega
    have payload : Holds (fun i => m (pos + 2 + i)) 0 octets := by
      intro i below
      simpa using holds.tail.tail i below
    refine ⟨pos + 2, octets.length, ?_⟩
    simp only [List.length_cons] at inside ⊢
    rw [decodeLoop, if_pos (by omega), Peek.value_cell_bind, holds.head, container, if_neg (by simp),
      Peek.value_cell_bind, holds.tail.head, length, Peek.value_bind,
      sendable.decoded (by omega) few room (decodes _ payload)]
    rw [if_neg (by simp [received, running]), if_neg (by omega)]
    simp only [present, received, unlocked]
    congr 1
  · rw [shape] at holds inside ⊢
    have single : isSoIe ie.cls.id.code = true ∧ getSoIeId ie.cls.id.code = ie.cls.id.code ∧
        ie.cls.id.code ≠ IeId.shift.code := by
      rw [complete]
      decide
    have decodes : (((codecs libc intf).read ie.cls.id 1).shifted pos).value m = .accept ie.content := by
      rw [complete, content]
      rfl
    refine ⟨pos, 1, ?_⟩
    simp only [List.length_singleton] at inside ⊢
    rw [decodeLoop, if_pos (by omega), Peek.value_cell_bind, holds.head, if_pos single.1, single.2.1,
      if_neg single.2.2, Peek.value_bind, sendable.decoded short few room decodes,
      if_neg (by simp [received, running])]
    simp only [present, received, unlocked]

end Element

/-! ## All elements -/

section Elements
variable {libc : Libc} {intf : Intf}

/-- The element is of the class. -/
def ofClass (cls : IeClass) (ie : Ie Content) : Bool := ie.cls.id == cls.id && ie.cls.codeset == cls.codeset

/-- The elements were added, their entries are not missing any more, and nothing
was reported. -/
structure Took (ds : DecoderStatus Content) (ies : List (Ie Content)) (after : DecoderStatus Content) :
    Prop where
  elements : after.ies.map (·.ie) = ds.ies.map (·.ie) ++ ies
  mandatory : after.mandatoryIes = ies.foldl (fun missing ie => missing.erase ⟨0, ie.cls.id.code⟩)
    ds.mandatoryIes
  invalidMand : after.invalidMandIes = ds.invalidMandIes
  invalidOpt : after.invalidOptIes = ds.invalidOptIes
  invalidAccess : after.invalidAccessIes = ds.invalidAccessIes
  unrecognized : after.unrecognizedIes = ds.unrecognizedIes
  aborted : after.aborted = ds.aborted

theorem occurrences_received {ds : DecoderStatus Content} {ie : Ie Content} {start len : Nat}
    (cls : IeClass) (entry : UInt8) :
    occurrences (present (received ds ie start len) 0 entry) cls =
      occurrences ds cls + if ofClass cls ie then 1 else 0 := by
  simp [occurrences, present, received, ofClass, List.countP_append, List.countP_cons]

/-- The loop takes the elements one after the other. The induction is on the
elements that are left; with those taken they are no more than may occur. -/
theorem decodeLoop_takes (messageType : UInt8) (rawiesLen : Nat) {m : Nat → UInt8} :
    ∀ (ies : List (Ie Content)) (turns pos : Nat) (ds : DecoderStatus Content),
      (∀ ie ∈ ies, Sendable libc intf ie) → Holds m pos (ies.flatMap (wire libc intf)) →
      pos + (ies.flatMap (wire libc intf)).length = rawiesLen → ies.length ≤ turns →
      (∀ ie ∈ ies, occurrences ds ie.cls + ies.countP (ofClass ie.cls) ≤ ie.cls.maxOccur) →
      ds.ies.length + ies.length ≤ iesNumIes → ds.activeCodeset = 0 → ds.aborted = false →
      ∃ after, (decodeLoop (codecs libc intf) messageType rawiesLen turns pos 0 ds).value m = some after ∧
        Took ds ies after
  | [], turns, pos, ds, _, _, size, _, _, _, _, _ => by
    refine ⟨ds, ?_, by simp, rfl, rfl, rfl, rfl, rfl, rfl⟩
    simp only [List.flatMap_nil, List.length_nil] at size
    cases turns <;> simp [decodeLoop, show ¬pos < rawiesLen by omega]
  | ie :: ies, turns, pos, ds, sendable, holds, size, enough, few, room, unlocked, running => by
    have self : ofClass ie.cls ie = true := by simp [ofClass]
    simp only [List.flatMap_cons, List.length_append, List.length_cons, List.forall_mem_cons] at *
    obtain ⟨turns, rfl⟩ : ∃ less, turns = less + 1 := ⟨turns - 1, by omega⟩
    have fewSelf := few.1
    rw [List.countP_cons, if_pos self] at fewSelf
    obtain ⟨start, len, step⟩ := sendable.1.turn messageType turns rawiesLen holds.left (by omega) (by omega) (by omega) unlocked running
    have fewRest : ∀ other ∈ ies, occurrences (present (received ds ie start len) 0 ie.cls.id.code) other.cls +
        ies.countP (ofClass other.cls) ≤ other.cls.maxOccur := by
      intro other member
      have bound := few.2 other member
      rw [List.countP_cons] at bound
      rw [occurrences_received]
      omega
    obtain ⟨after, result, took⟩ := decodeLoop_takes messageType rawiesLen ies turns
      (pos + (wire libc intf ie).length) (present (received ds ie start len) 0 ie.cls.id.code)
      sendable.2 holds.right (by omega) (by omega) fewRest (by simp [present, received]; omega) unlocked
      running
    refine ⟨after, step.trans result, ?_, took.mandatory, took.invalidMand, took.invalidOpt,
      took.invalidAccess, took.unrecognized, took.aborted⟩
    rw [took.elements]
    simp [present, received]

theorem Sendable.written {ies : List (Ie Content)} (sendable : ∀ ie ∈ ies, Sendable libc intf ie) :
    ies.mapM (writeIe (codecs libc intf)) = some (ies.map (wire libc intf)) := by
  induction ies with
  | nil => rfl
  | cons ie ies further =>
    have here : writeIe (codecs libc intf) ie = some (wire libc intf ie) := by
      rcases (sendable ie (by simp)).wire_eq with ⟨_, -, written, -⟩ | ⟨-, -, written, -⟩ <;> exact written
    rw [List.mapM_cons, here, further fun ie member => sendable ie (by simp [member])]
    rfl

/-- Every element takes an octet at least, so there are turns enough. -/
theorem Sendable.length_le {ies : List (Ie Content)} (sendable : ∀ ie ∈ ies, Sendable libc intf ie) :
    ies.length ≤ (ies.flatMap (wire libc intf)).length := by
  induction ies with
  | nil => simp
  | cons ie ies further =>
    have here : 1 ≤ (wire libc intf ie).length := by
      rcases (sendable ie (by simp)).wire_eq with ⟨_, -, -, shape, -⟩ | ⟨-, -, -, shape, -⟩ <;> simp [shape]
    have rest := further fun ie member => sendable ie (by simp [member])
    simp only [List.length_cons, List.flatMap_cons, List.length_append]
    omega

/-- No element is listed twice as mandatory. -/
theorem mandatoryIes_nodup (messageType : UInt8) (role : IntfRole) : (mandatoryIes messageType role).Nodup := by
  have rows : (ieUsages.filter (·.presence == .mandatory)).Pairwise fun u v =>
      u.messageType.code = v.messageType.code → (⟨u.codeset, u.ieId.code⟩ : IeidEntry) ≠ ⟨v.codeset, v.ieId.code⟩ := by
    decide +kernel
  have channel : ∀ u ∈ ieUsages, u.presence = .mandatory → u.messageType.code = MessageType.setup.code →
      (⟨u.codeset, u.ieId.code⟩ : IeidEntry) ≠ ⟨0, IeId.channelIdentification.code⟩ := by
    decide +kernel
  rw [mandatoryIes, ← List.filter_filter, List.nodup_append]
  refine ⟨?_, by split_ifs <;> simp, ?_⟩
  · refine List.pairwise_map.mpr (List.Pairwise.imp_of_mem ?_ (rows.filter _))
    intro u v here there apart
    have same := (beq_iff_eq.mp (List.mem_filter.mp here).2).trans (beq_iff_eq.mp (List.mem_filter.mp there).2).symm
    exact apart same
  · intro entry listed other last
    obtain ⟨u, row, rfl⟩ := List.mem_map.mp listed
    obtain ⟨row, type⟩ := List.mem_filter.mp row
    obtain ⟨row, mandatory⟩ := List.mem_filter.mp row
    split_ifs at last with setup
    · rw [List.mem_singleton.mp last]
      exact channel u row (beq_iff_eq.mp mandatory) ((beq_iff_eq.mp type).trans setup.1)
    · cases last

/-- What is left of a list without duplicates. -/
theorem erased_eq_filter (ies : List (Ie Content)) {missing : List IeidEntry} (nodup : missing.Nodup) :
    ies.foldl (fun missing ie => missing.erase ⟨0, ie.cls.id.code⟩) missing =
      missing.filter fun entry => ies.all fun ie => entry != ⟨0, ie.cls.id.code⟩ := by
  induction ies generalizing missing with
  | nil => simp
  | cons ie ies further =>
    rw [List.foldl_cons, further (nodup.erase _), nodup.erase_eq_filter, List.filter_filter]
    refine List.filter_congr fun entry _ => ?_
    rw [List.all_cons, Bool.and_comm]

end Elements

/-! ## Whole messages -/

section Messages
variable {libc : Libc} {intf : Intf}

/-- A class is known by its identifier. -/
theorem known_class_eq {a b : IeClass} (first : a ∈ ieClasses) (second : b ∈ ieClasses) (ids : a.id = b.id)
    (codesets : a.codeset = b.codeset) : a = b := by
  have here := getIeClass_self a first
  rw [ids, codesets, getIeClass_self b second] at here
  exact (Option.some.inj here).symm

theorem countP_ofClass {ies : List (Ie Content)} (sendable : ∀ ie ∈ ies, Sendable libc intf ie)
    {cls : IeClass} (known : cls ∈ ieClasses) :
    ies.countP (ofClass cls) = (ies.map (·.cls)).count cls := by
  rw [List.count, List.countP_map]
  refine List.countP_congr fun ie member => ?_
  simp only [ofClass, Function.comp_apply, Bool.and_eq_true, beq_iff_eq]
  constructor
  · rintro ⟨ids, codesets⟩
    exact known_class_eq (sendable ie member).known known ids codesets
  · rintro rfl
    exact ⟨rfl, rfl⟩

/-- What the other side makes of a message: its type, the call it is for, and
the status of the decoder. -/
def receives (libc : Libc) (intf : Intf) (role : IntfRole) (behind : Nat → UInt8) (raw : Octets) :
    Option (UInt8 × Addressee × DecoderStatus Content) := do
  let received ← receiveHeader raw
  let ds ← (decodeIes (codecs libc intf) received.messageType role received.rawies.length).value
    (memory received.rawies behind)
  some (received.messageType, received.addressee, ds)

/-- A message with elements that can be sent is received as it was meant: with
its type and its call reference, for a call of the opposite direction, and with
exactly its elements in the order of their identifiers. The mandatory elements
that it does not have are missing, and nothing else is reported. -/
theorem message_round_trip (qsort : Qsort Content) (role : IntfRole) (behind : Nat → UInt8)
    (len callref : Nat) (direction : CallDirection) (messageType : UInt8) (ies : List (Ie Content))
    (lower : 1 ≤ len) (upper : len ≤ 3) (positive : 0 < callref) (small : callref < 2 ^ (8 * len - 1))
    (count : ies.length ≤ iesNumIes) (sendable : ∀ ie ∈ ies, Sendable libc intf ie)
    (few : ∀ ie ∈ ies, (ies.map (·.cls)).count ie.cls ≤ ie.cls.maxOccur)
    (fits : 3 + len + (ies.map fun ie => (wire libc intf ie).length).sum ≤ rawSize) :
    ∃ raw ds, buildMessage (codecs libc intf) qsort len callref direction messageType ies = some raw ∧
      receives libc intf role behind raw =
        some (messageType, .call direction.opposite callref, ds) ∧
      ds.aborted = false ∧ (ds.ies.map (·.ie)).Perm ies ∧
      (ds.ies.map (·.ie)).Pairwise (fun a b => a.cls.id.code ≤ b.cls.id.code) ∧
      ds.mandatoryIes = (mandatoryIes messageType role).filter (fun entry =>
        ies.all fun ie => entry != ⟨0, ie.cls.id.code⟩) ∧
      ds.invalidMandIes = [] ∧ ds.invalidOptIes = [] ∧ ds.invalidAccessIes = [] ∧
      ds.unrecognizedIes = [] := by
  have perm := qsort.perm ies
  have sendableSorted : ∀ ie ∈ qsort.sort ies, Sendable libc intf ie :=
    fun ie member => sendable ie (perm.mem_iff.mp member)
  let octets := (qsort.sort ies).flatMap (wire libc intf)
  have size : octets.length = (ies.map fun ie => (wire libc intf ie).length).sum := by
    rw [List.length_flatMap]
    exact (perm.map _).sum_nat
  obtain ⟨header, prepared, headerLength, back⟩ :=
    receiveHeader_prepareHeader lower upper positive small direction messageType
  have written : writeIes (codecs libc intf) qsort ies = some octets := by
    rw [writeIes, if_pos count, Sendable.written sendableSorted]
    rfl
  obtain ⟨header', read, type, addressee, rawies⟩ := back octets
  have fewSorted : ∀ ie ∈ qsort.sort ies, occurrences
      ({ mandatoryIes := mandatoryIes messageType role } : DecoderStatus Content) ie.cls +
        (qsort.sort ies).countP (ofClass ie.cls) ≤ ie.cls.maxOccur := by
    intro ie member
    have here := few ie (perm.mem_iff.mp member)
    rw [perm.countP_eq, countP_ofClass sendable (sendableSorted ie member).known]
    simpa [occurrences] using here
  obtain ⟨ds, decoded, took⟩ := decodeLoop_takes messageType octets.length (qsort.sort ies) octets.length 0
    { mandatoryIes := mandatoryIes messageType role } sendableSorted (memory_holds octets behind)
    (Nat.zero_add _) (Sendable.length_le sendableSorted) fewSorted
    (by simpa [perm.length_eq] using count) rfl rfl
  have elements : ds.ies.map (·.ie) = qsort.sort ies := took.elements
  refine ⟨header ++ octets, ds, ?_, ?_, took.aborted, elements ▸ perm, elements ▸ qsort.sorted ies, ?_,
    took.invalidMand, took.invalidOpt, took.invalidAccess, took.unrecognized⟩
  · simp only [buildMessage, prepared, written, Option.bind_eq_bind, Option.bind_some]
    rw [if_pos (by omega)]
  · have decodes : (decodeIes (codecs libc intf) messageType role octets.length).value
        (memory octets behind) = some ds := decoded
    simp only [receives, read, type, addressee, rawies, decodes, Option.bind_eq_bind, Option.bind_some]
  · rw [took.mandatory, erased_eq_filter _ (mandatoryIes_nodup messageType role)]
    refine List.filter_congr fun entry _ => ?_
    rw [Bool.eq_iff_iff, List.all_eq_true, List.all_eq_true]
    exact forall_congr' fun ie => by rw [perm.mem_iff]

/-- A `qsort` that keeps the order of elements with the same identifier. -/
def stableQsort (γ : Type) : Qsort γ where
  sort ies := ies.mergeSort fun a b => a.cls.id.code ≤ b.cls.id.code
  perm ies := List.mergeSort_perm ies _
  sorted ies := by
    have ordered : (ies.mergeSort fun a b => decide (a.cls.id.code ≤ b.cls.id.code)).Pairwise
        fun a b => decide (a.cls.id.code ≤ b.cls.id.code) = true :=
      List.pairwise_mergeSort
        (fun a b c first second => by
          simp only [decide_eq_true_eq] at first second ⊢
          exact UInt8.le_trans first second)
        (fun a b => by simpa using UInt8.le_total a.cls.id.code b.cls.id.code) ies
    exact ordered.imp fun below => by simpa using below

/-- A sending complete, a called number and a call identity, with the second
call reference of an outbound call. -/
theorem numbers_are_received :
    let libc : Libc := ⟨fun _ => 0, fun _ => {}⟩
    let intf : Intf := ⟨.bra, .te, 2⟩
    let ies : List (Ie Content) := [
      ⟨⟨.vl, 23, 1, 0, .calledPartyNumber, true⟩, .calledPartyNumber ⟨2, 1, 0, 0, [0x31, 0x32]⟩⟩,
      ⟨⟨.so, 1, 1, 0, .sendingComplete, true⟩, .sendingComplete⟩,
      ⟨⟨.vl, 10, 1, 0, .callIdentity, true⟩, .callIdentity [0x41]⟩]
    ∃ raw ds, buildMessage (codecs libc intf) (stableQsort Content) 1 2 .outbound 0x05 ies = some raw ∧
      receives libc intf .nt (fun _ => 0) raw = some (0x05, .call .inbound 2, ds) ∧
      (ds.ies.map (·.ie)).Perm ies := by
  intro libc intf ies
  have sendable : ∀ ie ∈ ies, Sendable libc intf ie := by
    intro ie member
    simp only [ies, List.mem_cons, List.not_mem_nil, or_false] at member
    rcases member with rfl | rfl | rfl
    · refine ⟨by decide, rfl, rfl, by decide, [0xa1, 0x31, 0x32], by decide, by decide, fun m holds => ?_⟩
      have first := holds 0 (by decide)
      have second := holds 1 (by decide)
      have third := holds 2 (by decide)
      simp at first second third
      simp [codecs, readFromBuf, readAs, readCalledPartyNumber, memcpy, Verdict.map, List.range_succ,
        first, second, third]
      decide
    · exact ⟨by decide, rfl, rfl, by decide, [0xa1], by decide, by decide, fun m holds => rfl⟩
    · refine ⟨by decide, rfl, rfl, by decide, [0x41], by decide, by decide, fun m holds => ?_⟩
      have first := holds 0 (by decide)
      simp at first
      simp [codecs, readFromBuf, readAs, readCallIdentity, memcpy, Verdict.map, first]
  obtain ⟨raw, ds, built, received, -, elements, -⟩ := message_round_trip (stableQsort Content) .nt
    (fun _ => 0) 1 2 .outbound 0x05 ies (by decide) (by decide) (by decide) (by decide) (by decide) sendable
    (by decide) (by decide)
  exact ⟨raw, ds, built, received, elements⟩

end Messages

end Vstuff.Q931
