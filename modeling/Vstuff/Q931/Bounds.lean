import Vstuff.Q931.Decode
import Vstuff.Q931.Lookahead

/-! Which octets `q931_decode_ies` looks at. The loop decodes an element before
it checks that the element ends inside the message, and some decoders look
behind the length they are given, so whether it stays inside the message is a
matter of the message. -/
namespace Vstuff.Q931
open Lapd (Octets IntfRole)
open Peek (cell touch)
set_option linter.all false

/-- The memory from `rawies` on: the octets of the message, and what happens to
lie behind them. -/
def memory (area : Octets) (behind : Nat → UInt8) (i : Nat) : UInt8 := area[i]?.getD (behind i)

/-- An element was decoded from octets of the message, and so was what it
declares. -/
def Decoded.inside {γ : Type} (rawiesLen : Nat) (d : Decoded γ) : Prop :=
  d.start + d.len ≤ rawiesLen ∧ d.start + d.declared ≤ rawiesLen

/-- Decoding returned, and all elements lie inside the message. -/
def DecoderStatus.inside {γ : Type} (rawiesLen : Nat) (ds : DecoderStatus γ) : Prop :=
  ds.aborted = false ∧ ∀ d ∈ ds.ies, d.inside rawiesLen

/-- Decoding comes to an end without a failed assertion, looks at no octet behind
the message, and every element it adds lies wholly inside it. -/
def StaysInside {γ : Type} (codecs : Codecs γ) (messageType : UInt8) (role : IntfRole) (area : Octets)
    (behind : Nat → UInt8) : Prop :=
  ∃ ds, (decodeIes codecs messageType role area.length).value (memory area behind) = some ds ∧
    (decodeIes codecs messageType role area.length).reach (memory area behind) ≤ area.length ∧
    ds.inside area.length

/-! ## The condition on the message -/

section Condition
variable {γ : Type} (codecs : Codecs γ) (ahead : IeId → Nat → (Nat → UInt8) → Nat)

/-- The message alone, followed by zeros. -/
def padded (octets : Octets) (i : Nat) : UInt8 := octets.getD i 0

/-- The class and the length with which an element is given to its decoder, if it
is: its identifier has a class with a decoder and is used in some message, no
more than `max_occur` elements of the class have been accepted before, and it is
not too big, or a call identity, which is cut. -/
def handed (accepted : List IeClass) (codeset ieId : UInt8) (len : Nat) : Option (IeClass × Nat) :=
  (getIeClass codeset ieId).bind fun cls =>
    if getIeUsage 0 codeset ieId = none then none
    else if cls.maxOccur > 0 ∧ cls.maxOccur ≠ intMax ∧
        accepted.countP (fun c => c.id == cls.id && c.codeset == cls.codeset) > cls.maxOccur then none
    else if !cls.coded then none
    else if tooBig cls len then if cls.id = .callIdentity then some (cls, cls.maxLen) else none
    else some (cls, len)

/-- The classes accepted after an element whose octets come first in `octets`. -/
def accepts (accepted : List IeClass) (codeset ieId : UInt8) (octets : Octets) (len : Nat) : List IeClass :=
  match handed accepted codeset ieId len with
  | none => accepted
  | some (cls, admitted) =>
    match (codecs.read cls.id admitted).value (padded octets) with
    | .accept _ => accepted ++ [cls]
    | .reject | .abort => accepted

/-- An element that is given to its decoder is whole, and so is what the decoder
looks at behind it; the decoder returns, and there is room for the element. -/
def ElementInside (accepted : List IeClass) (codeset ieId : UInt8) (octets : Octets) (len : Nat) : Prop :=
  ∀ cls admitted, handed accepted codeset ieId len = some (cls, admitted) →
    len ≤ octets.length ∧ ahead cls.id admitted (padded octets) ≤ octets.length ∧
      (codecs.read cls.id admitted).value (padded octets) ≠ .abort ∧
      (accepts codecs accepted codeset ieId octets len = accepted ∨ accepted.length < iesNumIes)

/-- The elements of a message, one after the other: each variable length element
has its length octet, and each is inside. `codeset` is that of the next element,
`active` that of the ones behind it. -/
def ElementsInside : Nat → Octets → UInt8 → UInt8 → List IeClass → Prop
  | 0, _, _, _, _ => True
  | _ + 1, [], _, _, _ => True
  | turns + 1, ieId :: rest, codeset, active, accepted =>
    if isSoIe ieId then
      if getSoIeId ieId = IeId.shift.code then
        let next := getSoIeType2Value ieId &&& 0x07
        ElementsInside turns rest next (if getSoIeType2Value ieId &&& 0x08 ≠ 0 then active else next)
          accepted
      else
        ElementInside codecs ahead accepted codeset (getSoIeId ieId) (ieId :: rest) 1 ∧
          ElementsInside turns rest active active
            (accepts codecs accepted codeset (getSoIeId ieId) (ieId :: rest) 1)
    else
      match rest with
      | [] => False
      | ieLen :: octets =>
        ElementInside codecs ahead accepted codeset ieId octets ieLen.toNat ∧
          (ieLen.toNat ≤ octets.length →
            ElementsInside turns (octets.drop ieLen.toNat) active active
              (accepts codecs accepted codeset ieId octets ieLen.toNat))

theorem elementsInside_single {turns : Nat} {ieId codeset active : UInt8} {rest : Octets}
    {accepted : List IeClass} (single : isSoIe ieId) (noShift : getSoIeId ieId ≠ IeId.shift.code) :
    ElementsInside codecs ahead (turns + 1) (ieId :: rest) codeset active accepted ↔
      ElementInside codecs ahead accepted codeset (getSoIeId ieId) (ieId :: rest) 1 ∧
        ElementsInside codecs ahead turns rest active active
          (accepts codecs accepted codeset (getSoIeId ieId) (ieId :: rest) 1) := by
  cases rest <;> simp [ElementsInside, single, noShift]

theorem elementsInside_shift {turns : Nat} {ieId codeset active : UInt8} {rest : Octets}
    {accepted : List IeClass} (single : isSoIe ieId) (shift : getSoIeId ieId = IeId.shift.code) :
    ElementsInside codecs ahead (turns + 1) (ieId :: rest) codeset active accepted ↔
      ElementsInside codecs ahead turns rest (getSoIeType2Value ieId &&& 0x07)
        (if getSoIeType2Value ieId &&& 0x08 ≠ 0 then active else getSoIeType2Value ieId &&& 0x07)
        accepted := by
  cases rest <;> simp [ElementsInside, single, shift]

theorem elementsInside_container {turns : Nat} {ieId ieLen codeset active : UInt8} {octets : Octets}
    {accepted : List IeClass} (container : ¬isSoIe ieId) :
    ElementsInside codecs ahead (turns + 1) (ieId :: ieLen :: octets) codeset active accepted ↔
      ElementInside codecs ahead accepted codeset ieId octets ieLen.toNat ∧
        (ieLen.toNat ≤ octets.length →
          ElementsInside codecs ahead turns (octets.drop ieLen.toNat) active active
            (accepts codecs accepted codeset ieId octets ieLen.toNat)) := by
  simp [ElementsInside, container]

end Condition

/-! ## One element -/

section Element
variable {γ : Type} {codecs : Codecs γ} {ds : DecoderStatus γ}

/-- The classes of the elements of the message. -/
def DecoderStatus.accepted (ds : DecoderStatus γ) : List IeClass := ds.ies.map (·.ie.cls)

theorem occurrences_eq (cls : IeClass) :
    occurrences ds cls =
      ds.accepted.countP fun c => c.id == cls.id && c.codeset == cls.codeset := by
  rw [DecoderStatus.accepted, List.countP_map]
  rfl

/-- What a status is left with when no element is added. -/
structure Unchanged (ds after : DecoderStatus γ) : Prop where
  ies : after.ies = ds.ies
  active : after.activeCodeset = ds.activeCodeset
  aborted : after.aborted = ds.aborted

theorem unchanged_unrecognized (ieId : UInt8) (entry : IeidEntry) :
    Unchanged ds (unrecognized ds ieId entry) := by
  unfold unrecognized
  split <;> exact ⟨rfl, rfl, rfl⟩

theorem unchanged_contentErrors (cls : IeClass) (usage : IeUsage) :
    Unchanged ds (ieHasContentErrors ds cls usage) := by
  unfold ieHasContentErrors
  split <;> exact ⟨rfl, rfl, rfl⟩

/-- Whether an element is given to its decoder depends on the accepted classes
only, and if it is not nothing is added. -/
theorem admitIe_handed (ds : DecoderStatus γ) (messageType codeset ieId : UInt8) (len : Nat) :
    (∃ after, admitIe ds messageType codeset ieId len = .error after ∧ Unchanged ds after ∧
      handed ds.accepted codeset ieId len = none) ∨
    ∃ cls usage admitted, admitIe ds messageType codeset ieId len = .ok (cls, usage, admitted) ∧
      handed ds.accepted codeset ieId len = some (cls, admitted) := by
  unfold admitIe handed
  cases getIeClass codeset ieId with
  | none => exact .inl ⟨_, rfl, unchanged_unrecognized _ _, rfl⟩
  | some cls =>
    have usageSame : getIeUsage 0 codeset ieId = getIeUsage messageType codeset ieId := rfl
    rw [usageSame]
    cases getIeUsage messageType codeset ieId with
    | none => exact .inl ⟨_, rfl, unchanged_unrecognized _ _, by simp⟩
    | some usage =>
      have same : repeated ds cls ↔ cls.maxOccur > 0 ∧ cls.maxOccur ≠ intMax ∧
          ds.accepted.countP (fun c => c.id == cls.id && c.codeset == cls.codeset) > cls.maxOccur := by
        rw [repeated, occurrences_eq]
      simp only [Option.bind_some, reduceCtorEq, if_false, ← same]
      by_cases again : repeated ds cls
      · simp only [if_pos again]
        exact .inl ⟨_, rfl, ⟨rfl, rfl, rfl⟩, trivial⟩
      simp only [if_neg again]
      by_cases coded : (!cls.coded) = true
      · simp only [if_pos coded]
        exact .inl ⟨_, rfl, unchanged_unrecognized _ _, trivial⟩
      simp only [if_neg coded]
      by_cases big : tooBig cls len
      · simp only [if_pos big]
        by_cases access : cls.id ∈ accessIes
        · have other : cls.id ≠ .callIdentity := by
            intro identity
            rw [identity] at access
            exact absurd access (by decide)
          simp only [if_pos access, if_neg other]
          exact .inl ⟨_, rfl, ⟨rfl, rfl, rfl⟩, trivial⟩
        · simp only [if_neg access]
          by_cases identity : cls.id = .callIdentity
          · simp only [if_pos identity]
            exact .inr ⟨_, _, _, rfl, rfl⟩
          · simp only [if_neg identity]
            exact .inl ⟨_, rfl, unchanged_contentErrors _ _, trivial⟩
      · simp only [if_neg big]
        exact .inr ⟨_, _, _, rfl, rfl⟩

/-- Only a call identity is given to its decoder with another length than it has:
it is cut to ten octets. -/
theorem handed_length {accepted : List IeClass} {codeset ieId : UInt8} {len admitted : Nat} {cls : IeClass}
    (given : handed accepted codeset ieId len = some (cls, admitted)) :
    admitted = len ∨ cls.id = .callIdentity ∧ admitted = 10 ∧ 10 < len := by
  obtain ⟨c, found, given⟩ := Option.bind_eq_some_iff.mp given
  have tenOctets : ∀ c ∈ ieClasses, c.id = .callIdentity → c.maxLen = 10 := by decide +kernel
  have limit := tenOctets c (getIeClass_mem found).1
  split_ifs at given with _ _ _ big identity
  · simp only [Option.some.injEq, Prod.mk.injEq] at given
    obtain ⟨rfl, rfl⟩ := given
    have longer := big.2
    exact .inr ⟨identity, limit identity, by have := limit identity; omega⟩
  · simp only [Option.some.injEq, Prod.mk.injEq] at given
    exact .inl given.2.symm

/-- The octets from a place on, in the memory and alone. -/
theorem memory_agrees {area : Octets} {behind : Nat → UInt8} {start : Nat} :
    ∀ i < area.length - start, memory area behind (start + i) = padded (area.drop start) i := by
  intro i below
  have inside : start + i < area.length := by omega
  simp [memory, padded, List.getElem?_drop, inside]

/-- What the rest of the proof needs of the decoders: they look no further than
they are said to, and a call identity of ten octets is not rejected. -/
structure Decoders (codecs : Codecs γ) (ahead : IeId → Nat → (Nat → UInt8) → Nat) : Prop where
  looksAt : ∀ id len m, (codecs.read id len).value m ≠ .abort →
    LooksAt len (ahead id len m) m (codecs.read id len)
  cut : ∀ m, (codecs.read .callIdentity 10).value m ≠ .reject

variable {ahead : IeId → Nat → (Nat → UInt8) → Nat} {area : Octets} {behind : Nat → UInt8}
  {messageType codeset ieId : UInt8} {start len : Nat}

/-- A decoder stays inside the message if it does on the message alone, and then
it returns the same. -/
theorem shifted_reach_le {α : Type} {x : Reader α} (place : start ≤ area.length) :
    (x.shifted start).reach (memory area behind) ≤ area.length ↔
      x.reach (padded (area.drop start)) ≤ (area.drop start).length := by
  rw [Peek.reach_shifted_le_iff place, List.length_drop]
  exact Peek.reach_le_iff memory_agrees

theorem shifted_value {α : Type} {x : Reader α}
    (inside : x.reach (padded (area.drop start)) ≤ (area.drop start).length) :
    (x.shifted start).value (memory area behind) = x.value (padded (area.drop start)) := by
  rw [List.length_drop] at inside
  exact Peek.value_eq_of_reach_le memory_agrees inside

theorem readIe_reach {cls : IeClass} {usage : IeUsage} {admitted : Nat} {m : Nat → UInt8} {bound : Nat}
    (place : start ≤ bound) :
    (readIe codecs ds cls usage start admitted len).reach m ≤ bound ↔
      ((codecs.read cls.id admitted).shifted start).reach m ≤ bound ∧
      (((codecs.read cls.id admitted).shifted start).value m = .reject → start + admitted ≤ bound) := by
  simp only [readIe, Peek.reach_bind, Nat.max_le]
  refine and_congr_right fun _ => ?_
  cases ((codecs.read cls.id admitted).shifted start).value m with
  | reject =>
    simp only [Peek.reach_bind, Peek.reach_pure, Nat.max_zero, Peek.reach_shifted_le_iff place,
      Peek.reach_touch, forall_const]
    omega
  | accept content => simp
  | abort => simp

/-- The status with the verdict of the decoder. -/
def judged (ds : DecoderStatus γ) (cls : IeClass) (usage : IeUsage) (start len declared : Nat) :
    Verdict γ → DecoderStatus γ
  | .reject => ieHasContentErrors ds cls usage
  | .abort => { ds with aborted := true }
  | .accept content =>
    iesAddPut ds { ie := ⟨cls, content⟩, start := start, len := len, declared := declared }

theorem readIe_value {cls : IeClass} {usage : IeUsage} {admitted : Nat} {m : Nat → UInt8} :
    (readIe codecs ds cls usage start admitted len).value m =
      judged ds cls usage start admitted len (((codecs.read cls.id admitted).shifted start).value m) := by
  simp only [readIe, Peek.value_bind]
  cases ((codecs.read cls.id admitted).shifted start).value m <;> rfl

theorem judged_active {cls : IeClass} {usage : IeUsage} {admitted : Nat} (verdict : Verdict γ) :
    (judged ds cls usage start admitted len verdict).activeCodeset = ds.activeCodeset := by
  cases verdict with
  | reject => exact (unchanged_contentErrors cls usage).active
  | abort => rfl
  | accept content =>
    simp only [judged, iesAddPut]
    split <;> rfl

theorem Unchanged.inside {after : DecoderStatus γ} {bound : Nat} (same : Unchanged ds after)
    (before : ds.inside bound) : after.inside bound := by
  simpa [DecoderStatus.inside, same.ies, same.aborted] using before

theorem iesAddPut_inside {d : Decoded γ} {bound : Nat} (before : ds.inside bound) :
    (iesAddPut ds d).inside bound ↔ ds.ies.length < iesNumIes ∧ d.inside bound := by
  unfold iesAddPut
  by_cases room : ds.ies.length < iesNumIes
  · rw [if_pos room]
    constructor
    · intro inside
      exact ⟨room, inside.2 d (by simp)⟩
    · rintro ⟨-, inside⟩
      refine ⟨before.1, fun e member => ?_⟩
      rcases List.mem_append.mp member with old | new
      · exact before.2 e old
      · rw [List.mem_singleton.mp new]
        exact inside
  · rw [if_neg room]
    simp [DecoderStatus.inside, room]

/-- An element is inside exactly if decoding it is. -/
theorem decodeIe_inside (messageType : UInt8) (behind : Nat → UInt8) (decoders : Decoders codecs ahead) (place : start ≤ area.length)
    (before : ds.inside area.length) :
    ((decodeIe codecs ds messageType codeset ieId start len).reach (memory area behind) ≤ area.length ∧
      ((decodeIe codecs ds messageType codeset ieId start len).value (memory area behind)).inside
        area.length) ↔
      ElementInside codecs ahead ds.accepted codeset ieId (area.drop start) len := by
  have room : (area.drop start).length = area.length - start := List.length_drop
  have count : ds.accepted.length = ds.ies.length := List.length_map _
  unfold decodeIe
  rcases admitIe_handed ds messageType codeset ieId len with
    ⟨after, kept, same, none⟩ | ⟨cls, usage, admitted, taken, given⟩
  · have vacuous : ElementInside codecs ahead ds.accepted codeset ieId (area.drop start) len := by
      intro cls admitted given
      rw [none] at given
      cases given
    rw [kept]
    exact iff_of_true ⟨Nat.zero_le _, same.inside before⟩ vacuous
  have lengths := handed_length given
  have looks := decoders.looksAt cls.id admitted (padded (area.drop start))
  rw [taken]
  dsimp only
  rw [readIe_reach place, readIe_value, shifted_reach_le place]
  constructor
  · rintro ⟨⟨inside, dumped⟩, returned⟩
    rw [shifted_value inside] at dumped returned
    intro other length given'
    rw [given] at given'
    cases given'
    rw [accepts, given]
    dsimp only
    -- Whatever the decoder says, the element has to be whole.
    cases verdict : (codecs.read cls.id admitted).value (padded (area.drop start)) with
    | accept content =>
      rw [verdict] at returned
      obtain ⟨space, first, whole⟩ := (iesAddPut_inside before).mp returned
      dsimp only at first whole
      have reaches : max admitted _ = max admitted _ := looks (by simp [verdict])
      exact ⟨by omega, by omega, by simp, .inr (by omega)⟩
    | reject =>
      have printed := dumped verdict
      have uncut : admitted = len := by
        rcases lengths with same | ⟨identity, ten, -⟩
        · exact same
        · rw [identity, ten] at verdict
          exact absurd verdict (decoders.cut _)
      have reaches : max admitted _ = max admitted _ := looks (by simp [verdict])
      exact ⟨by omega, by omega, by simp, .inl rfl⟩
    | abort =>
      rw [verdict] at returned
      simp [judged, DecoderStatus.inside] at returned
  · intro whole
    obtain ⟨fits, aheadFits, returns, space⟩ := whole cls admitted given
    have reaches : max admitted _ = max admitted _ := looks returns
    have inside : (codecs.read cls.id admitted).reach (padded (area.drop start)) ≤
        (area.drop start).length := by omega
    rw [shifted_value inside]
    refine ⟨⟨inside, fun _ => by omega⟩, ?_⟩
    rw [accepts, given] at space
    dsimp only at space
    cases verdict : (codecs.read cls.id admitted).value (padded (area.drop start)) with
    | accept content =>
      rw [verdict] at space
      refine (iesAddPut_inside before).mpr ⟨?_, ?_⟩
      · rcases space with same | less
        · simp at same
        · omega
      · constructor <;> dsimp only <;> omega
    | reject => exact (unchanged_contentErrors cls usage).inside before
    | abort => exact absurd verdict returns

/-- And then the accepted classes are those it adds. -/
theorem decodeIe_accepts (decoders : Decoders codecs ahead) (place : start ≤ area.length)
    (before : ds.inside area.length)
    (whole : ElementInside codecs ahead ds.accepted codeset ieId (area.drop start) len) :
    ((decodeIe codecs ds messageType codeset ieId start len).value (memory area behind)).accepted =
      accepts codecs ds.accepted codeset ieId (area.drop start) len := by
  obtain ⟨inside, returned⟩ := (decodeIe_inside messageType behind
    decoders place before).mpr whole
  unfold decodeIe at inside returned ⊢
  rcases admitIe_handed ds messageType codeset ieId len with
    ⟨after, kept, same, none⟩ | ⟨cls, usage, admitted, taken, given⟩
  · rw [kept, accepts, none]
    exact congrArg (List.map (·.ie.cls)) same.ies
  rw [taken] at inside returned ⊢
  dsimp only at inside returned ⊢
  rw [readIe_reach place, shifted_reach_le place] at inside
  rw [readIe_value, shifted_value inside.1] at returned ⊢
  rw [accepts, given]
  dsimp only
  cases verdict : (codecs.read cls.id admitted).value (padded (area.drop start)) with
  | accept content =>
    rw [verdict] at returned
    have space := ((iesAddPut_inside before).mp returned).1
    simp [judged, iesAddPut, space, DecoderStatus.accepted]
  | reject => exact congrArg (List.map (·.ie.cls)) (unchanged_contentErrors cls usage).ies
  | abort =>
    rw [verdict] at returned
    simp [judged, DecoderStatus.inside] at returned

/-- What is not about the elements of the message. -/
theorem decodeIe_active {m : Nat → UInt8} :
    ((decodeIe codecs ds messageType codeset ieId start len).value m).activeCodeset =
      ds.activeCodeset := by
  unfold decodeIe
  rcases admitIe_handed ds messageType codeset ieId len with
    ⟨after, kept, same, none⟩ | ⟨cls, usage, admitted, taken, given⟩
  · rw [kept]
    exact same.active
  · rw [taken]
    dsimp only
    rw [readIe_value]
    exact judged_active _

theorem judged_keeps {cls : IeClass} {usage : IeUsage} {admitted : Nat} (verdict : Verdict γ) :
    ds.ies ⊆ (judged ds cls usage start admitted len verdict).ies := by
  cases verdict with
  | reject => rw [judged, (unchanged_contentErrors cls usage).ies]; exact fun _ => id
  | abort => exact fun _ => id
  | accept content =>
    simp only [judged, iesAddPut]
    split
    · exact List.subset_append_left _ _
    · exact fun _ => id

theorem decodeIe_keeps {m : Nat → UInt8} :
    ds.ies ⊆ ((decodeIe codecs ds messageType codeset ieId start len).value m).ies := by
  unfold decodeIe
  rcases admitIe_handed ds messageType codeset ieId len with
    ⟨after, kept, same, none⟩ | ⟨cls, usage, admitted, taken, given⟩
  · rw [kept, Peek.value_pure, same.ies]
    exact fun _ => id
  · rw [taken]
    dsimp only
    rw [readIe_value]
    exact judged_keeps _

end Element

/-! ## The loop -/

section Loop
variable {γ : Type} {codecs : Codecs γ} {ahead : IeId → Nat → (Nat → UInt8) → Nat} {area : Octets}
  {behind : Nat → UInt8} {messageType : UInt8}

/-- A part of the decoder returns, looks at octets of the message only, and leaves
elements of the message only. -/
def Returns (bound : Nat) (m : Nat → UInt8) (x : Reader (Option (DecoderStatus γ))) : Prop :=
  ∃ ds, x.value m = some ds ∧ x.reach m ≤ bound ∧ ds.inside bound

section
variable {bound : Nat} {m : Nat → UInt8}

theorem returns_pure {ds : DecoderStatus γ} : Returns bound m (pure (some ds)) ↔ ds.inside bound := by
  simp [Returns]

theorem returns_bind {α : Type} {x : Reader α} {next : α → Reader (Option (DecoderStatus γ))} :
    Returns bound m (x >>= next) ↔ x.reach m ≤ bound ∧ Returns bound m (next (x.value m)) := by
  constructor
  · rintro ⟨ds, result, looked, inside⟩
    have both := Nat.max_le.mp looked
    exact ⟨both.1, ds, result, both.2, inside⟩
  · rintro ⟨first, ds, result, looked, inside⟩
    exact ⟨ds, result, Nat.max_le.mpr ⟨first, looked⟩, inside⟩

theorem returns_cell {i : Nat} {next : UInt8 → Reader (Option (DecoderStatus γ))} :
    Returns bound m (cell i >>= next) ↔ i < bound ∧ Returns bound m (next (m i)) :=
  returns_bind

end

/-- A shift changes the active codeset if it is a locking one. -/
theorem decodeShiftIe_active (ds : DecoderStatus γ) (ieId : UInt8) :
    (decodeShiftIe ds ieId).2.activeCodeset =
      if getSoIeType2Value ieId &&& 0x08 ≠ 0 then ds.activeCodeset
      else getSoIeType2Value ieId &&& 0x07 := by
  unfold decodeShiftIe
  dsimp only
  split <;> rfl

theorem decodeShiftIe_codeset (ds : DecoderStatus γ) (ieId : UInt8) :
    (decodeShiftIe ds ieId).1 = getSoIeType2Value ieId &&& 0x07 := by
  unfold decodeShiftIe
  dsimp only
  split <;> rfl

theorem decodeShiftIe_ies (ds : DecoderStatus γ) (ieId : UInt8) :
    (decodeShiftIe ds ieId).2.ies = ds.ies := by
  unfold decodeShiftIe
  dsimp only
  split <;> rfl

theorem decodeShiftIe_aborted (ds : DecoderStatus γ) (ieId : UInt8) :
    (decodeShiftIe ds ieId).2.aborted = ds.aborted := by
  unfold decodeShiftIe
  dsimp only
  split <;> rfl

/-- The elements stay. -/
theorem decodeLoop_keeps {rawiesLen : Nat} {m : Nat → UInt8} (turns : Nat) :
    ∀ pos codeset (ds after : DecoderStatus γ),
      (decodeLoop codecs messageType rawiesLen turns pos codeset ds).value m = some after →
      ds.ies ⊆ after.ies := by
  induction turns with
  | zero =>
    intro pos codeset ds after result
    simp only [decodeLoop, Peek.value_pure] at result
    split at result
    · cases result
    · cases result
      exact fun _ => id
  | succ turns further =>
    intro pos codeset ds after result
    unfold decodeLoop at result
    split at result
    · rw [Peek.value_cell_bind] at result
      split at result
      · split at result
        · rw [← decodeShiftIe_ies ds (m pos)]
          exact further _ (decodeShiftIe ds (m pos)).1 (decodeShiftIe ds (m pos)).2 _ result
        · rw [Peek.value_bind] at result
          split at result
          · cases result
            exact decodeIe_keeps
          · refine List.Subset.trans ?_ (further _ _ _ _ result)
            exact decodeIe_keeps
      · rw [Peek.value_cell_bind, Peek.value_bind] at result
        split at result
        · cases result
          exact decodeIe_keeps
        · split at result
          · cases result
            exact decodeIe_keeps
          · refine List.Subset.trans ?_ (further _ _ _ _ result)
            exact decodeIe_keeps
    · cases result
      exact fun _ => id

/-- An element, and then whatever keeps the elements it finds. -/
theorem returns_element (decoders : Decoders codecs ahead) {ds : DecoderStatus γ} {codeset ieId : UInt8}
    {start len : Nat} (place : start ≤ area.length) (before : ds.inside area.length)
    {next : DecoderStatus γ → Reader (Option (DecoderStatus γ))}
    (keeps : ∀ ds, Returns area.length (memory area behind) (next ds) →
      ∀ d ∈ ds.ies, d.inside area.length) :
    Returns area.length (memory area behind) (do
      let ds ← decodeIe codecs ds messageType codeset ieId start len
      if ds.aborted then pure (some ds) else next ds) ↔
    ElementInside codecs ahead ds.accepted codeset ieId (area.drop start) len ∧
      Returns area.length (memory area behind) (next
        ((decodeIe codecs ds messageType codeset ieId start len).value (memory area behind))) := by
  rw [returns_bind, ← decodeIe_inside messageType behind decoders place before,
    and_assoc]
  refine and_congr_right fun looked => ?_
  cases aborted : ((decodeIe codecs ds messageType codeset ieId start len).value
    (memory area behind)).aborted with
  | true =>
    rw [if_pos rfl, returns_pure]
    refine iff_of_false ?_ ?_ <;> simp [DecoderStatus.inside, aborted]
  | false =>
    rw [if_neg (by simp)]
    constructor
    · intro returned
      exact ⟨⟨aborted, keeps _ returned⟩, returned⟩
    · exact fun both => both.2

theorem decodeLoop_returns_inside {turns pos : Nat} {codeset : UInt8} (ds : DecoderStatus γ)
    (returned : Returns area.length (memory area behind)
      (decodeLoop codecs messageType area.length turns pos codeset ds)) :
    ∀ d ∈ ds.ies, d.inside area.length := by
  obtain ⟨after, result, -, inside⟩ := returned
  intro d member
  exact inside.2 d (decodeLoop_keeps turns pos codeset ds after result member)

/-- The claim of the induction: the loop stays inside the message exactly if its
elements do. -/
def LoopInside (codecs : Codecs γ) (ahead : IeId → Nat → (Nat → UInt8) → Nat) (messageType : UInt8)
    (area : Octets) (behind : Nat → UInt8) (turns : Nat) : Prop :=
  ∀ pos codeset (ds : DecoderStatus γ), area.length - pos ≤ turns → ds.inside area.length →
    (Returns area.length (memory area behind)
      (decodeLoop codecs messageType area.length turns pos codeset ds) ↔
    ElementsInside codecs ahead turns (area.drop pos) codeset ds.activeCodeset ds.accepted)

/-- Behind an element the loop goes on with the codeset that is active. -/
theorem LoopInside.after_element (decoders : Decoders codecs ahead) {turns : Nat}
    (further : LoopInside codecs ahead messageType area behind turns) {ds : DecoderStatus γ}
    {codeset ieId entry : UInt8} {start len pos : Nat} (place : start ≤ area.length)
    (before : ds.inside area.length) (enough : area.length - pos ≤ turns)
    (whole : ElementInside codecs ahead ds.accepted codeset ieId (area.drop start) len) :
    let after := present
      ((decodeIe codecs ds messageType codeset ieId start len).value (memory area behind)) codeset entry
    Returns area.length (memory area behind)
      (decodeLoop codecs messageType area.length turns pos after.activeCodeset after) ↔
    ElementsInside codecs ahead turns (area.drop pos) ds.activeCodeset ds.activeCodeset
      (accepts codecs ds.accepted codeset ieId (area.drop start) len) := by
  intro after
  have inside := ((decodeIe_inside messageType behind decoders place
    before).mpr whole).2
  have active : after.activeCodeset = ds.activeCodeset := decodeIe_active
  have accepted : after.accepted = accepts codecs ds.accepted codeset ieId (area.drop start) len :=
    decodeIe_accepts decoders place before whole
  rw [further pos after.activeCodeset after enough inside, active, accepted]

/-- The loop stays inside the message exactly if its elements do. The induction
is on the turns, of which there are enough. -/
theorem decodeLoop_inside (decoders : Decoders codecs ahead) (turns : Nat) :
    LoopInside codecs ahead messageType area behind turns := by
  induction turns with
  | zero =>
    intro pos codeset ds enough before
    rw [decodeLoop, if_neg (by omega), returns_pure]
    exact iff_of_true before trivial
  | succ turns further =>
    intro pos codeset ds enough before
    unfold decodeLoop
    by_cases more : pos < area.length
    · have split : area.drop pos = memory area behind pos :: area.drop (pos + 1) := by
        rw [List.drop_eq_getElem_cons more]
        simp [memory, more]
      rw [if_pos more, returns_cell, and_iff_right more, split]
      generalize memory area behind pos = ieId at split ⊢
      by_cases single : isSoIe ieId
      · rw [if_pos single]
        by_cases shift : getSoIeId ieId = IeId.shift.code
        · rw [if_pos shift, elementsInside_shift _ _ single shift]
          have inside : (decodeShiftIe ds ieId).2.inside area.length := by
            simpa [DecoderStatus.inside, decodeShiftIe_ies, decodeShiftIe_aborted] using before
          have accepted : (decodeShiftIe ds ieId).2.accepted = ds.accepted := by
            rw [DecoderStatus.accepted, decodeShiftIe_ies, DecoderStatus.accepted]
          have rest := further (pos + 1) (decodeShiftIe ds ieId).1 (decodeShiftIe ds ieId).2 (by omega)
            inside
          rw [decodeShiftIe_active, accepted] at rest
          rw [← decodeShiftIe_codeset ds] at rest ⊢
          exact rest
        · rw [if_neg shift, elementsInside_single _ _ single shift, ← split]
          refine (returns_element decoders (by omega) before
            fun ds => decodeLoop_returns_inside (present ds codeset ieId)).trans ?_
          exact and_congr_right (LoopInside.after_element decoders further (by omega) before (by omega))
      · rw [if_neg single, returns_cell]
        by_cases length : pos + 1 < area.length
        · have octets : area.drop (pos + 1) = memory area behind (pos + 1) :: area.drop (pos + 2) := by
            rw [List.drop_eq_getElem_cons length]
            simp [memory, length]
          rw [and_iff_right length, octets, elementsInside_container _ _ single]
          generalize memory area behind (pos + 1) = ieLen
          refine (returns_element decoders (by omega) before fun ds returned => ?_).trans
            (and_congr_right fun whole => ?_)
          · split_ifs at returned
            · exact (returns_pure.mp returned).2
            · exact decodeLoop_returns_inside (present ds codeset ieId) returned
          · have room : (area.drop (pos + 2)).length = area.length - (pos + 2) := List.length_drop
            split_ifs with past
            · have inside := ((decodeIe_inside messageType behind decoders
                (by omega) before).mpr whole).2
              exact iff_of_true (returns_pure.mpr inside) fun fits => absurd fits (by omega)
            · have fits : ieLen.toNat ≤ (area.drop (pos + 2)).length := by omega
              have place : area.drop (pos + ieLen.toNat + 2) = (area.drop (pos + 2)).drop ieLen.toNat := by
                rw [List.drop_drop]
                congr 1
                omega
              rw [forall_prop_of_true fits, ← place]
              exact LoopInside.after_element decoders further (by omega) before (by omega) whole
        · have nothing : area.drop (pos + 1) = [] := List.drop_eq_nil_of_le (by omega)
          rw [nothing]
          refine iff_of_false (fun both => length both.1) ?_
          simp [ElementsInside, single]
    · rw [if_neg more, returns_pure, List.drop_eq_nil_of_le (by omega)]
      exact iff_of_true before trivial

end Loop

/-- The decoders of the library. -/
theorem codecs_decoders (libc : Libc) (intf : Intf) : Decoders (codecs libc intf) (lookahead intf) where
  looksAt _ _ _ returns := decoders_look_ahead returns
  cut m := by
    simp [codecs, readFromBuf, readAs, readCallIdentity, memcpy, Verdict.map]

/-- `q931_decode_ies` returns, looks at octets of the message only and adds
elements of the message only, exactly if every variable length element has its
length octet and every element that is given to a decoder is inside. -/
theorem decoding_stays_inside_iff_elements_do (libc : Libc) (intf : Intf) (messageType : UInt8)
    (role : IntfRole) (area : Octets) (behind : Nat → UInt8) :
    StaysInside (codecs libc intf) messageType role area behind ↔
      ElementsInside (codecs libc intf) (lookahead intf) area.length area 0 0 [] := by
  have loop : LoopInside (codecs libc intf) (lookahead intf) messageType area behind area.length :=
    decodeLoop_inside (codecs_decoders libc intf) area.length
  exact loop 0 0 { mandatoryIes := mandatoryIes messageType role } (by omega) ⟨rfl, by simp⟩

/-- The last element of a message declares five octets, and one is there: it is
added with four octets of what lies behind the message. -/
theorem cut_call_identity_is_added :
    ¬∀ (libc : Libc) (intf : Intf) (messageType : UInt8) (role : IntfRole) (area : Octets)
      (behind : Nat → UInt8), StaysInside (codecs libc intf) messageType role area behind := by
  intro always
  have inside := always ⟨fun _ => 0, fun _ => {}⟩ ⟨.bra, .te, 2⟩ 0x25 .te [0x10, 0x05, 0x41] fun _ => 0
  obtain ⟨ds, -, reach, -⟩ := inside
  revert reach
  decide +kernel

end Vstuff.Q931
