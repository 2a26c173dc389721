import Vstuff.Q931.Placement

/-! How many elements of a class a received message has: the ones `q931_decode_ie` keeps
among the ones that the message contains. -/
namespace Vstuff.Q931
open Lapd (Octets IntfRole)
set_option linter.all false

/-- An element of one class. -/
def Decoded.isOf {γ : Type} (cls : IeClass) (d : Decoded γ) : Bool :=
  d.ie.cls.id == cls.id && d.ie.cls.codeset == cls.codeset

/-- The elements of a class in a message that has been decoded. -/
def held {γ : Type} (ds : DecoderStatus γ) (cls : IeClass) : List (Decoded γ) := ds.ies.filter (·.isOf cls)

section Occurrences
variable {γ : Type} (codecs : Codecs γ) (m : Nat → UInt8)

/-- What a decoder that is called with some octets makes of them. -/
def readAt (cls : IeClass) (start len declared : Nat) : Option (Decoded γ) :=
  match ((codecs.read cls.id len).shifted start).value m with
  | .accept content => some { ie := ⟨cls, content⟩, start := start, len := len, declared := declared }
  | _ => none

/-- A well-formed occurrence: were it the first element of a message, it would be given to
the decoder of its class, and the decoder accepts it. -/
def wellFormed (codeset : UInt8) (item : Item) : Option (Decoded γ) :=
  (handed [] codeset item.id item.len).bind fun given =>
    readAt codecs m given.1 item.start given.2 item.len

/-- The well-formed occurrences of a class in a row of elements, in order. -/
def occurrencesIn (row : List (UInt8 × Item)) (cls : IeClass) : List (Decoded γ) :=
  (row.filterMap fun placed => wellFormed codecs m placed.1 placed.2).filter (·.isOf cls)

variable {codecs m} {messageType : UInt8}

theorem readAt_cls {cls : IeClass} {start len declared : Nat} {d : Decoded γ}
    (read : readAt codecs m cls start len declared = some d) : d.ie.cls = cls := by
  unfold readAt at read
  split at read
  · cases read
    rfl
  · cases read

/-- More than `max_occur` elements of a class have been accepted. -/
def overrun (accepted : List IeClass) (cls : IeClass) : Bool :=
  cls.maxOccur > 0 ∧ cls.maxOccur ≠ intMax ∧
    accepted.countP (fun c => c.id == cls.id && c.codeset == cls.codeset) > cls.maxOccur

/-- What has been accepted keeps elements from their decoder in this way only. -/
theorem handed_filter (accepted : List IeClass) (codeset ieId : UInt8) (len : Nat) :
    handed accepted codeset ieId len =
      (handed [] codeset ieId len).filter fun given => !overrun accepted given.1 := by
  unfold handed
  cases getIeClass codeset ieId with
  | none => rfl
  | some cls =>
    have first : ¬(cls.maxOccur > 0 ∧ cls.maxOccur ≠ intMax ∧
        ([] : List IeClass).countP (fun c => c.id == cls.id && c.codeset == cls.codeset) > cls.maxOccur) := by
      simp
    rw [Option.bind_some, Option.bind_some, if_neg first]
    by_cases again : cls.maxOccur > 0 ∧ cls.maxOccur ≠ intMax ∧
        accepted.countP (fun c => c.id == cls.id && c.codeset == cls.codeset) > cls.maxOccur
    · have more : overrun accepted cls = true := decide_eq_true again
      rw [if_pos again]
      split_ifs <;> simp [more, Option.filter_some]
    · have few : overrun accepted cls = false := decide_eq_false again
      rw [if_neg again]
      split_ifs <;> simp [few, Option.filter_some]

/-- The occurrences that are given to their decoder in spite of what has been accepted. -/
theorem wellFormed_filter (accepted : List IeClass) (codeset : UInt8) (item : Item) :
    ((wellFormed codecs m codeset item).filter fun d => !overrun accepted d.ie.cls) =
      (handed accepted codeset item.id item.len).bind fun given =>
        readAt codecs m given.1 item.start given.2 item.len := by
  rw [handed_filter accepted, wellFormed]
  cases handed [] codeset item.id item.len with
  | none => rfl
  | some given =>
    rw [Option.bind_some]
    cases read : readAt codecs m given.1 item.start given.2 item.len with
    | none => cases more : overrun accepted given.1 <;> simp [Option.filter_some, more, read]
    | some d =>
      cases more : overrun accepted given.1 <;> simp [Option.filter_some, more, read, readAt_cls read]

theorem handed_cls {accepted : List IeClass} {codeset ieId : UInt8} {len : Nat} {given : IeClass × Nat}
    (handed_eq : handed accepted codeset ieId len = some given) : given.1 ∈ ieClasses := by
  obtain ⟨cls, found, rest⟩ := Option.bind_eq_some_iff.mp handed_eq
  have known := (getIeClass_mem found).1
  split_ifs at rest <;> cases rest <;> exact known

theorem wellFormed_mem {codeset : UInt8} {item : Item} {d : Decoded γ}
    (formed : wellFormed codecs m codeset item = some d) : d.ie.cls ∈ ieClasses := by
  obtain ⟨given, handed_eq, read⟩ := Option.bind_eq_some_iff.mp formed
  rw [readAt_cls read]
  exact handed_cls handed_eq

/-- A class of the table is known by its identifier and its codeset. -/
theorem Decoded.isOf_iff {cls : IeClass} (known : cls ∈ ieClasses) {d : Decoded γ}
    (member : d.ie.cls ∈ ieClasses) : d.isOf cls = true ↔ d.ie.cls = cls := by
  constructor
  · intro same
    rw [Decoded.isOf, Bool.and_eq_true, beq_iff_eq, beq_iff_eq] at same
    have first := getIeClass_self d.ie.cls member
    rw [same.1, same.2, getIeClass_self cls known] at first
    exact (Option.some.inj first).symm
  · intro same
    simp [Decoded.isOf, same]

/-- A decoder that is called adds what it makes of its octets. -/
theorem readIe_ies {ds : DecoderStatus γ} {cls : IeClass} {usage : IeUsage} {start len declared : Nat}
    (returns : ((readIe codecs ds cls usage start len declared).value m).aborted = false) :
    ((readIe codecs ds cls usage start len declared).value m).ies =
      ds.ies ++ (readAt codecs m cls start len declared).toList := by
  rw [readIe_value] at returns ⊢
  unfold readAt
  generalize ((codecs.read cls.id len).shifted start).value m = verdict at returns ⊢
  cases verdict with
  | reject => simpa [judged] using (unchanged_contentErrors cls usage).ies
  | abort => cases returns
  | accept content =>
    rw [judged, iesAddPut] at returns ⊢
    split at returns
    · next room =>
      rw [if_pos room]
      rfl
    · cases returns

/-- The decoder of an element adds it if it is well formed and not repeated. -/
theorem decodeIe_ies {ds : DecoderStatus γ} {codeset : UInt8} {item : Item}
    (returns : ((decodeIe codecs ds messageType codeset item.id item.start item.len).value m).aborted = false) :
    ((decodeIe codecs ds messageType codeset item.id item.start item.len).value m).ies =
      ds.ies ++ ((wellFormed codecs m codeset item).filter
        fun d => !overrun ds.accepted d.ie.cls).toList := by
  unfold decodeIe at returns ⊢
  rw [wellFormed_filter]
  rcases admitIe_handed ds messageType codeset item.id item.len with
    ⟨after, kept, same, none⟩ | ⟨cls, usage, admitted, taken, given⟩
  · rw [kept, Peek.value_pure, same.ies, none]
    simp
  · rw [taken] at returns ⊢
    rw [given]
    exact readIe_ies returns

/-! ## Along the message -/

theorem take_take_append {α : Type} (n : Nat) (xs ys : List α) :
    (xs.take n ++ ys).take n = (xs ++ ys).take n := by
  rw [List.take_append, List.take_append, List.take_take, List.length_take, Nat.min_self]
  congr 2
  omega

/-- A class with a limit is overrun by more elements than it allows. -/
theorem overrun_iff {ds : DecoderStatus γ} {cls : IeClass} (known : cls ∈ ieClasses)
    (limited : cls.maxOccur ≠ intMax) :
    overrun ds.accepted cls = true ↔ cls.maxOccur < (held ds cls).length := by
  have all : ∀ cls ∈ ieClasses, 0 < cls.maxOccur := by decide
  have length : (held ds cls).length =
      ds.accepted.countP fun c => c.id == cls.id && c.codeset == cls.codeset := by
    rw [← occurrences_eq, occurrences, List.countP_eq_length_filter]
    rfl
  rw [overrun, decide_eq_true_iff, length]
  exact ⟨fun more => more.2.2, fun more => ⟨all cls known, limited, more⟩⟩

/-- What one element adds to its class. -/
theorem decodeIe_held {ds : DecoderStatus γ} {cls : IeClass} (known : cls ∈ ieClasses)
    (limited : cls.maxOccur ≠ intMax) (few : (held ds cls).length ≤ cls.maxOccur + 1) (codeset : UInt8)
    (item : Item)
    (returns : ((decodeIe codecs ds messageType codeset item.id item.start item.len).value m).aborted = false) :
    held ((decodeIe codecs ds messageType codeset item.id item.start item.len).value m) cls =
      (held ds cls ++ (wellFormed codecs m codeset item).toList.filter (·.isOf cls)).take
        (cls.maxOccur + 1) := by
  rw [held, decodeIe_ies returns, List.filter_append, ← held]
  cases formed : wellFormed codecs m codeset item with
  | none => simp [List.take_of_length_le few]
  | some d =>
    have class_iff := Decoded.isOf_iff known (wellFormed_mem formed)
    by_cases here : d.isOf cls = true
    · rw [Option.filter_some, class_iff.mp here]
      by_cases more : overrun ds.accepted cls = true
      · have many := (overrun_iff known limited).mp more
        have full : (held ds cls).length = cls.maxOccur + 1 := by omega
        simp [more, ← full]
      · have room : (held ds cls).length ≤ cls.maxOccur := by
          rw [overrun_iff known limited] at more
          omega
        have fits : (held ds cls ++ [d]).length ≤ cls.maxOccur + 1 := by simp [room]
        simp [more, here, List.take_of_length_le fits]
    · have other : ((Option.filter (fun d => !overrun ds.accepted d.ie.cls) (some d)).toList.filter
          (·.isOf cls)) = [] := by
        rw [Option.filter_some]
        split <;> simp [here]
      rw [other]
      simp [here, List.take_of_length_le few]

/-- Elements of a class are kept up to one more than `max_occur`. -/
theorem decodeAll_held {cls : IeClass} (known : cls ∈ ieClasses) (limited : cls.maxOccur ≠ intMax)
    (record : Item → UInt8) (row : List (UInt8 × Item)) :
    ∀ ds : DecoderStatus γ, (held ds cls).length ≤ cls.maxOccur + 1 →
      (decodeAll codecs messageType m record ds row).aborted = false →
      held (decodeAll codecs messageType m record ds row) cls =
        (held ds cls ++ occurrencesIn codecs m row cls).take (cls.maxOccur + 1) := by
  induction row with
  | nil =>
    intro ds few returns
    simp [decodeAll, occurrencesIn, List.take_of_length_le few]
  | cons placed row further =>
    intro ds few returns
    obtain ⟨codeset, item⟩ := placed
    have added (returns) : held ((decodeIe codecs ds messageType codeset item.id item.start item.len).value
        m) cls = _ := decodeIe_held known limited few codeset item returns
    rw [decodeAll] at returns ⊢
    generalize (decodeIe codecs ds messageType codeset item.id item.start item.len).value m = after
      at added returns ⊢
    by_cases stopped : after.aborted = true
    · rw [if_pos stopped] at returns
      exact absurd stopped (by simp [returns])
    · rw [if_neg stopped] at returns ⊢
      have next := added (by simpa using stopped)
      have same : held (if item.whole then present after codeset (record item) else after) cls =
          held after cls := by
        split <;> rfl
      have occurs : occurrencesIn codecs m ((codeset, item) :: row) cls =
          (wellFormed codecs m codeset item).toList.filter (·.isOf cls) ++ occurrencesIn codecs m row cls := by
        unfold occurrencesIn
        rw [List.filterMap_cons]
        cases wellFormed codecs m codeset item with
        | none => rfl
        | some d => rw [List.filter_cons]; split <;> simp [*]
      rw [further _ (by rw [same, next]; simp) returns, same, next, occurs, ← List.append_assoc]
      exact take_take_append ..

end Occurrences

/-- Of every class with a limit, a message that has been decoded has the first well-formed
occurrences, in order, up to the limit. -/
def HoldsFirst {γ : Type} (codecs : Codecs γ) (area : Octets) (behind : Nat → UInt8)
    (ds : DecoderStatus γ) : Prop :=
  ∀ cls ∈ ieClasses, cls.maxOccur ≠ intMax →
    held ds cls =
      (occurrencesIn codecs (memory area behind) (elements area behind) cls).take cls.maxOccur

/-- One element more than its class allows is held, so the limit is kept exactly if the
message itself keeps it. -/
theorem first_occurrences_held_iff {γ : Type} (codecs : Codecs γ) {messageType : UInt8} {role : IntfRole}
    {area : Octets} {behind : Nat → UInt8} {ds : DecoderStatus γ}
    (decodes : (decodeIes codecs messageType role area.length).value (memory area behind) = some ds)
    (returns : ds.aborted = false) :
    HoldsFirst codecs area behind ds ↔ ∀ cls ∈ ieClasses, cls.maxOccur ≠ intMax →
      (occurrencesIn codecs (memory area behind) (elements area behind) cls).length ≤ cls.maxOccur := by
  have follows := decodeIes_follows decodes
  refine forall₃_congr fun cls known limited => ?_
  have kept : held ds cls =
      (occurrencesIn codecs (memory area behind) (elements area behind) cls).take (cls.maxOccur + 1) := by
    have running : ds.found.aborted = false := returns
    rw [follows] at running
    have all := decodeAll_held known limited Item.octet (elements area behind)
      { mandatoryIes := mandatoryIes messageType role } (Nat.zero_le _) running
    rw [← follows] at all
    exact all
  rw [kept]
  constructor
  · intro same
    have lengths := congrArg List.length same
    rw [List.length_take, List.length_take] at lengths
    omega
  · intro few
    rw [List.take_of_length_le few, List.take_of_length_le (Nat.le_succ_of_le few)]

/-- Two progress indicators are as many as a message may have. -/
theorem two_progress_indicators_are_held :
    let area : Octets := [0x1e, 0x02, 0x80, 0x81, 0x1e, 0x02, 0x80, 0x82]
    ∃ ds, (decodeIes (codecs utc ⟨.bra, .nt, 2⟩) 0x01 .nt area.length).value (memory area fun _ => 0) = some ds ∧
      HoldsFirst (codecs utc ⟨.bra, .nt, 2⟩) area (fun _ => 0) ds := by
  intro area
  have returns : ((decodeIes (codecs utc ⟨.bra, .nt, 2⟩) 0x01 .nt area.length).value
      (memory area fun _ => 0)).any (fun ds => !ds.aborted) = true := by
    decide +kernel
  obtain ⟨ds, decodes, running⟩ := Option.any_eq_true _ _ |>.mp returns
  refine ⟨ds, decodes, (first_occurrences_held_iff _ decodes (by simpa using running)).mpr ?_⟩
  decide +kernel

/-- A second cause is held although a message may have one only. -/
theorem second_cause_is_held :
    let area : Octets := [0x08, 0x02, 0x80, 0x90, 0x08, 0x02, 0x80, 0x91]
    ∃ ds, (decodeIes (codecs utc ⟨.bra, .nt, 2⟩) 0x45 .nt area.length).value (memory area fun _ => 0) = some ds ∧
      ds.aborted = false ∧ ¬HoldsFirst (codecs utc ⟨.bra, .nt, 2⟩) area (fun _ => 0) ds := by
  intro area
  have two : ((decodeIes (codecs utc ⟨.bra, .nt, 2⟩) 0x45 .nt area.length).value
      (memory area fun _ => 0)).any (fun ds =>
        !ds.aborted && (held ds ⟨.vl, 32, 1, 0, .cause, true⟩).length == 2) = true := by
    decide +kernel
  obtain ⟨ds, decodes, found⟩ := Option.any_eq_true _ _ |>.mp two
  rw [Bool.and_eq_true, beq_iff_eq] at found
  refine ⟨ds, decodes, by simpa using found.1, fun first => ?_⟩
  have one := congrArg List.length (first ⟨.vl, 32, 1, 0, .cause, true⟩ (by decide) (by decide))
  rw [found.2, List.length_take] at one
  exact absurd one (by dsimp only; omega)

end Vstuff.Q931
