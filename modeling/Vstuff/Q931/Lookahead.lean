import Vstuff.Q931.Element

/-! Which octets the decoders look at whatever the length they are given. Most
stay inside it; a bearer capability, a low layer compatibility, a cause and a
channel identification may look behind. -/
namespace Vstuff.Q931
open Lapd (Octets)
open Peek (cell)
set_option linter.all false

/-- Octet 5 at `n` and its extensions; `next` is for the octets behind them. -/
def lookaheadOctet5 (m : Nat → UInt8) (n : Nat) (next : Nat → Nat) : Nat :=
  max (n + 1) (if octIdent (m n) = 1 then
    if ext (m n) then next (n + 1)
    else max (n + 2) (if ext (m (n + 1)) then next (n + 2)
    else if hasOctet5b (bits (m n) 0 5) then
      max (n + 3) (if ext (m (n + 2)) then next (n + 3)
      else max (n + 4) (if ext (m (n + 3)) then next (n + 4)
      else max (n + 5) (if ext (m (n + 4)) then 0 else next (n + 5))))
    else 0)
  else next n)

/-- The octets 3 to 5 of a bearer capability or a low layer compatibility. -/
def lookaheadOctets3To5 (len : Nat) (m : Nat → UInt8) (next : Nat → Nat) : Nat :=
  if len < 2 then 0
  else if ext (m 0) then
    if ext (m 1) then lookaheadOctet5 m 2 next
    else max 3 (if ext (m 2) then lookaheadOctet5 m 3 next
    else max 4 (if ext (m 3) then lookaheadOctet5 m 4 next else 0))
  else 0

/-- Octet 7a of a low layer compatibility, with octet 7 at `n`. -/
def lookaheadOctet7 (len : Nat) (m : Nat → UInt8) (n : Nat) : Nat :=
  if n ≥ len then 0
  else if octIdent (m n) = 2 then if ext (m n) then 0 else n + 2
  else 0

/-- The same, with octet 6 at `n`. -/
def lookaheadOctet6 (len : Nat) (m : Nat → UInt8) (n : Nat) : Nat :=
  if n ≥ len then 0
  else if octIdent (m n) = 2 then
    if ext (m n) then lookaheadOctet7 len m (n + 1)
    else if n + 1 ≥ len then 0
    else if ext (m (n + 1)) then 0
    else lookaheadOctet7 len m (n + 2)
  else lookaheadOctet7 len m n

/-- Octet 4 of a cause with an octet 3a. -/
def lookaheadCause (m : Nat → UInt8) : Nat :=
  if ext (m 0) then 0 else if ext (m 1) ∧ bits (m 1) 0 7 = 0 then 3 else 0

/-- The first octet 3d of a channel identification: on a primary rate interface,
when a channel is indicated by its number. -/
def lookaheadChannel (intf : Intf) (len : Nat) (m : Nat → UInt8) : Nat :=
  if bits (m 0) 6 1 = 1 then 0
  else if bits (m 0) 2 1 = 1 then 0
  else if bits (m 0) 5 1 == 1 then
    if len < 2 then 0
    else if intf.type = .bra then 0
    else if bits (m 1) 5 2 ≠ 0 ∨ bits (m 1) 4 1 = 1 then 0
    else if bits (m 0) 0 2 = 1 then 3
    else 0
  else 0

/-- How far an element is looked at, inside its length or not. -/
def lookahead (intf : Intf) (id : IeId) (len : Nat) (m : Nat → UInt8) : Nat :=
  match id with
  | .bearerCapability => lookaheadOctets3To5 len m fun _ => 0
  | .lowLayerCompatibility => lookaheadOctets3To5 len m (lookaheadOctet6 len m)
  | .cause => if len < 2 then 0 else lookaheadCause m
  | .channelIdentification => if len < 1 then 0 else lookaheadChannel intf len m
  | _ => 0

/-! ## The decoders look no further -/

/-- A decoder looks at octets of the element and of the lookahead only, and at
all of the latter that are behind the element. -/
def LooksAt {γ : Type} (len ahead : Nat) (m : Nat → UInt8) (x : Reader γ) : Prop :=
  max len (x.reach m) = max len ahead

section Decoders
variable {γ : Type} {len ahead : Nat} {m : Nat → UInt8}

theorem looksAt_pure (a : γ) : LooksAt len 0 m (pure a) := rfl

/-- An octet of the element. -/
theorem LooksAt.within {i : Nat} {next : UInt8 → Reader γ} (inside : i < len)
    (looks : LooksAt len ahead m (next (m i))) : LooksAt len ahead m (cell i >>= next) := by
  simp only [LooksAt, Peek.reach_bind, Peek.reach_cell, Peek.value_cell] at looks ⊢
  omega

/-- An octet that may be behind it. -/
theorem LooksAt.beyond {i : Nat} {next : UInt8 → Reader γ} (looks : LooksAt len ahead m (next (m i))) :
    LooksAt len (max (i + 1) ahead) m (cell i >>= next) := by
  simp only [LooksAt, Peek.reach_bind, Peek.reach_cell, Peek.value_cell] at looks ⊢
  omega

/-- The last octet that may be behind it. -/
theorem LooksAt.last {i : Nat} {next : UInt8 → Reader γ} (looks : LooksAt len 0 m (next (m i))) :
    LooksAt len (i + 1) m (cell i >>= next) :=
  looks.beyond

theorem LooksAt.ite {p : Prop} [Decidable p] {a b : Nat} {x y : Reader γ}
    (yes : p → LooksAt len a m x) (no : ¬p → LooksAt len b m y) :
    LooksAt len (if p then a else b) m (if p then x else y) := by
  by_cases holds : p
  · simpa only [if_pos holds] using yes holds
  · simpa only [if_neg holds] using no holds

theorem LooksAt.ite_same {p : Prop} [Decidable p] {x y : Reader γ} (yes : p → LooksAt len ahead m x)
    (no : ¬p → LooksAt len ahead m y) : LooksAt len ahead m (if p then x else y) := by
  split
  · exact yes ‹p›
  · exact no ‹¬p›

theorem LooksAt.readAs {δ : Type} {x : Reader (Verdict δ)} (kind : δ → γ) (looks : LooksAt len ahead m x) :
    LooksAt len ahead m (readAs kind x) := by
  simpa [LooksAt, Q931.readAs] using looks

theorem looksAt_memcpy {start : Nat} {content : Octets → γ} (fits : start ≤ len) :
    LooksAt len 0 m (memcpy start len content) := by
  simp only [LooksAt, memcpy, if_pos fits, Peek.reach_bind, Peek.reach_block, Peek.reach_pure]
  split <;> omega

theorem looksAt_callIdentity : LooksAt len 0 m (readCallIdentity len) := by
  unfold readCallIdentity
  split
  · exact looksAt_pure _
  · exact looksAt_memcpy (Nat.zero_le len)

theorem looksAt_display : LooksAt len 0 m (readDisplay len) := by
  unfold readDisplay
  split
  · exact looksAt_pure _
  · exact looksAt_memcpy (Nat.zero_le len)

theorem looksAt_callState : LooksAt len 0 m (readCallState len) := by
  unfold readCallState
  split
  · exact looksAt_pure _
  · refine .within (by omega) ?_
    split <;> exact looksAt_pure _

theorem looksAt_notificationIndicator : LooksAt len 0 m (readNotificationIndicator len) := by
  unfold readNotificationIndicator
  split
  · exact looksAt_pure _
  · refine .within (by omega) ?_
    split <;> exact looksAt_pure _

theorem looksAt_restartIndicator : LooksAt len 0 m (readRestartIndicator len) := by
  unfold readRestartIndicator
  split
  · exact looksAt_pure _
  · refine .within (by omega) ?_
    split <;> exact looksAt_pure _

theorem looksAt_progressIndicator : LooksAt len 0 m (readProgressIndicator len) := by
  unfold readProgressIndicator
  split
  · exact looksAt_pure _
  · refine .within (by omega) ?_
    split
    · refine .within (by omega) ?_
      split <;> exact looksAt_pure _
    · exact looksAt_pure _

theorem looksAt_highLayerCompatibility : LooksAt len 0 m (readHighLayerCompatibility len) := by
  unfold readHighLayerCompatibility
  split
  · exact looksAt_pure _
  · refine .within (by omega) (.within (by omega) ?_)
    split
    · exact looksAt_pure _
    · split
      · exact looksAt_pure _
      · refine .within (by omega) ?_
        split <;> exact looksAt_pure _

/-- A field that is looked at lies inside the element. -/
theorem looksAt_readField {present : Bool} {i : Nat} {low high default : UInt8}
    {next : Nat → Reader (Verdict γ)} (inside : present → i < len)
    (looks : ∀ o, LooksAt len 0 m (next o)) :
    LooksAt len 0 m (readField present i low high default next) := by
  unfold readField
  split
  · next there =>
    refine .within (inside there) ?_
    split
    · exact looks _
    · exact looksAt_pure _
  · exact looks _

theorem looksAt_datetime (libc : Libc) : LooksAt len 0 m (readDatetime libc len) := by
  unfold readDatetime
  split
  · exact looksAt_pure _
  · next long =>
    refine looksAt_readField (fun _ => by omega) fun year => ?_
    refine looksAt_readField (fun there => by simp at there; omega) fun month => ?_
    refine looksAt_readField (fun there => by simp at there; omega) fun day => ?_
    refine looksAt_readField (fun there => by simp at there; omega) fun hour => ?_
    refine looksAt_readField (fun there => by simp at there; omega) fun minute => ?_
    refine looksAt_readField (fun there => by simp at there; omega) fun second => ?_
    exact looksAt_pure _

theorem looksAt_calledPartyNumber : LooksAt len 0 m (readCalledPartyNumber len) := by
  unfold readCalledPartyNumber
  split
  · exact looksAt_pure _
  · exact .within (by omega) (looksAt_memcpy (by omega))

/-! ## Elements that are looked at from behind -/

theorem looksAt_cause : LooksAt len (if len < 2 then 0 else lookaheadCause m) m (readCause len) := by
  refine .ite (fun _ => looksAt_pure _) fun long => ?_
  refine .within (by omega) (.ite (fun _ => ?_) fun _ => ?_)
  · exact .within (by omega) (looksAt_pure _)
  · exact .within (by omega) (.ite (fun _ => .last (looksAt_pure _)) fun _ => looksAt_pure _)

/-- What is looked at behind octet 5 is a matter of its place only. -/
theorem looksAt_octet5 {ie : Compatibility} {n : Nat} {next : Continuation} {after : Nat → Nat}
    (looks : ∀ ie n, LooksAt len (after n) m (next ie n)) :
    LooksAt len (lookaheadOctet5 m n after) m (readOctet5 ie n next) := by
  refine .beyond (.ite (fun _ => ?_) fun _ => looks _ _)
  refine .ite (fun _ => looks _ _) fun _ => ?_
  refine .beyond (.ite (fun _ => looks _ _) fun _ => ?_)
  refine .ite (fun _ => ?_) fun _ => looksAt_pure _
  refine .beyond (.ite (fun _ => looks _ _) fun _ => ?_)
  refine .beyond (.ite (fun _ => looks _ _) fun _ => ?_)
  exact .beyond (.ite (fun _ => looksAt_pure _) fun _ => looks _ _)

theorem looksAt_octets3To5 {next : Continuation} {after : Nat → Nat}
    (looks : ∀ ie n, LooksAt len (after n) m (next ie n)) :
    LooksAt len (lookaheadOctets3To5 len m after) m (readOctets3To5 len next) := by
  refine .ite (fun _ => looksAt_pure _) fun long => ?_
  refine .within (by omega) (.ite (fun _ => ?_) fun _ => looksAt_pure _)
  refine .within (by omega) (.ite (fun _ => looksAt_octet5 looks) fun _ => ?_)
  refine .beyond (.ite (fun _ => looksAt_octet5 looks) fun _ => ?_)
  exact .beyond (.ite (fun _ => looksAt_octet5 looks) fun _ => looksAt_pure _)

theorem looksAt_bearerOctet7 (ie : Compatibility) (n : Nat) :
    LooksAt len 0 m (readBearerOctet7 len ie n) := by
  unfold readBearerOctet7
  split
  · exact looksAt_pure _
  · refine .within (by omega) ?_
    split
    · split <;> exact looksAt_pure _
    · exact looksAt_pure _

theorem looksAt_bearerOctet6 (ie : Compatibility) (n : Nat) :
    LooksAt len 0 m (readBearerOctet6 len ie n) := by
  unfold readBearerOctet6
  split
  · exact looksAt_pure _
  · refine .within (by omega) ?_
    split
    · split
      · exact looksAt_pure _
      · exact looksAt_bearerOctet7 _ _
    · exact looksAt_bearerOctet7 _ _

theorem looksAt_lowLayerOctet7 (ie : Compatibility) (n : Nat) :
    LooksAt len (lookaheadOctet7 len m n) m (readLowLayerOctet7 len ie n) := by
  refine .ite (fun _ => looksAt_pure _) fun inside => ?_
  refine .within (by omega) (.ite (fun _ => ?_) fun _ => looksAt_pure _)
  refine .ite (fun _ => looksAt_pure _) fun _ => .last ?_
  split <;> exact looksAt_pure _

theorem looksAt_lowLayerOctet6 (ie : Compatibility) (n : Nat) :
    LooksAt len (lookaheadOctet6 len m n) m (readLowLayerOctet6 len ie n) := by
  refine .ite (fun _ => looksAt_pure _) fun inside => ?_
  refine .within (by omega) (.ite (fun _ => ?_) fun _ => looksAt_lowLayerOctet7 _ _)
  refine .ite (fun _ => looksAt_lowLayerOctet7 _ _) fun _ => ?_
  refine .ite (fun _ => looksAt_pure _) fun inside => ?_
  exact .within (by omega) (.ite (fun _ => looksAt_pure _) fun _ => looksAt_lowLayerOctet7 _ _)

/-! ## Channel identification -/

/-- The octets 3d: the first one is looked at, the others inside the element. -/
theorem looksAt_channels (turns n : Nat) (chanset : List Nat) :
    LooksAt len (n + 1) m (readChannels len (turns + 1) n chanset) := by
  induction turns generalizing n chanset with
  | zero =>
    refine .last ?_
    cases chansetAdd chanset (bits (m n) 0 7) with
    | none => exact looksAt_pure _
    | some chanset =>
      dsimp only
      split <;> exact looksAt_pure _
  | succ turns further =>
    refine .last ?_
    cases chansetAdd chanset (bits (m n) 0 7) with
    | none => exact looksAt_pure _
    | some chanset =>
      dsimp only
      split
      · next more =>
        have inside : max len (n + 1 + 1) = max len 0 := by omega
        exact (further (n + 1) chanset).trans inside
      · exact looksAt_pure _

theorem looksAt_primaryChannels {intf : Intf} {selection : Nat} {ie : ChannelIdentification}
    (long : 2 ≤ len) :
    LooksAt len (if selection = 1 then 3 else 0) m (readPrimaryChannels intf len selection ie) := by
  refine .ite (fun _ => ?_) fun _ => ?_
  · obtain ⟨turns, rfl⟩ : ∃ turns, len = turns + 1 := ⟨len - 1, by omega⟩
    have looks : LooksAt (turns + 1) 3 m (readChannels (turns + 1) (turns + 1) 2 []) :=
      looksAt_channels turns 2 []
    simp only [LooksAt, Peek.reach_bind] at looks ⊢
    cases (readChannels (turns + 1) (turns + 1) 2 []).value m <;> simpa using looks
  · split
    · split <;> exact looksAt_pure _
    · exact looksAt_pure _

theorem looksAt_channelIdentification {intf : Intf} :
    LooksAt len (if len < 1 then 0 else lookaheadChannel intf len m) m (readChannelIdentification intf len) := by
  refine .ite (fun _ => looksAt_pure _) fun long => .within (by omega) ?_
  refine .ite (fun _ => looksAt_pure _) fun _ => .ite (fun _ => looksAt_pure _) fun _ => ?_
  refine .ite (fun _ => ?_) fun _ => ?_
  · refine .ite (fun _ => looksAt_pure _) fun long => .ite (fun _ => looksAt_pure _) fun _ => ?_
    refine .within (by omega) (.ite (fun _ => looksAt_pure _) fun _ => ?_)
    exact looksAt_primaryChannels (by omega)
  · refine .ite_same (fun _ => looksAt_pure _) fun _ => .ite_same (fun _ => looksAt_pure _) fun _ => ?_
    refine .ite_same (fun _ => looksAt_pure _) fun _ => .ite_same (fun _ => ?_) fun _ => looksAt_pure _
    exact .ite_same (fun _ => looksAt_pure _) fun _ => looksAt_pure _

/-- A number that should have an octet 3a and is too short for it. -/
theorem number_returns_or_aborts (m : Nat → UInt8) (long : 1 ≤ len) :
    LooksAt len 0 m (readNumberWithIndicators len) ∨
      len = 1 ∧ ext (m 0) = false ∧ (readNumberWithIndicators len).value m = .abort := by
  by_cases extended : ext (m 0) = true
  · refine .inl (.within long ?_)
    rw [if_pos extended]
    exact looksAt_memcpy long
  by_cases fits : 2 ≤ len
  · refine .inl (.within long ?_)
    rw [if_neg extended]
    exact .within fits (looksAt_memcpy fits)
  · refine .inr ⟨by omega, by simpa using extended, ?_⟩
    simp [readNumberWithIndicators, extended, memcpy, fits]

/-- Every decoder looks no further than it is said to, or it is one of the two
numbers and does not return. -/
theorem decoder_looks_ahead_or_aborts (libc : Libc) (intf : Intf) (id : IeId) (len : Nat) (m : Nat → UInt8) :
    LooksAt len (lookahead intf id len m) m (readFromBuf libc intf id len) ∨
      (id = .callingPartyNumber ∨ id = .connectedNumber) ∧ len = 1 ∧ ext (m 0) = false ∧
        (readFromBuf libc intf id len).value m = .abort := by
  cases id
  case callIdentity => exact .inl (looksAt_callIdentity.readAs _)
  case display => exact .inl (looksAt_display.readAs _)
  case callState => exact .inl (looksAt_callState.readAs _)
  case notificationIndicator => exact .inl (looksAt_notificationIndicator.readAs _)
  case restartIndicator => exact .inl (looksAt_restartIndicator.readAs _)
  case progressIndicator => exact .inl (looksAt_progressIndicator.readAs _)
  case datetime => exact .inl ((looksAt_datetime libc).readAs _)
  case calledPartyNumber => exact .inl (looksAt_calledPartyNumber.readAs _)
  case highLayerCompatibility => exact .inl (looksAt_highLayerCompatibility.readAs _)
  case cause => exact .inl (looksAt_cause.readAs _)
  case bearerCapability => exact .inl ((looksAt_octets3To5 looksAt_bearerOctet6).readAs _)
  case lowLayerCompatibility => exact .inl ((looksAt_octets3To5 looksAt_lowLayerOctet6).readAs _)
  case channelIdentification => exact .inl (looksAt_channelIdentification.readAs _)
  case callingPartyNumber =>
    by_cases empty : len = 0
    · refine .inl (LooksAt.readAs _ ?_)
      rw [readCallingPartyNumber, if_pos empty]
      exact looksAt_pure _
    · have same : readCallingPartyNumber len = readNumberWithIndicators len := if_neg empty
      rcases number_returns_or_aborts m (Nat.one_le_iff_ne_zero.mpr empty) with looks | ⟨one, short, aborts⟩
      · exact .inl (LooksAt.readAs _ (same ▸ looks))
      · refine .inr ⟨.inl rfl, one, short, ?_⟩
        simp [readFromBuf, Q931.readAs, same, aborts, Verdict.map]
  case connectedNumber =>
    by_cases empty : len < 1
    · refine .inl (LooksAt.readAs _ ?_)
      rw [readConnectedNumber, if_pos empty]
      exact looksAt_pure _
    · have same : readConnectedNumber len = readNumberWithIndicators len := if_neg empty
      rcases number_returns_or_aborts m (Nat.not_lt.mp empty) with looks | ⟨one, short, aborts⟩
      · exact .inl (LooksAt.readAs _ (same ▸ looks))
      · refine .inr ⟨.inr rfl, one, short, ?_⟩
        simp [readFromBuf, Q931.readAs, same, aborts, Verdict.map]
  all_goals exact .inl (looksAt_pure _)

theorem decoders_look_ahead {libc : Libc} {intf : Intf} {id : IeId}
    (returns : (readFromBuf libc intf id len).value m ≠ .abort) :
    LooksAt len (lookahead intf id len m) m (readFromBuf libc intf id len) := by
  rcases decoder_looks_ahead_or_aborts libc intf id len m with looks | ⟨-, -, -, aborts⟩
  · exact looks
  · exact absurd aborts returns

end Decoders

end Vstuff.Q931
