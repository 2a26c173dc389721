import Vstuff.Q931.RoundTrip

/-! Whether the meaning of an element depends on what follows it in the message.
A decoder that looks behind its element takes what it finds there for octets of
the element, so the next element can change its verdict or its fields. -/
namespace Vstuff.Q931
open Lapd (Octets)
open Peek (cell)
set_option linter.all false

/-- What a decoder makes of an element is the same whatever follows it. -/
def Local {γ : Type} (octets : Octets) (x : Reader γ) : Prop :=
  ∀ m m', Holds m 0 octets → Holds m' 0 octets → x.value m = x.value m'

/-- The element, and then another octets. -/
def followed (octets tail : Octets) : Nat → UInt8 := padded (octets ++ tail)

/-- Two ways to go on that make a difference. -/
def Depends {γ : Type} (octets : Octets) (x : Reader γ) : Prop :=
  ∃ tail tail', x.value (followed octets tail) ≠ x.value (followed octets tail')

section
variable {γ : Type} {octets : Octets} {x : Reader γ}

theorem followed_inside {tail : Octets} {i : Nat} (inside : i < octets.length) :
    followed octets tail i = padded octets i := by
  simp [followed, padded, List.getElem?_append_left inside]

theorem followed_behind {tail : Octets} {i k : Nat} (place : i = octets.length + k) :
    followed octets tail i = tail.getD k 0 := by
  subst place
  simp only [followed, padded, List.getD_eq_getElem?_getD]
  rw [List.getElem?_append_right (Nat.le_add_right _ _), Nat.add_sub_cancel_left]

theorem followed_holds (octets tail : Octets) : Holds (followed octets tail) 0 octets := by
  intro i below
  simp [followed, padded, List.getElem?_append_left below, below]

theorem Depends.not_local (depends : Depends octets x) : ¬Local octets x := by
  obtain ⟨tail, tail', differ⟩ := depends
  intro same
  exact differ (same _ _ (followed_holds octets tail) (followed_holds octets tail'))

/-- An octet of the element decides what is done next. -/
theorem Depends.within {i : Nat} {next : UInt8 → Reader γ} (inside : i < octets.length)
    (depends : Depends octets (next (padded octets i))) : Depends octets (cell i >>= next) := by
  obtain ⟨tail, tail', differ⟩ := depends
  refine ⟨tail, tail', ?_⟩
  rwa [Peek.value_cell_bind, Peek.value_cell_bind, followed_inside inside, followed_inside inside]

/-- The octet behind the element does. -/
theorem depends_behind {i : Nat} (place : i = octets.length) {next : UInt8 → Reader γ} (o o' : UInt8)
    (tail tail' : Octets) (differ : (next o).value (followed octets (o :: tail)) ≠
      (next o').value (followed octets (o' :: tail'))) : Depends octets (cell i >>= next) := by
  refine ⟨o :: tail, o' :: tail', ?_⟩
  rw [Peek.value_cell_bind, Peek.value_cell_bind, followed_behind (k := 0) place,
    followed_behind (k := 0) place]
  exact differ

theorem Depends.readAs {δ : Type} {x : Reader (Verdict δ)} {kind : δ → γ} (injective : kind.Injective)
    (depends : Depends octets x) : Depends octets (readAs kind x) := by
  obtain ⟨tail, tail', differ⟩ := depends
  refine ⟨tail, tail', fun same => differ ?_⟩
  simp only [Q931.readAs, Peek.value_bind, Peek.value_pure] at same
  cases first : x.value (followed octets tail) <;> cases second : x.value (followed octets tail') <;>
    simp_all [Verdict.map, injective.eq_iff]

/-- A decoder that looks at the element only is local. -/
theorem local_of_lookahead {len ahead : Nat} (length : octets.length = len)
    (looks : LooksAt len ahead (padded octets) x) (inside : ahead ≤ len) : Local octets x := by
  have reach : x.reach (padded octets) ≤ len := by
    have := looks
    simp only [LooksAt] at this
    omega
  have same : ∀ m, Holds m 0 octets → x.value m = x.value (padded octets) := by
    intro m holds
    refine Peek.value_eq_of_reach_le (n := len) (fun i below => ?_) reach
    have here := holds i (by omega)
    rw [Nat.zero_add] at here
    simp [here, padded, length, below]
  intro m m' first second
  rw [same m first, same m' second]

end

/-! ## Decoders that look behind -/

section Behind
variable {octets : Octets} {next : Continuation} {after : Nat → Nat}

/-- The extension bit of an octet that ends a group, and of one that does not. -/
theorem ext_octets : ext 0x80 = true ∧ ext 0x00 = false := by decide

/-- Octet 5 and its extensions. Behind the element, octet 5 may be there or not,
and a group of octets may be ended or not. -/
theorem depends_octet5 (accepts : ∀ ie n, octets.length ≤ n → next ie n = pure (.accept ie))
    (behind : ∀ ie n, octets.length < after n → Depends octets (next ie n)) {ie : Compatibility} {n : Nat}
    (none : ie.userInformationLayer1Protocol = none) (place : n ≤ octets.length)
    (looks : octets.length < lookaheadOctet5 (padded octets) n after) :
    Depends octets (readOctet5 ie n next) := by
  obtain ⟨set, clear⟩ := ext_octets
  have ident : octIdent 0x00 ≠ 1 ∧ octIdent 0xa2 = 1 ∧ ext 0xa2 = true := by decide
  unfold lookaheadOctet5 at looks
  rcases Nat.eq_or_lt_of_le place with last | inside
  · refine depends_behind last 0x00 0xa2 [] [] ?_
    rw [if_neg ident.1, if_pos ident.2.1, if_pos ident.2.2, accepts _ _ (by omega), accepts _ _ (by omega)]
    intro same
    have fields := congrArg Compatibility.userInformationLayer1Protocol (Verdict.accept.inj same)
    rw [none] at fields
    cases fields
  refine .within inside ?_
  by_cases layer1 : octIdent (padded octets n) = 1
  · rw [if_pos layer1] at looks ⊢
    by_cases end5 : ext (padded octets n) = true
    · rw [if_pos end5] at looks ⊢
      exact behind _ _ (by omega)
    rw [if_neg end5] at looks ⊢
    rcases Nat.eq_or_lt_of_le (show n + 1 ≤ octets.length from inside) with last | inside
    · refine depends_behind last 0x80 0x00 [] [0x00, 0x00, 0x80] ?_
      rw [if_pos set, if_neg (by simp [clear]), accepts _ _ (by omega)]
      split
      · simp [followed_behind (show n + 2 = octets.length + 1 by omega),
          followed_behind (show n + 3 = octets.length + 2 by omega),
          followed_behind (show n + 4 = octets.length + 3 by omega), set, clear]
      · simp
    refine .within inside ?_
    by_cases end5a : ext (padded octets (n + 1)) = true
    · rw [if_pos end5a] at looks ⊢
      exact behind _ _ (by omega)
    rw [if_neg end5a] at looks ⊢
    by_cases rate : hasOctet5b (bits (padded octets n) 0 5) = true
    · rw [if_pos rate] at looks ⊢
      rcases Nat.eq_or_lt_of_le (show n + 2 ≤ octets.length from inside) with last | inside
      · refine depends_behind last 0x80 0x00 [] [0x00, 0x80] ?_
        rw [if_pos set, if_neg (by simp [clear]), accepts _ _ (by omega)]
        simp [followed_behind (show n + 3 = octets.length + 1 by omega),
          followed_behind (show n + 4 = octets.length + 2 by omega), set, clear]
      refine .within inside ?_
      by_cases end5b : ext (padded octets (n + 2)) = true
      · rw [if_pos end5b] at looks ⊢
        exact behind _ _ (by omega)
      rw [if_neg end5b] at looks ⊢
      rcases Nat.eq_or_lt_of_le (show n + 3 ≤ octets.length from inside) with last | inside
      · refine depends_behind last 0x80 0x00 [] [0x80] ?_
        rw [if_pos set, if_neg (by simp [clear]), accepts _ _ (by omega)]
        simp [followed_behind (show n + 4 = octets.length + 1 by omega), set]
      refine .within inside ?_
      by_cases end5c : ext (padded octets (n + 3)) = true
      · rw [if_pos end5c] at looks ⊢
        exact behind _ _ (by omega)
      rw [if_neg end5c] at looks ⊢
      rcases Nat.eq_or_lt_of_le (show n + 4 ≤ octets.length from inside) with last | inside
      · refine depends_behind last 0x80 0x00 [] [] ?_
        rw [if_pos set, if_neg (by simp [clear]), accepts _ _ (by omega)]
        simp
      refine .within inside ?_
      by_cases end5d : ext (padded octets (n + 4)) = true
      · rw [if_pos end5d] at looks
        omega
      · rw [if_neg end5d] at looks ⊢
        exact behind _ _ (by omega)
    · rw [if_neg rate] at looks
      omega
  · rw [if_neg layer1] at looks ⊢
    exact behind _ _ (by omega)

/-- The octets 3 to 5 of a bearer capability or a low layer compatibility. -/
theorem depends_octets3To5 (accepts : ∀ ie n, octets.length ≤ n → next ie n = pure (.accept ie))
    (behind : ∀ ie n, octets.length < after n → Depends octets (next ie n))
    (looks : octets.length < lookaheadOctets3To5 octets.length (padded octets) after) :
    Depends octets (readOctets3To5 octets.length next) := by
  obtain ⟨set, clear⟩ := ext_octets
  have ident : octIdent 0x00 ≠ 1 := by decide
  unfold lookaheadOctets3To5 at looks
  unfold readOctets3To5
  by_cases short : octets.length < 2
  · rw [if_pos short] at looks
    omega
  rw [if_neg short] at looks ⊢
  refine .within (by omega) ?_
  by_cases end3 : ext (padded octets 0) = true
  · rw [if_pos end3] at looks ⊢
    refine .within (by omega) ?_
    by_cases end4 : ext (padded octets 1) = true
    · rw [if_pos end4] at looks ⊢
      exact depends_octet5 accepts behind rfl (by omega) looks
    rw [if_neg end4] at looks ⊢
    rcases Nat.eq_or_lt_of_le (show 2 ≤ octets.length by omega) with last | inside
    · refine depends_behind last 0x80 0x00 [0x00] [0x00] ?_
      rw [if_pos set, if_neg (by simp [clear])]
      simp [readOctet5, followed_behind (show 3 = octets.length + 1 by omega), clear,
        ident, accepts _ _ (show octets.length ≤ 3 by omega)]
    refine .within inside ?_
    by_cases end4a : ext (padded octets 2) = true
    · rw [if_pos end4a] at looks ⊢
      exact depends_octet5 accepts behind rfl (by omega) (by omega)
    rw [if_neg end4a] at looks ⊢
    rcases Nat.eq_or_lt_of_le (show 3 ≤ octets.length from inside) with last | inside
    · refine depends_behind last 0x80 0x00 [0x00] [] ?_
      rw [if_pos set, if_neg (by simp [clear])]
      simp [readOctet5, followed_behind (show 4 = octets.length + 1 by omega),
        ident, accepts _ _ (show octets.length ≤ 4 by omega)]
    refine .within inside ?_
    by_cases end4b : ext (padded octets 3) = true
    · rw [if_pos end4b] at looks ⊢
      exact depends_octet5 accepts behind rfl (by omega) (by omega)
    · rw [if_neg end4b] at looks
      omega
  · rw [if_neg end3] at looks
    omega

/-- Octet 7a of a low layer compatibility. -/
theorem depends_octet7 {ie : Compatibility} {n : Nat}
    (looks : octets.length < lookaheadOctet7 octets.length (padded octets) n) :
    Depends octets (readLowLayerOctet7 octets.length ie n) := by
  obtain ⟨set, clear⟩ := ext_octets
  unfold lookaheadOctet7 at looks
  unfold readLowLayerOctet7
  split_ifs at looks with past layer3 end7
  · omega
  · omega
  · rw [if_neg past]
    refine .within (by omega) ?_
    rw [if_pos layer3, if_neg end7]
    refine depends_behind (by omega) 0x80 0x00 [] [] ?_
    rw [if_pos set, if_neg (by simp [clear])]
    simp
  · omega

theorem depends_octet6 (ie : Compatibility) (n : Nat)
    (looks : octets.length < lookaheadOctet6 octets.length (padded octets) n) :
    Depends octets (readLowLayerOctet6 octets.length ie n) := by
  unfold lookaheadOctet6 at looks
  unfold readLowLayerOctet6
  split_ifs at looks with past layer2 end6 past6a end6a
  · omega
  · rw [if_neg past]
    refine .within (by omega) ?_
    rw [if_pos layer2, if_pos end6]
    exact depends_octet7 looks
  · omega
  · omega
  · rw [if_neg past]
    refine .within (by omega) ?_
    rw [if_pos layer2, if_neg end6, if_neg past6a]
    refine .within (by omega) ?_
    rw [if_neg end6a]
    exact depends_octet7 looks
  · rw [if_neg past]
    refine .within (by omega) ?_
    rw [if_neg layer2]
    exact depends_octet7 looks

theorem depends_cause (long : 2 ≤ octets.length) (looks : octets.length < lookaheadCause (padded octets)) :
    Depends octets (readCause octets.length) := by
  unfold lookaheadCause at looks
  unfold readCause
  rw [if_neg (by omega)]
  refine .within (by omega) ?_
  split_ifs at looks with end3 zero
  · omega
  · rw [if_neg end3]
    refine .within (by omega) ?_
    rw [if_pos zero]
    refine depends_behind (by omega) 0x80 0x81 [] [] fun same => ?_
    have fields : bits 0x80 0 7 = bits 0x81 0 7 := congrArg Cause.value (Verdict.accept.inj same)
    exact absurd fields (by decide)
  · omega

theorem depends_channel {intf : Intf} (long : 1 ≤ octets.length)
    (looks : octets.length < lookaheadChannel intf octets.length (padded octets)) :
    Depends octets (readChannelIdentification intf octets.length) := by
  unfold lookaheadChannel at looks
  unfold readChannelIdentification
  rw [if_neg (by omega)]
  refine .within (by omega) ?_
  dsimp only
  split_ifs at looks with explicit dChannel primary short basic map number
  all_goals first | omega | skip
  rw [if_neg explicit, if_neg dChannel, if_pos primary, if_neg short, if_neg basic]
  refine .within (by omega) ?_
  rw [if_neg map, readPrimaryChannels, if_pos number]
  have last : 2 = octets.length := by omega
  have one : readChannels octets.length octets.length 2 [] = (do
      let oct3d ← cell 2
      if !ext oct3d ∧ 3 < octets.length then readChannels octets.length 1 3 [bits oct3d 0 7]
      else pure (some [bits oct3d 0 7])) := by
    rw [← last]
    rfl
  refine ⟨[0x80], [0x81], ?_⟩
  rw [one]
  simp [followed_behind (show 2 = octets.length + 0 by omega), show ¬3 < octets.length by omega, bits]

/-- An element means the same whatever follows it exactly if its decoder does not
look ahead of it. -/
theorem decoder_is_local_iff_it_looks_at_the_element (libc : Libc) (intf : Intf) (id : IeId)
    (octets : Octets) :
    Local octets (readFromBuf libc intf id octets.length) ↔
      lookahead intf id octets.length (padded octets) ≤ octets.length := by
  constructor
  · intro same
    by_contra looks
    rw [Nat.not_le] at looks
    refine Depends.not_local ?_ same
    cases id
    case bearerCapability =>
      refine Depends.readAs (fun _ _ => Content.bearerCapability.inj) (depends_octets3To5 ?_ ?_ looks)
      · intro ie n past
        exact if_pos past
      · intro ie n looks
        exact absurd looks (by simp)
    case lowLayerCompatibility =>
      refine Depends.readAs (fun _ _ => Content.lowLayerCompatibility.inj)
        (depends_octets3To5 ?_ depends_octet6 looks)
      intro ie n past
      exact if_pos past
    case cause =>
      refine Depends.readAs (fun _ _ => Content.cause.inj) ?_
      simp only [lookahead] at looks
      split_ifs at looks with short
      · omega
      · exact depends_cause (by omega) looks
    case channelIdentification =>
      refine Depends.readAs (fun _ _ => Content.channelIdentification.inj) ?_
      simp only [lookahead] at looks
      split_ifs at looks with short
      · omega
      · exact depends_channel (by omega) looks
    all_goals exact absurd looks (Nat.not_lt_zero _)
  · intro inside
    rcases decoder_looks_ahead_or_aborts libc intf id octets.length (padded octets) with
      looks | ⟨number, one, short, -⟩
    · exact local_of_lookahead rfl looks inside
    · have aborts : ∀ m, Holds m 0 octets → (readFromBuf libc intf id octets.length).value m = .abort := by
        intro m holds
        have first : m 0 = padded octets 0 := by
          have here := holds 0 (by omega)
          simp only [Nat.add_zero] at here
          rw [here]
          simp [padded, show 0 < octets.length by omega]
        rw [one]
        rcases number with rfl | rfl <;>
          simp [readFromBuf, readAs, readCallingPartyNumber, readConnectedNumber,
            readNumberWithIndicators, first, short, memcpy, Verdict.map]
      intro m m' held held'
      rw [aborts m held, aborts m' held']

/-- A bearer capability of two octets has an octet 5 when a display follows. -/
theorem display_changes_the_bearer_capability :
    ¬∀ (libc : Libc) (intf : Intf), ∀ cls ∈ ieClasses, cls.coded = true → ∀ octets : Octets,
      octets.length ≤ min cls.maxLen 255 → Local octets (readFromBuf libc intf cls.id octets.length) := by
  intro always
  have same := always ⟨fun _ => 0, fun _ => {}⟩ ⟨.bra, .te, 2⟩ ⟨.vl, 12, 1, 0, .bearerCapability, true⟩
    (by decide) rfl [0x88, 0x90] (by decide) (followed [0x88, 0x90] [])
    (followed [0x88, 0x90] [0x28, 0x05, 0x48, 0x65, 0x6c, 0x6c, 0x6f]) (followed_holds _ _)
    (followed_holds _ _)
  revert same
  decide +kernel

end Behind

end Vstuff.Q931
