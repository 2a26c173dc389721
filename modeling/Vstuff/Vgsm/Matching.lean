import Vstuff.Vgsm.Buffer
import Vstuff.Vgsm.Engine
import Vstuff.Lib.Chunks

/-! The decisions of the matching functions. What one tells of a string it tells of a
longer one, and whatever is behind the NUL of the buffer; but two of those on a response
look there. -/
namespace Vstuff.Vgsm
open Comm Chunks Transition
open Lapd (Octets)
set_option linter.all false

variable {c d : Comm} {k n nread : Nat}

/-- A response is looked for behind the NUL: the search for its end skips two octets where
there is one, or four are taken for a prompt of two or three. -/
def Comm.LooksBehind (c : Comm) : Prop :=
  c.state = .readingResponse ∧ (c.text.length = 1 ∧ c.text ≠ [13] ∨
    (responseBegin c.text).any (fun skipped => (ascii "> ").isPrefixOf (c.text.drop skipped)) ∧ c.text.length < 4)

/-- The same engine with other octets in its buffer, elsewhere in the loop. -/
@[simps]
def Comm.holding (c : Comm) (buf : Octets) (place : Option Nat) : Comm := { c with buf := buf, scanning := place }

/-- All but the buffer and the place in the loop. -/
def Comm.bare (c : Comm) : Comm := { c with buf := [], scanning := none }

/-! ## One decision -/

theorem bare_beginUrc (buf : Octets) (place : Option Nat) (urc : Urc) : ((c.holding buf place).beginUrc urc).bare = (c.beginUrc urc).bare := by
  unfold beginUrc
  cases urc.urcClass.detectEnd with
  | none => by_cases awaits : c.state = .awaitingEcho <;> simp [awaits] <;> rfl
  | some detectEnd => by_cases awaits : c.state = .awaitingEcho <;> simp [awaits] <;> rfl

theorem beginUrc_buf (urc : Urc) : (c.beginUrc urc).buf = c.buf := by
  unfold beginUrc
  cases urc.urcClass.detectEnd with
  | none => by_cases awaits : c.state = .awaitingEcho <;> simp [awaits]
  | some detectEnd => by_cases awaits : c.state = .awaitingEcho <;> simp [awaits]

theorem bare_endUrc (buf : Octets) (place : Option Nat) (urc : Urc) : ((c.holding buf place).endUrc urc).bare = (c.endUrc urc).bare := by
  unfold endUrc
  by_cases awaits : c.state = .awaitingEchoReadingUrc <;> simp [awaits] <;> rfl

theorem endUrc_buf (urc : Urc) : (c.endUrc urc).buf = c.buf := by
  unfold endUrc
  by_cases awaits : c.state = .awaitingEchoReadingUrc <;> simp [awaits]

/-- A line ended in place is the same line in every buffer that holds it. -/
theorem line_eq {buf more : Octets} (ends : (0 : UInt8) ∈ c.buf) (ends' : (0 : UInt8) ∈ buf)
    (holds : cString buf = c.text ++ more) {stop : Nat} (begins : k ≤ stop) (within : stop < c.text.length) :
    cString ((buf.set stop 0).drop k) = cString ((c.buf.set stop 0).drop k) := by
  have inside : stop < (cString buf).length := by
    rw [holds, List.length_append]
    omega
  rw [cString_drop_set ends' begins inside, cString_drop_set ends begins within, holds]
  change _ = List.take _ (List.drop k c.text)
  rw [List.drop_append_of_le_length (by omega), List.take_append_of_le_length (by rw [List.length_drop]; omega)]

/-- The same is told of a buffer that holds more. -/
structure Agrees (look : Comm → Option (Comm × Nat)) (c d : Comm) (n : Nat) : Prop where
  within : n ≤ c.text.length
  same : ∀ {buf more : Octets} (place : Option Nat), (0 : UInt8) ∈ buf → cString buf = c.text ++ more →
    ∃ d', look (c.holding buf place) = some (d', n) ∧ d'.bare = d.bare ∧ d'.buf.drop n = buf.drop n

theorem matchUrc_agrees (ends : (0 : UInt8) ∈ c.buf) (took : c.matchUrc = some (d, n)) (acts : 0 < n) :
    Agrees matchUrc c d n := by
  have within := urcBegin_within (t := c.text)
  unfold matchUrc at took
  split at took
  · rename_i npull told
    cases took
    rw [told] at within
    refine ⟨within, fun {buf more} place ends' holds => ?_⟩
    have text : (c.holding buf place).text = c.text ++ more := holds
    have still := urcBegin_append more (t := c.text) (by rw [told]; simp; omega)
    exact ⟨c.holding buf place, by rw [matchUrc, text, still, told], rfl, rfl⟩
  · rename_i skipped told
    rw [told] at within
    split at took
    · cases took
      cases acts
    · rename_i offset found
      have room := findCrlf_within found
      rw [List.length_drop] at room
      simp only at took
      split at took
      · cases took
      rename_i quiet
      have stop : n = skipped + offset + 2 := by
        split at took <;> cases took <;> rfl
      refine ⟨by omega, fun {buf more} place ends' holds => ?_⟩
      have text : (c.holding buf place).text = c.text ++ more := holds
      have still : urcBegin (c.text ++ more) = .inr skipped := by
        rw [urcBegin_append more (by rw [told]; exact nofun), told]
      have there : findCrlf ((c.text ++ more).drop skipped) = some offset := by
        rw [List.drop_append_of_le_length (by omega)]
        exact findCrlf_append more found
      have line := line_eq ends ends' holds (Nat.le_add_right skipped offset) (by omega)
      have rest : (buf.set (skipped + offset) 0).drop n = buf.drop n := List.drop_set_of_lt (by omega)
      simp only [matchUrc, text, still, there, holding_buf, line, holding_currentUrc, quiet, Bool.false_eq_true, if_false,
        holding_urcClasses]
      split at took
      · cases took
        exact ⟨_, rfl, rfl, rest⟩
      · cases took
        refine ⟨_, rfl, ?_, ?_⟩
        · exact (bare_beginUrc (buf.set _ 0) place _).trans (bare_beginUrc (c.buf.set _ 0) c.scanning _).symm
        · rw [beginUrc_buf]
          exact rest

theorem matchUrcCont_agrees (ends : (0 : UInt8) ∈ c.buf) (took : c.matchUrcCont = some (d, n)) (acts : 0 < n) :
    Agrees matchUrcCont c d n := by
  unfold matchUrcCont at took
  split at took
  · cases took
    cases acts
  · rename_i stop found
    have room := findCrlf_within found
    obtain ⟨urc, current, took⟩ := Option.bind_eq_some_iff.mp took
    obtain ⟨detectEnd, detects, took⟩ := Option.bind_eq_some_iff.mp took
    simp only [Option.some.injEq, Prod.mk.injEq] at took
    obtain ⟨rfl, rfl⟩ := took
    refine ⟨room, fun {buf more} place ends' holds => ?_⟩
    have text : (c.holding buf place).text = c.text ++ more := holds
    have line : cString (buf.set stop 0) = cString (c.buf.set stop 0) :=
      line_eq ends ends' holds (Nat.zero_le stop) (by omega)
    have rest : (buf.set stop 0).drop (stop + 2) = buf.drop (stop + 2) := List.drop_set_of_lt (by omega)
    rw [matchUrcCont, text, findCrlf_append more found]
    simp only [holding_buf, line, holding_currentUrc, current, detects, Option.bind_some]
    refine ⟨_, rfl, ?_, ?_⟩
    · split
      · exact bare_endUrc (c := c.addUrcLine urc (c.buf.set stop 0) _) _ place _
      · rfl
    · split
      · rw [endUrc_buf]
        exact rest
      · exact rest

/-- Where no decision looks behind the NUL, a response has begun within the string. -/
theorem two_le_of_sees (reading : c.state = .readingResponse) (sees : ¬ LooksBehind c)
    (told : responseBegin c.text = some k) : 2 ≤ c.text.length := by
  by_contra short
  have single : c.text.length = 1 := by
    cases string : c.text with
    | nil => rw [string] at told; cases told
    | cons x rest =>
      rw [string] at short
      simp only [List.length_cons] at short ⊢
      omega
  refine sees ⟨reading, .inl ⟨single, fun cr => ?_⟩⟩
  rw [cr] at told
  cases told

theorem matchResponse_agrees (ends : (0 : UInt8) ∈ c.buf) (reading : c.state = .readingResponse)
    (sees : ¬ LooksBehind c) (took : c.matchResponse = some (d, n)) (acts : 0 < n) : Agrees matchResponse c d n := by
  obtain ⟨req, current, took⟩ := Option.bind_eq_some_iff.mp took
  cases told : responseBegin c.text with
  | none =>
    rw [told] at took
    cases took
    cases acts
  | some skipped =>
    simp only [told] at took
    obtain ⟨-, skips, begins⟩ := responseBegin_append [] told
    have two := two_le_of_sees reading sees told
    split at took
    · rename_i prompt
      have four : 4 ≤ c.text.length := by
        by_contra short
        refine sees ⟨reading, .inr ⟨?_, by omega⟩⟩
        rw [told]
        simpa using prompt
      have stop : n = 4 := by
        split at took <;> cases took <;> rfl
      subst stop
      refine ⟨four, fun {buf more} place ends' holds => ?_⟩
      have text : (c.holding buf place).text = c.text ++ more := holds
      have prompt' : ascii "> " <+: (c.text ++ more).drop skipped := by
        rw [List.drop_append_of_le_length begins]
        exact prompt.trans (List.prefix_append _ _)
      rw [matchResponse, text]
      simp only [holding_currentReq, current, Option.bind_some, (responseBegin_append more told).1, if_pos prompt']
      split at took
      · cases took
        exact ⟨_, rfl, rfl, rfl⟩
      · cases took
        exact ⟨_, rfl, rfl, rfl⟩
    · rename_i line
      have tail : cString (c.buf.drop 2) = c.text.drop 2 := (cString_drop ends two).1
      rw [tail] at took
      split at took
      · cases took
        cases acts
      · rename_i offset found
        have room := findCrlf_within found
        rw [List.length_drop] at room
        have stop : n = offset + 4 := by
          split at took <;> cases took <;> rfl
        refine ⟨by omega, fun {buf more} place ends' holds => ?_⟩
        have text : (c.holding buf place).text = c.text ++ more := holds
        have line' : ¬ ascii "> " <+: (c.text ++ more).drop skipped := by
          intro prompt
          rw [List.drop_append_of_le_length begins] at prompt
          refine line (List.prefix_of_prefix_length_le prompt (List.prefix_append _ _) ?_)
          rw [List.length_drop]
          change 2 ≤ _
          omega
        have behind : cString (buf.drop 2) = c.text.drop 2 ++ more := by
          rw [(cString_drop ends' (by rw [holds, List.length_append]; omega)).1, holds, List.drop_append_of_le_length two]
        have same := line_eq ends ends' holds (show skipped ≤ offset + 2 by omega) (by omega)
        have rest : (buf.set (offset + 2) 0).drop n = buf.drop n := List.drop_set_of_lt (by omega)
        rw [matchResponse, text]
        simp only [holding_currentReq, current, Option.bind_some, (responseBegin_append more told).1, if_neg line', holding_buf,
          behind, findCrlf_append more found, same]
        split at took
        · rename_i more
          cases took
          rw [if_pos more]
          exact ⟨_, rfl, rfl, rest⟩
        · rename_i final
          cases took
          rw [if_neg final]
          exact ⟨_, rfl, rfl, rest⟩

/-- The engine reads what comes, and does not throw it away. -/
def Comm.reads (c : Comm) : Prop := c.state ≠ .failed ∧ c.state ≠ .recovering

/-- All that was sent has come back, and the engine goes on. -/
theorem matchEcho_agrees {sent : Octets} (matched : 0 < matchEcho c.text sent 0) :
    (matchEcho c.text sent 0).toNat ≤ c.text.length ∧
      ∀ more, matchEcho (c.text ++ more) sent 0 = matchEcho c.text sent 0 := by
  have within : matchEcho c.text sent 0 ≤ 0 + c.text.length := matchEcho_within
  exact ⟨by omega, fun more => matchEcho_append more (by omega)⟩

theorem matchBuffer_agrees (ends : (0 : UInt8) ∈ c.buf) (reads : c.reads) (sees : ¬ LooksBehind c)
    (took : c.matchBuffer nread = some (d, n)) (acts : 0 < n) : Agrees (matchBuffer · nread) c d n := by
  unfold matchBuffer at took
  split at took
  · cases took; cases acts
  · cases took; cases acts
  · exact absurd ‹_› reads.1
  · exact absurd ‹_› reads.2
  · rename_i state
    have agrees := matchUrc_agrees ends took acts
    refine ⟨agrees.within, fun place ends' holds => ?_⟩
    simp only [matchBuffer, holding_state, state]
    exact agrees.same place ends' holds
  · rename_i state
    obtain ⟨req, current, took⟩ := Option.bind_eq_some_iff.mp took
    simp only at took
    split at took
    · rename_i matched
      cases took
      obtain ⟨within, same⟩ := matchEcho_agrees matched
      refine ⟨within, fun {buf more} place ends' holds => ?_⟩
      have text : (c.holding buf place).text = c.text ++ more := holds
      simp only [matchBuffer, holding_state, state, holding_currentReq, current, Option.bind_some, text, same, if_pos matched]
      exact ⟨_, rfl, rfl, rfl⟩
    split at took
    · rename_i matched differs
      have agrees := matchUrc_agrees ends took acts
      refine ⟨agrees.within, fun {buf more} place ends' holds => ?_⟩
      have text : (c.holding buf place).text = c.text ++ more := holds
      simp only [matchBuffer, holding_state, state, holding_currentReq, current, Option.bind_some, text,
        matchEcho_append more differs, if_neg matched, if_pos differs]
      exact agrees.same place ends' holds
    · cases took; cases acts
  · rename_i state
    have agrees := matchUrcCont_agrees ends took acts
    refine ⟨agrees.within, fun place ends' holds => ?_⟩
    simp only [matchBuffer, holding_state, state]
    exact agrees.same place ends' holds
  · rename_i state
    have agrees := matchUrcCont_agrees ends took acts
    refine ⟨agrees.within, fun place ends' holds => ?_⟩
    simp only [matchBuffer, holding_state, state]
    exact agrees.same place ends' holds
  · rename_i state
    obtain ⟨pdu, current, took⟩ := Option.bind_eq_some_iff.mp took
    simp only at took
    split at took
    · rename_i matched
      cases took
      obtain ⟨within, same⟩ := matchEcho_agrees matched
      refine ⟨within, fun {buf more} place ends' holds => ?_⟩
      have text : (c.holding buf place).text = c.text ++ more := holds
      simp only [matchBuffer, holding_state, state, holding_currentReq, current, Option.bind_some, text, same, if_pos matched]
      exact ⟨_, rfl, rfl, rfl⟩
    · cases took; cases acts
  · rename_i state
    simp only at took
    split at took
    · rename_i matched
      obtain ⟨req, current, took⟩ := Option.bind_eq_some_iff.mp took
      cases took
      obtain ⟨within, same⟩ := matchEcho_agrees matched
      refine ⟨within, fun {buf more} place ends' holds => ?_⟩
      have text : (c.holding buf place).text = c.text ++ more := holds
      simp only [matchBuffer, holding_state, state, holding_currentReq, current, Option.bind_some, text, same, if_pos matched]
      exact ⟨_, rfl, rfl, rfl⟩
    · cases took; cases acts
  · rename_i state
    have agrees := matchResponse_agrees ends state sees took acts
    refine ⟨agrees.within, fun place ends' holds => ?_⟩
    simp only [matchBuffer, holding_state, state]
    exact agrees.same place ends' holds

theorem matchUrc_waits (took : c.matchUrc = some (d, 0)) : d = c := by
  unfold matchUrc at took
  split at took
  · cases took; rfl
  split at took
  · cases took; rfl
  · simp only at took
    split at took
    · cases took
    split at took <;> cases took

theorem matchUrcCont_waits (took : c.matchUrcCont = some (d, 0)) : d = c := by
  unfold matchUrcCont at took
  split at took
  · cases took; rfl
  · obtain ⟨urc, -, took⟩ := Option.bind_eq_some_iff.mp took
    obtain ⟨detectEnd, -, took⟩ := Option.bind_eq_some_iff.mp took
    simp at took

theorem matchResponse_waits (took : c.matchResponse = some (d, 0)) : d = c := by
  obtain ⟨req, -, took⟩ := Option.bind_eq_some_iff.mp took
  split at took
  · cases took; rfl
  split at took
  · split at took <;> cases took
  split at took
  · cases took; rfl
  · simp only at took
    split at took <;> cases took

/-- Where nothing can be told, nothing is done. -/
theorem matchBuffer_waits (took : c.matchBuffer nread = some (d, 0)) : d = c := by
  unfold matchBuffer at took
  split at took
  · cases took; rfl
  · cases took; rfl
  · cases took; rfl
  · cases took; rfl
  · exact matchUrc_waits took
  · obtain ⟨req, -, took⟩ := Option.bind_eq_some_iff.mp took
    simp only at took
    split at took
    · simp only [Option.some.injEq, Prod.mk.injEq] at took
      omega
    split at took
    · exact matchUrc_waits took
    · cases took; rfl
  · exact matchUrcCont_waits took
  · exact matchUrcCont_waits took
  · obtain ⟨pdu, -, took⟩ := Option.bind_eq_some_iff.mp took
    simp only at took
    split at took
    · simp only [Option.some.injEq, Prod.mk.injEq] at took
      omega
    · cases took; rfl
  · simp only at took
    split at took
    · obtain ⟨req, -, took⟩ := Option.bind_eq_some_iff.mp took
      simp only [Option.some.injEq, Prod.mk.injEq] at took
      omega
    · cases took; rfl
  · exact matchResponse_waits took

theorem four_le_of_matchResponse (took : c.matchResponse = some (d, n)) (acts : 0 < n) : 4 ≤ n := by
  obtain ⟨req, -, took⟩ := Option.bind_eq_some_iff.mp took
  split at took
  · cases took; cases acts
  split at took
  · split at took <;> cases took <;> omega
  split at took
  · cases took; cases acts
  · simp only at took
    split at took <;> cases took <;> omega

/-- A decision on a response is not changed into one that looks behind the NUL. -/
theorem not_looksBehind_of_acts (ends : (0 : UInt8) ∈ c.buf) (reads : c.reads) (sees : ¬ LooksBehind c)
    (took : c.matchBuffer nread = some (d, n)) (acts : 0 < n) {buf more : Octets} (place : Option Nat)
    (holds : cString buf = c.text ++ more) : ¬ LooksBehind (c.holding buf place) := by
  rintro ⟨reading, short⟩
  have state : c.state = .readingResponse := reading
  have within := (matchBuffer_agrees ends reads sees took acts).within
  rw [matchBuffer, state] at took
  have four := four_le_of_matchResponse took acts
  have long : 4 ≤ (c.holding buf place).text.length := by
    change 4 ≤ (cString buf).length
    rw [holds, List.length_append]
    omega
  rcases short with ⟨one, -⟩ | ⟨-, three⟩
  · omega
  · omega

/-! ## The engine as a reader -/

instance (c : Comm) : Decidable (LooksBehind c) := inferInstanceAs (Decidable (_ ∧ (_ ∧ _ ∨ _ ∧ _)))

instance (c : Comm) : Decidable c.reads := inferInstanceAs (Decidable (_ ∧ _))

/-- What the engine tells of a string, whatever is behind it. -/
def Comm.tell (c : Comm) (t : Octets) : Option (Comm × Nat) :=
  if c.reads then
    let held := c.holding (t ++ [0]) none
    if LooksBehind held then none
    else (held.matchBuffer 0).bind fun (d, n) => if n = 0 then none else some (d.bare, n)
  else if t = [] then none
  else some (c, 1)

theorem matchBuffer_nread (reads : c.reads) : c.matchBuffer nread = c.matchBuffer 0 := by
  obtain ⟨failed, recovering⟩ := reads
  cases state : c.state with
  | failed => exact absurd state failed
  | recovering => exact absurd state recovering
  | _ => simp only [matchBuffer, state]

theorem tell_acts {d : Comm} {s : Octets} (reads : c.reads) (told : c.tell s = some (d, n)) :
    ¬ LooksBehind (c.holding (s ++ [0]) none) ∧ 0 < n ∧
      ∃ d', (c.holding (s ++ [0]) none).matchBuffer 0 = some (d', n) ∧ d = d'.bare := by
  rw [Comm.tell, if_pos reads] at told
  simp only at told
  split at told
  · cases told
  · rename_i sees
    obtain ⟨⟨d', n'⟩, took, told⟩ := Option.bind_eq_some_iff.mp told
    simp only at told
    split at told
    · cases told
    · cases told
      exact ⟨sees, by omega, d', took, rfl⟩

theorem ends_append (s : Octets) : (0 : UInt8) ∈ s ++ [0] := by simp

theorem cString_append_append (s more : Octets) : ∃ rest, cString (s ++ more ++ [0]) = cString (s ++ [0]) ++ rest := by
  by_cases clean : (0 : UInt8) ∈ s
  · obtain ⟨behind, same⟩ := exists_behind clean
    refine ⟨[], ?_⟩
    rw [same, List.append_assoc, List.append_assoc, List.append_assoc, List.cons_append, List.cons_append,
      cString_append (zero_not_mem_cString s), cString_append (zero_not_mem_cString s), List.append_nil]
  · refine ⟨cString (more ++ [0]), ?_⟩
    have all : ∀ x ∈ s, (x != 0) = true := by
      rintro x member
      refine bne_iff_ne.mpr ?_
      rintro rfl
      exact clean member
    rw [cString_append clean, List.append_assoc, cString, List.takeWhile_append_of_pos all]
    rfl

/-- What the engine tells, it tells when more has arrived. -/
theorem tell_stable : Stable tell where
  progress {c s d n} told := by
    by_cases reads : c.reads
    · exact (tell_acts reads told).2.1
    · rw [Comm.tell, if_neg reads] at told
      split at told <;> cases told
      exact Nat.one_pos
  inside {c s d n} told := by
    by_cases reads : c.reads
    · obtain ⟨sees, acts, d', took, -⟩ := tell_acts reads told
      have agrees : Agrees _ (c.holding (s ++ [0]) none) d' n := matchBuffer_agrees (ends_append s) reads sees took acts
      have within : n ≤ (cString (s ++ [0])).length := agrees.within
      have shorter : (cString (s ++ [0])).length ≤ s.length := by
        by_contra longer
        have whole : cString (s ++ [0]) = s ++ [0] :=
          (List.takeWhile_prefix _).eq_of_length_le (by rw [List.length_append]; exact Nat.lt_of_not_le longer)
        exact zero_not_mem_cString (s ++ [0]) (by rw [whole]; exact ends_append s)
      exact within.trans shorter
    · rw [Comm.tell, if_neg reads] at told
      split at told
      · cases told
      · rename_i nonempty
        cases told
        exact List.length_pos_iff.mpr nonempty
  stable {c s d n} told more := by
    by_cases reads : c.reads
    · obtain ⟨sees, acts, d', took, rfl⟩ := tell_acts reads told
      obtain ⟨rest, holds⟩ := cString_append_append s more
      have agrees : Agrees _ (c.holding (s ++ [0]) none) d' n := matchBuffer_agrees (ends_append s) reads sees took acts
      obtain ⟨longer, took', same, -⟩ := agrees.same none (ends_append (s ++ more)) holds
      have sees' : ¬ LooksBehind ((c.holding (s ++ [0]) none).holding (s ++ more ++ [0]) none) :=
        not_looksBehind_of_acts (c := c.holding (s ++ [0]) none) (ends_append s) reads sees took acts none holds
      change ¬ LooksBehind (c.holding (s ++ more ++ [0]) none) at sees'
      change (c.holding (s ++ more ++ [0]) none).matchBuffer 0 = _ at took'
      rw [Comm.tell, if_pos reads]
      simp only
      rw [if_neg sees', took', Option.bind_some]
      simp only
      rw [if_neg (by omega), same]
    · rw [Comm.tell, if_neg reads] at told ⊢
      split at told
      · cases told
      · rename_i nonempty
        cases told
        rw [if_neg (by simp [nonempty])]

theorem looksBehind_holding {buf : Octets} (place : Option Nat) (same : cString buf = c.text) :
    LooksBehind (c.holding buf place) ↔ LooksBehind c := by
  have text : (c.holding buf place).text = c.text := same
  rw [LooksBehind, LooksBehind, text, holding_state]

/-- An engine that does not look behind the NUL does what it tells of its string. -/
theorem matchBuffer_tells (ends : (0 : UInt8) ∈ c.buf) (reads : c.reads) (sees : ¬ LooksBehind c)
    (took : c.matchBuffer nread = some (d, n)) :
    c.bare.tell c.text = if n = 0 then none else some (d.bare, n) := by
  have string : cString (c.text ++ [0]) = c.text := cString_append (zero_not_mem_cString c.buf) []
  have sees' : ¬ LooksBehind (c.holding (c.text ++ [0]) none) := (looksBehind_holding none string).not.mpr sees
  have reads' : c.bare.reads := reads
  rw [matchBuffer_nread reads] at took
  have told : c.bare.tell c.text = ((c.holding (c.text ++ [0]) none).matchBuffer 0).bind fun (d, n) =>
      if n = 0 then none else some (d.bare, n) := by
    rw [Comm.tell, if_pos reads']
    exact if_neg sees'
  rw [told]
  split
  · rename_i waits
    subst waits
    cases held : (c.holding (c.text ++ [0]) none).matchBuffer 0 with
    | none => rfl
    | some result =>
      obtain ⟨d', n'⟩ := result
      rw [Option.bind_some]
      simp only
      split
      · rfl
      · rename_i acts
        -- the other string holds as much, so the engine itself would act
        have agrees : Agrees _ (c.holding (c.text ++ [0]) none) d' n' :=
          matchBuffer_agrees (ends_append c.text) reads sees' held (Nat.pos_of_ne_zero acts)
        obtain ⟨d'', took', -⟩ := agrees.same c.scanning ends (by rw [List.append_nil]; exact string.symm)
        change c.matchBuffer 0 = some (d'', n') at took'
        rw [took] at took'
        cases took'
        exact absurd rfl acts
  · rename_i acts
    have agrees := matchBuffer_agrees ends reads sees took (Nat.pos_of_ne_zero acts)
    obtain ⟨d', took', same, -⟩ := agrees.same none (ends_append c.text) (by rw [List.append_nil]; exact string)
    rw [took', Option.bind_some]
    simp only
    rw [if_neg acts, same]

end Vstuff.Vgsm
