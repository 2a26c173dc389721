import Vstuff.Lapd.TeiMgmtNt
import Mathlib.Data.List.FinRange

/-! When the network side assigns a dynamic TEI a second time. A TEI that has been
assigned is free again only after an audit none of whose counters it moved, so
what matters is that the answers to an audit reach the counters of the TEIs they
carry. -/
namespace Vstuff.Lapd.Ntme
open Transition
set_option linter.all false

/-! ## What one event changes -/

def CursorOk (tme : Entity) : Prop := minDynTei ≤ tme.curDynTei ∧ tme.curDynTei ≤ maxDynTei

/-- The entry of the table for a dynamic TEI. -/
def taken (tme : Entity) (tei : Tei) : Bool := tme.teis (tei.val - minDynTei)

/-- Nothing is assigned or freed, and a check is an old one or just starts. -/
structure Calm (s t : Entity) : Prop where
  teis : t.teis = s.teis
  cursor : CursorOk s → CursorOk t
  assigns : ∀ m ∈ t.out, m.type = .assigned → m ∈ s.out
  checks : ∀ tc ∈ t.teiChecks, tc ∈ s.teiChecks ∨ ∃ tei, tc = { tei := tei }

section Calm
variable {s t u : Entity}

theorem Calm.refl (s : Entity) : Calm s s where
  teis := rfl
  cursor := id
  assigns := fun _ member _ => member
  checks := fun _ member => .inl member

theorem Calm.trans (first : Calm s t) (second : Calm t u) : Calm s u where
  teis := second.teis.trans first.teis
  cursor := second.cursor ∘ first.cursor
  assigns := fun m member type => first.assigns m (second.assigns m member type) type
  checks := fun tc member => by
    obtain old | new := second.checks tc member
    · exact first.checks tc old
    · exact .inr new

theorem Calm.foldl {α : Type} (f : Entity → α → Entity) (each : ∀ s a, Calm s (f s a)) (xs : List α)
    (s : Entity) : Calm s (xs.foldl f s) := by
  induction xs generalizing s with
  | nil => exact .refl s
  | cons x xs ih => exact (each s x).trans (ih (f s x))

theorem tmSend_calm (s : Entity) {t : MessageType} (other : t ≠ .assigned) (ri : Ri) (ai : Tei) :
    Calm s (tmSend s t ri ai) where
  teis := rfl
  cursor := id
  assigns := fun m member assigned => by
    obtain old | new := List.mem_append.mp member
    · exact old
    · rw [List.mem_singleton.mp new] at assigned
      exact absurd assigned other
  checks := fun _ member => .inl member

theorem startTeiCheck_calm (s : Entity) (tei : Tei) : Calm s (startTeiCheck s tei) := by
  unfold startTeiCheck
  split
  · exact .refl s
  · refine Calm.trans (t := { s with teiChecks := s.teiChecks ++ [{ tei := tei }] }) ?_
      (tmSend_calm _ (by simp) _ _)
    exact {
      teis := rfl
      cursor := id
      assigns := fun _ member _ => member
      checks := fun tc member => by
        obtain old | new := List.mem_append.mp member
        · exact .inl old
        · exact .inr ⟨tei, List.mem_singleton.mp new⟩ }

theorem tcCheckFirst_calm (tc : TeiCheck) (s : Entity) (tei : Tei) : Calm s (tcCheckFirst tc s tei) := by
  unfold tcCheckFirst
  split
  · exact tmSend_calm s (by simp) _ _
  · exact .refl s

/-- The first window ends. -/
theorem tcCheckAll_first (tc : TeiCheck) (s : Entity) :
    Calm s (tcCheckAll tcCheckFirst tc s) ∧
      (tcCheckAll tcCheckFirst tc s).teiChecks = s.teiChecks := by
  have kept (s : Entity) (tei : Tei) : (tcCheckFirst tc s tei).teiChecks = s.teiChecks := by
    unfold tcCheckFirst
    split <;> rfl
  unfold tcCheckAll
  split
  · refine ⟨Calm.foldl _ (tcCheckFirst_calm tc) _ s, ?_⟩
    generalize List.finRange 128 = all
    induction all generalizing s with
    | nil => rfl
    | cons tei all ih => exact (ih (tcCheckFirst tc s tei)).trans (kept s tei)
  · exact ⟨tcCheckFirst_calm tc s tc.tei, kept s tc.tei⟩

end Calm

/-! ## The search for a free TEI -/

section Search
variable {s t : Entity} {tei : Tei}

/-- The next place to look at. -/
def advanced (s : Entity) : Entity :=
  { s with curDynTei := if s.curDynTei + 1 > maxDynTei then minDynTei else s.curDynTei + 1 }

theorem advanced_cursor (s : Entity) (cursor : CursorOk s) : CursorOk (advanced s) := by
  unfold CursorOk advanced at *
  dsimp only
  split
  · exact ⟨Nat.le_refl _, by decide⟩
  · omega

theorem findTei_succ (n : Nat) (s : Entity) :
    findTei (n + 1) s = if s.teis ((advanced s).curDynTei - minDynTei) then findTei n (advanced s)
      else ({ advanced s with teis := fun j =>
        if j = (advanced s).curDynTei - minDynTei then true else s.teis j },
        some (Fin.ofNat 128 (advanced s).curDynTei)) := rfl

/-- A search that fails moves the cursor only. -/
theorem findTei_none (n : Nat) (s : Entity) (failed : findTei n s = (t, none)) :
    Calm s t ∧ t.teiChecks = s.teiChecks := by
  induction n generalizing s with
  | zero =>
    cases failed
    exact ⟨.refl _, rfl⟩
  | succ n ih =>
    rw [findTei_succ] at failed
    split at failed
    · obtain ⟨calm, checks⟩ := ih (advanced s) failed
      have moved : Calm s (advanced s) :=
        ⟨rfl, advanced_cursor s, fun _ member _ => member, fun _ member => .inl member⟩
      exact ⟨moved.trans calm, checks⟩
    · cases failed

/-- A search that succeeds takes a dynamic TEI that was free. -/
theorem findTei_some (n : Nat) (s : Entity) (cursor : CursorOk s)
    (found : findTei n s = (t, some tei)) :
    isDynamic tei ∧ taken s tei = false ∧ t = { s with
      curDynTei := tei.val
      teis := fun j => if j = tei.val - minDynTei then true else s.teis j } := by
  induction n generalizing s with
  | zero => cases found
  | succ n ih =>
    have next := advanced_cursor s cursor
    rw [findTei_succ] at found
    split at found
    · exact ih (advanced s) next found
    · rename_i free
      cases found
      have value : (Fin.ofNat 128 (advanced s).curDynTei).val = (advanced s).curDynTei := by
        simp only [CursorOk, minDynTei, maxDynTei] at next
        exact Nat.mod_eq_of_lt (by omega)
      refine ⟨?_, ?_, ?_⟩
      · rw [isDynamic, value]
        exact next
      · rw [taken, value]
        simpa using free
      · rw [value]
        rfl

end Search

/-! ## The end of an audit -/

/-- The second window ends: a TEI loses its entry only when both its counters
are 0 and the check is about it. -/
theorem tcCheckAll_second (tc : TeiCheck) (s : Entity) :
    (∀ tei, isDynamic tei → taken s tei = true →
      taken (tcCheckAll tcCheckSecond tc s) tei = true ∨
        (tc.responses tei 0 = 0 ∧ tc.responses tei 1 = 0)) ∧
    (CursorOk s → CursorOk (tcCheckAll tcCheckSecond tc s)) ∧
    (∀ m ∈ (tcCheckAll tcCheckSecond tc s).out, m.type = .assigned → m ∈ s.out) ∧
    (tcCheckAll tcCheckSecond tc s).teiChecks = s.teiChecks := by
  have one (s : Entity) (this : Tei) :
      (∀ tei, isDynamic tei → taken s tei = true → taken (tcCheckSecond tc s this) tei = true ∨
        (tc.responses tei 0 = 0 ∧ tc.responses tei 1 = 0)) ∧
      (CursorOk s → CursorOk (tcCheckSecond tc s this)) ∧
      (∀ m ∈ (tcCheckSecond tc s this).out, m.type = .assigned → m ∈ s.out) ∧
      (tcCheckSecond tc s this).teiChecks = s.teiChecks := by
    unfold tcCheckSecond
    split
    · rename_i unused
      split
      · rename_i dynamic
        refine ⟨fun tei other held => ?_, id, fun _ member _ => member, rfl⟩
        by_cases same : tei = this
        · subst same
          exact .inr unused
        · refine .inl ?_
          have apart : tei.val - minDynTei ≠ this.val - minDynTei := by
            intro equal
            refine same (Fin.ext ?_)
            have := dynamic.1
            have := other.1
            omega
          simpa [taken, apart] using held
      · exact ⟨fun _ _ held => .inl held, id, fun _ member _ => member, rfl⟩
    · split
      · exact ⟨fun _ _ held => .inl held, id, fun _ member _ => member, rfl⟩
      · have calm := tmSend_calm s (t := .remove) (by simp) (0, 0) this
        exact ⟨fun _ _ held => .inl held, calm.cursor, calm.assigns, rfl⟩
  unfold tcCheckAll
  split
  · generalize List.finRange 128 = all
    induction all generalizing s with
    | nil => exact ⟨fun _ _ held => .inl held, id, fun _ member _ => member, rfl⟩
    | cons this all ih =>
      obtain ⟨kept, cursor, assigns, checks⟩ := one s this
      obtain ⟨keptLater, cursorLater, assignsLater, checksLater⟩ := ih (tcCheckSecond tc s this)
      refine ⟨fun tei dynamic held => ?_, cursorLater ∘ cursor,
        fun m member type => assigns m (assignsLater m member type) type, checksLater.trans checks⟩
      obtain still | unused := kept tei dynamic held
      · exact keptLater tei dynamic still
      · exact .inr unused
  · exact one s tc.tei

/-! ## Events -/

/-- What one event does to the table and to the checks. -/
inductive Change (s : Entity) : Event → Entity → Prop where
  | calm {e : Event} {t : Entity} (same : Calm { s with out := [] } t) : Change s e t
  | assign {e : Event} {t : Entity} {tei : Tei} (dynamic : isDynamic tei)
      (free : taken s tei = false) (now : taken t tei = true) (cursor : CursorOk t)
      (others : ∀ other, taken s other = true → taken t other = true)
      (sent : ∀ m ∈ t.out, m.ai = tei) (checks : t.teiChecks = s.teiChecks) : Change s e t
  | respond {skb : Octets} (accepted : accepts skb) (type : messageType skb = some .chkRes) :
      Change s (.frame skb) (handleTeiCheckResponse { s with out := [] } skb)
  | again {i : Nat} {tc : TeiCheck} {t : Entity} (this : s.teiChecks[i]? = some tc)
      (audit : tc.tei = allTeis) (same : Calm { s with out := [] } { t with teiChecks := s.teiChecks })
      (checks : t.teiChecks = s.teiChecks.set i { tc with count := 1 }) : Change s (.t201 i) t
  | finish {i : Nat} {tc : TeiCheck} {t : Entity} (this : s.teiChecks[i]? = some tc)
      (second : tc.count = 1)
      (kept : ∀ tei, isDynamic tei → taken s tei = true → taken t tei = true ∨
        (tc.responses tei 0 = 0 ∧ tc.responses tei 1 = 0))
      (cursor : CursorOk s → CursorOk t) (assigns : ∀ m ∈ t.out, m.type ≠ .assigned)
      (checks : t.teiChecks = s.teiChecks.eraseIdx i) : Change s (.t201 i) t

section Events
variable {s t : Entity} {e : Event}

private theorem handleTeiRequest_change (cursor : CursorOk s) (skb : Octets) :
    Change s (.frame skb) (handleTeiRequest { s with out := [] } skb) := by
  unfold handleTeiRequest
  split
  · exact .calm (tmSend_calm _ (by simp) _ _)
  · split
    · exact .calm (.refl _)
    · split
      · exact .calm (tmSend_calm _ (by simp) _ _)
      · split
        · rename_i after tei found
          obtain ⟨dynamic, free, rfl⟩ := findTei_some _ { s with out := [] } cursor found
          refine .assign dynamic free ?_ dynamic (fun other held => ?_) (fun m member => ?_) rfl
          · simp [taken, tmSend]
          · simp only [taken, tmSend] at held ⊢
            split
            · rfl
            · exact held
          · simp only [tmSend, List.nil_append, List.mem_singleton] at member
            rw [member]
        · rename_i after failed
          refine .calm ((findTei_none _ _ failed).1.trans ?_)
          refine (tmSend_calm after (t := .denied) (by simp) (ri skb) (ai skb)).trans ?_
          exact Calm.foldl _ (fun s _ => startTeiCheck_calm s _) _ _

private theorem tcT201Timer_change (i : Nat) (possible : i < s.teiChecks.length) :
    Change s (.t201 i) (tcT201Timer { s with out := [] } i) := by
  have this : s.teiChecks[i]? = some s.teiChecks[i] := List.getElem?_eq_getElem possible
  unfold tcT201Timer
  simp only [this]
  generalize s.teiChecks[i] = tc at this
  split
  · obtain ⟨calm, checks⟩ := tcCheckAll_first tc { s with out := [] }
    generalize tcCheckAll tcCheckFirst tc { s with out := [] } = after at calm checks
    split
    · rename_i audit
      refine .again this audit ?_ (by rw [checks]; rfl)
      have sent := tmSend_calm after (t := .chkReq) (by simp) (0, 0) tc.tei
      have whole := calm.trans sent
      exact ⟨whole.teis, whole.cursor, whole.assigns, fun _ member => .inl member⟩
    · refine .calm (calm.trans ?_)
      exact ⟨rfl, id, fun _ member _ => member,
        fun _ member => .inl (List.mem_of_mem_eraseIdx member)⟩
  · rename_i notFirst
    obtain ⟨kept, cursor, assigns, checks⟩ := tcCheckAll_second tc { s with out := [] }
    generalize tcCheckAll tcCheckSecond tc { s with out := [] } = after at kept cursor assigns checks
    refine .finish this (by omega) kept cursor (fun m member type => ?_) (by rw [checks])
    cases assigns m member type

theorem step_change (cursor : CursorOk s) (took : step s e = some t) : Change s e t := by
  unfold step at took
  split at took
  · rename_i possible
    cases took
    cases e with
    | frame skb =>
      unfold perform handleFrame
      dsimp only
      split
      · rename_i accepted
        split
        · rename_i type
          exact .respond accepted type
        · unfold handleTeiVerify
          split
          · exact .calm (.refl _)
          · exact .calm (startTeiCheck_calm _ _)
        · exact handleTeiRequest_change cursor skb
        · exact .calm (.refl _)
      · exact .calm (.refl _)
    | audit => exact .calm (startTeiCheck_calm _ _)
    | check tei => exact .calm (startTeiCheck_calm _ _)
    | t201 i => exact tcT201Timer_change i (by simpa [enabled] using possible)
  · cases took

end Events

/-! ## What the parser credits -/

/-- The C/R bit of the address. -/
def cr (skb : Octets) : Bool := (octet skb 0).toNat / 2 % 2 == 1

/-- The TEI of the address. -/
def addressTei (skb : Octets) : Tei := aiValue (octet skb 1)

/-- The two octets of the address read as if they were Ai octets: the first is
the SAPI with the C/R bit. -/
def credited (skb : Octets) : List Tei := [if cr skb then 127 else 126, addressTei skb]

/-- The parser never gets further than the address, whatever the Ai octets. -/
theorem aiValues_credited {skb : Octets} (accepted : accepts skb) : aiValues skb = credited skb := by
  obtain ⟨ea1, ea2, sapi, size, _⟩ := accepted
  match skb, size with
  | first :: second :: rest, _ =>
    simp only [octet, List.getD_cons_zero, List.getD_cons_succ] at ea1 ea2 sapi
    have more : aiExt first = false := by simp [aiExt, ea1]
    have last : aiExt second = true := by simp [aiExt, ea2]
    have value : aiValue first = if cr (first :: second :: rest) then 127 else 126 := by
      unfold cr octet aiValue
      rw [List.getD_cons_zero]
      have bit : first.toNat / 2 = 126 ∨ first.toNat / 2 = 127 := by omega
      obtain bit | bit := bit <;> rw [bit] <;> rfl
    simp only [aiValues, more, last, value]
    rfl

theorem foldl_credit (teis : List Tei) (tc : TeiCheck) :
    (teis.foldl credit tc).tei = tc.tei ∧ (teis.foldl credit tc).count = tc.count ∧
      (teis.foldl credit tc).heard = tc.heard := by
  induction teis generalizing tc with
  | nil => exact ⟨rfl, rfl, rfl⟩
  | cons first teis ih =>
    have one : (credit tc first).tei = tc.tei ∧ (credit tc first).count = tc.count ∧
        (credit tc first).heard = tc.heard := by
      unfold credit
      split <;> exact ⟨rfl, rfl, rfl⟩
    obtain ⟨tei, count, heard⟩ := ih (credit tc first)
    exact ⟨tei.trans one.1, count.trans one.2.1, heard.trans one.2.2⟩

/-- The counters of an audit after a response. -/
theorem foldl_credit_responses (teis : List Tei) (tc : TeiCheck) (audit : tc.tei = allTeis)
    (tei : Tei) (w : Fin 2) :
    (teis.foldl credit tc).responses tei w =
      tc.responses tei w + if w = tc.count then UInt8.ofNat (teis.count tei) else 0 := by
  induction teis generalizing tc with
  | nil => simp
  | cons first teis ih =>
    have one : credit tc first = { tc with responses := fun t w =>
        if t = first ∧ w = tc.count then tc.responses t w + 1 else tc.responses t w } := by
      rw [credit, if_pos (.inl audit)]
    rw [List.foldl_cons, ih (credit tc first) (by rw [one]; exact audit), one, List.count_cons]
    dsimp only
    by_cases window : w = tc.count
    · by_cases same : first = tei
      · simp [window, same, UInt8.ofNat_add, UInt8.add_assoc, UInt8.add_comm 1]
      · simp [window, same, Ne.symm same]
    · simp [window]

/-! ## The condition -/

/-- While an audit is under way, each dynamic TEI in a check response is one of
the two the parser credits, and no counter of a dynamic TEI wraps. -/
def Credited (tme : Entity) : Event → Prop
  | .frame skb => accepts skb ∧ messageType skb = some .chkRes →
    ∀ tc ∈ tme.teiChecks, tc.tei = allTeis → ∀ tei, isDynamic tei →
      (tei ∈ listed skb → tei ∈ credited skb) ∧
        (tc.responses tei tc.count).toNat + (credited skb).count tei < 256
  | _ => True

instance (tme : Entity) (e : Event) : Decidable (Credited tme e) :=
  match e with
  | .frame _ => inferInstanceAs (Decidable (_ → _))
  | .audit | .check _ | .t201 _ => inferInstanceAs (Decidable True)

/-- Only a check of all TEIs has a second window, and it has counted every
dynamic TEI it has heard of. -/
structure Inv (tme : Entity) : Prop where
  cursor : CursorOk tme
  audits : ∀ tc ∈ tme.teiChecks, tc.count = 1 → tc.tei = allTeis
  counted : ∀ tc ∈ tme.teiChecks, tc.tei = allTeis → ∀ tei ∈ tc.heard, isDynamic tei →
    tc.responses tei 0 ≠ 0 ∨ tc.responses tei 1 ≠ 0

section Runs
variable {s t u v w x : Entity} {e f : Event} {before between : List Event} {tei : Tei}

/-- The invariant depends on the checks one by one. -/
private theorem Inv.of_checks (held : Inv s) (cursor : CursorOk t)
    (checks : ∀ tc ∈ t.teiChecks, tc ∈ s.teiChecks ∨ ∃ tei, tc = { tei := tei }) : Inv t where
  cursor := cursor
  audits := fun tc member second => by
    obtain old | ⟨tei, rfl⟩ := checks tc member
    · exact held.audits tc old second
    · cases second
  counted := fun tc member audit tei heard => by
    obtain old | ⟨this, rfl⟩ := checks tc member
    · exact held.counted tc old audit tei heard
    · cases heard

/-- A response leaves no TEI it carries without a count. -/
private theorem Inv.respond {skb : Octets} (held : Inv s) (accepted : accepts skb)
    (type : messageType skb = some .chkRes) (met : Credited s (.frame skb)) :
    Inv (handleTeiCheckResponse { s with out := [] } skb) := by
  have each (tc : TeiCheck) (member : tc ∈ s.teiChecks) (audit : tc.tei = allTeis) (tei : Tei)
      (dynamic : isDynamic tei) (now : tei ∈ tc.heard ++ listed skb) :
      ((aiValues skb).foldl credit tc).responses tei 0 ≠ 0 ∨
        ((aiValues skb).foldl credit tc).responses tei 1 ≠ 0 := by
    have responses := foldl_credit_responses (aiValues skb) tc audit tei
    obtain ⟨carried, room⟩ := met ⟨accepted, type⟩ tc member audit tei dynamic
    rw [aiValues_credited accepted] at responses ⊢
    have current : ((credited skb).foldl credit tc).responses tei tc.count ≠ 0 ∨
        (tc.responses tei tc.count = 0 ∧ tei ∉ credited skb) := by
      by_cases zero : (tc.responses tei tc.count).toNat + (credited skb).count tei = 0
      · refine .inr ⟨UInt8.toNat_inj.mp (by simp; omega), ?_⟩
        exact List.count_eq_zero.mp (by omega)
      · refine .inl fun gone => zero ?_
        rw [responses, if_pos rfl] at gone
        have sum := congrArg UInt8.toNat gone
        rw [UInt8.toNat_add, UInt8.toNat_ofNat'] at sum
        simp only [UInt8.toNat_zero] at sum
        omega
    have other (w : Fin 2) (apart : w ≠ tc.count) :
        ((credited skb).foldl credit tc).responses tei w = tc.responses tei w := by
      rw [responses, if_neg apart, UInt8.add_zero]
    have windows : tc.count = 0 ∨ tc.count = 1 := by omega
    obtain nonzero | ⟨zero, missing⟩ := current
    · obtain here | here := windows <;> rw [here] at nonzero
      · exact .inl nonzero
      · exact .inr nonzero
    · have old : tei ∈ tc.heard := by
        obtain old | new := List.mem_append.mp now
        · exact old
        · exact absurd (carried new) missing
      obtain here | here := windows <;> rw [here] at zero other
      · refine .inr ?_
        rw [other 1 (by decide)]
        exact (held.counted tc member audit tei old dynamic).resolve_left (absurd zero)
      · refine .inl ?_
        rw [other 0 (by decide)]
        exact (held.counted tc member audit tei old dynamic).resolve_right (absurd zero)
  have same := foldl_credit (aiValues skb)
  refine ⟨held.cursor, fun tc member second => ?_, fun tc member audit tei heard dynamic => ?_⟩
  · obtain ⟨old, there, rfl⟩ := List.mem_map.mp member
    exact (same old).1.trans (held.audits old there ((same old).2.1.symm.trans second))
  · obtain ⟨old, there, rfl⟩ := List.mem_map.mp member
    dsimp only at heard audit
    rw [(same old).2.2] at heard
    exact each old there ((same old).1.symm.trans audit) tei dynamic heard

theorem inv_step (held : Inv s) (met : Credited s e) (took : step s e = some t) : Inv t := by
  cases step_change held.cursor took with
  | calm same => exact held.of_checks (same.cursor held.cursor) same.checks
  | assign _ _ _ cursor _ _ checks =>
    exact held.of_checks cursor fun _ member => .inl (by rwa [checks] at member)
  | respond accepted type => exact held.respond accepted type met
  | @again i tc _ this audit same checks =>
    have there : tc ∈ s.teiChecks := List.mem_of_getElem? this
    have elsewhere (other : TeiCheck) (member : other ∈ t.teiChecks) :
        other = { tc with count := 1 } ∨ other ∈ s.teiChecks := by
      rw [checks] at member
      exact (List.mem_or_eq_of_mem_set member).symm
    refine ⟨same.cursor held.cursor, fun other member second => ?_, fun other member isAudit => ?_⟩
    · obtain rfl | old := elsewhere other member
      · exact audit
      · exact held.audits other old second
    · obtain rfl | old := elsewhere other member
      · exact held.counted tc there audit
      · exact held.counted other old isAudit
  | finish _ _ _ cursor _ checks =>
    refine held.of_checks (cursor held.cursor) fun _ member => .inl ?_
    rw [checks] at member
    exact List.mem_of_mem_eraseIdx member

/-- The TEI of the check of `tei` whose second window ends with this event, if
no check response it has heard carried `tei`. -/
def quietlyCompleted (tei : Tei) (tme : Entity) : Event → Option Tei
  | .t201 i => tme.teiChecks[i]?.bind fun tc =>
    if tc.count = 1 ∧ (tc.tei = allTeis ∨ tc.tei = tei) ∧ tei ∉ tc.heard then some tc.tei else none
  | _ => none

/-- The event that led here sent an ASSIGNED message with this TEI. -/
def assigns (tme : Entity) (tei : Tei) : Prop :=
  ∃ m ∈ tme.out, m.type = .assigned ∧ m.ai = tei

instance (tme : Entity) (tei : Tei) : Decidable (assigns tme tei) :=
  inferInstanceAs (Decidable (∃ m ∈ tme.out, _))

/-- An entry is given up at the end of a quiet audit only. -/
theorem taken_step (dynamic : isDynamic tei) (held : Inv s) (took : step s e = some t)
    (entry : taken s tei = true) : taken t tei = true ∨ quietlyCompleted tei s e = some allTeis := by
  cases step_change held.cursor took with
  | calm same =>
    refine .inl ?_
    rw [taken, same.teis]
    exact entry
  | assign _ _ _ _ others _ _ => exact .inl (others tei entry)
  | respond => exact .inl entry
  | again _ _ same _ =>
    refine .inl ?_
    have teis := same.teis
    dsimp only at teis
    rw [taken, teis]
    exact entry
  | @finish i tc _ this second kept _ _ _ =>
    refine (kept tei dynamic entry).imp_right fun unused => ?_
    have there : tc ∈ s.teiChecks := List.mem_of_getElem? this
    have audit := held.audits tc there second
    have unheard : tei ∉ tc.heard := fun heard =>
      (held.counted tc there audit tei heard dynamic).elim (absurd unused.1) (absurd unused.2)
    simp only [quietlyCompleted, this, Option.bind_some]
    rw [if_pos ⟨second, .inl audit, unheard⟩, audit]

/-- Only a free TEI is assigned, and it is taken from then on. -/
theorem assigns_step (held : Inv s) (took : step s e = some t) (sent : assigns t tei) :
    isDynamic tei ∧ taken s tei = false ∧ taken t tei = true ∧ t.teiChecks = s.teiChecks ∧ Inv t := by
  obtain ⟨m, member, type, rfl⟩ := sent
  cases step_change held.cursor took with
  | calm same => cases same.assigns m member type
  | assign dynamic free now cursor others only checks =>
    rw [only m member]
    exact ⟨dynamic, free, now, checks,
      held.of_checks cursor fun _ member => .inl (by rwa [checks] at member)⟩
  | respond => cases member
  | again _ _ same _ => cases same.assigns m member type
  | finish _ _ _ _ none _ => exact absurd type (none m member)

theorem Init.inv (fresh : Init s) : Inv s := by
  obtain ⟨cursor, _, checks⟩ := fresh
  refine ⟨cursor, ?_, ?_⟩ <;> rw [checks] <;> exact nofun

/-- In every run in which the answers to an audit are credited, a TEI is assigned
again only after a check of it has completed both windows in between without
hearing of it; and if no audit was under way at the first assignment, that check
also began in between. -/
theorem credited_teis_are_unique (fresh : Init s) (run : Run step Credited s before u)
    (first : step u e = some v) (sent : assigns v tei) (rest : Run step Credited v between w)
    (second : step w f = some x) (again : assigns x tei) :
    Somewhere step (fun y g => (quietlyCompleted tei y g).isSome) v between ∧
      ((∀ tc ∈ u.teiChecks, tc.tei ≠ allTeis) →
        ∃ check, (∀ tc ∈ v.teiChecks, tc.tei ≠ check) ∧
          Somewhere step (fun y g => quietlyCompleted tei y g = some check) v between) := by
  have atFirst : Inv u := run.invariant Inv inv_step fresh.inv
  obtain ⟨dynamic, _, entry, checks, held⟩ := assigns_step atFirst first sent
  have atSecond : Inv w := rest.invariant Inv inv_step held
  obtain ⟨_, free, _⟩ := assigns_step atSecond second again
  have quiet : Somewhere step (fun y g => quietlyCompleted tei y g = some allTeis) v between := by
    refine (rest.preserved_or_somewhere Inv (fun y => taken y tei = true) inv_step
      (fun held _ took entry => taken_step dynamic held took entry) held entry).resolve_left ?_
    rw [free]
    exact Bool.false_ne_true
  refine ⟨quiet.mono fun y g completed => by rw [completed]; rfl, fun noAudit => ⟨allTeis, ?_, quiet⟩⟩
  rw [checks]
  exact noAudit

end Runs

/-- The frame of a terminal that asks for any TEI. -/
def anyTeiRequest : Event := .frame (tmSendMultiai .te .request (0, 1) [allTeis])

/-- The answer of the terminal that uses this TEI. -/
def checkResponse (tei : Tei) : Event := .frame (tmSendMultiai .te .chkRes (0, 1) [tei])

/-- The terminal with TEI 126 answers one audit and not the next. -/
def twoAudits : List Event :=
  [.audit, checkResponse 126, .t201 0, .t201 0, .audit, .t201 0, .t201 0] ++
    List.replicate 62 anyTeiRequest

theorem silent_terminal_loses_its_tei :
    ∃ v w x, step { mode := .multipoint, curDynTei := 125 } anyTeiRequest = some v ∧ assigns v 126 ∧
      Run step Credited v twoAudits w ∧ step w anyTeiRequest = some x ∧ assigns x 126 ∧
      Somewhere step (fun y g => (quietlyCompleted 126 y g).isSome) v twoAudits := by
  have twice : (step { mode := .multipoint, curDynTei := 125 } anyTeiRequest).any (fun v =>
      assigns v 126 ∧ (follow step Credited v twoAudits).any fun w =>
        (step w anyTeiRequest).any fun x => assigns x 126) := by
    decide +kernel
  obtain ⟨v, first, both⟩ := Option.any_eq_true _ _ |>.mp twice
  obtain ⟨sent, later⟩ := of_decide_eq_true both
  obtain ⟨w, followed, last⟩ := Option.any_eq_true _ _ |>.mp later
  obtain ⟨x, second, again⟩ := Option.any_eq_true _ _ |>.mp last
  have rest := follow_run step Credited v twoAudits followed
  have fresh : Init { mode := .multipoint, curDynTei := 125 } :=
    ⟨⟨by decide, by decide⟩, fun _ => rfl, rfl⟩
  exact ⟨v, w, x, first, sent, rest, second, of_decide_eq_true again,
    (credited_teis_are_unique fresh (.nil _) first sent rest second (of_decide_eq_true again)).1⟩

/-- The terminal with TEI 64 answers in both windows of an audit. -/
def answeredAudit : List Event :=
  [.audit, checkResponse 64, .t201 0, checkResponse 64, .t201 0] ++ List.replicate 62 anyTeiRequest

/-- Its answers are not credited and its TEI is assigned again. -/
theorem answering_terminal_loses_its_tei :
    ¬ ∀ s before u e v tei between w f x, Init s → Run step Any s before u → step u e = some v →
      assigns v tei → Run step Any v between w → step w f = some x → assigns x tei →
        Somewhere step (fun y g => (quietlyCompleted tei y g).isSome) v between := by
  intro claim
  have twice : (step { mode := .multipoint, curDynTei := 126 } anyTeiRequest).any (fun v =>
      (assigns v 64 ∧ ¬ Somewhere step (fun y g => (quietlyCompleted 64 y g).isSome) v answeredAudit) ∧
        (follow step Any v answeredAudit).any fun w =>
          (step w anyTeiRequest).any fun x => assigns x 64) := by
    decide +kernel
  obtain ⟨v, first, both⟩ := Option.any_eq_true _ _ |>.mp twice
  obtain ⟨⟨sent, loud⟩, later⟩ := of_decide_eq_true both
  obtain ⟨w, followed, last⟩ := Option.any_eq_true _ _ |>.mp later
  obtain ⟨x, second, again⟩ := Option.any_eq_true _ _ |>.mp last
  have rest := follow_run step Any v answeredAudit followed
  have fresh : Init { mode := .multipoint, curDynTei := 126 } :=
    ⟨⟨by decide, by decide⟩, fun _ => rfl, rfl⟩
  exact loud (claim _ _ _ _ v 64 _ w _ x fresh (.nil _) first sent rest second
    (of_decide_eq_true again))

end Vstuff.Lapd.Ntme
