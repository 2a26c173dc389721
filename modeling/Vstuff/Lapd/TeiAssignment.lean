import Vstuff.Lapd.TeiUnique

/-! Which TEI a request for any TEI is given. The search starts behind the
cursor and comes round to it, so it fails only over a full table, and the checks
it starts then are those that are not under way already. -/
namespace Vstuff.Lapd.Ntme
open Transition
set_option linter.all false

/-! ## The cyclic order -/

/-- The dynamic TEI so many turns behind the cursor. -/
def turn (tme : Entity) (k : Nat) : Tei :=
  Fin.ofNat 128 (minDynTei + (tme.curDynTei - minDynTei + k) % numDynTeis)

/-- The first free TEI behind the cursor. -/
structure FirstFree (tme : Entity) (tei : Tei) : Prop where
  free : taken tme tei = false
  first : ∃ k, 0 < k ∧ k ≤ numDynTeis ∧ tei = turn tme k ∧
    ∀ j, 0 < j → j < k → taken tme (turn tme j) = true

section Turns
variable {s t : Entity} {tei : Tei}

theorem turn_val (s : Entity) (k : Nat) :
    (turn s k).val = minDynTei + (s.curDynTei - minDynTei + k) % numDynTeis := by
  have below : (s.curDynTei - minDynTei + k) % numDynTeis < numDynTeis := Nat.mod_lt _ (by decide)
  apply Nat.mod_eq_of_lt
  simp only [minDynTei, numDynTeis, maxDynTei] at below ⊢
  omega

theorem turn_dynamic (s : Entity) (k : Nat) : isDynamic (turn s k) := by
  have below : (s.curDynTei - minDynTei + k) % numDynTeis < numDynTeis := Nat.mod_lt _ (by decide)
  rw [isDynamic, turn_val]
  simp only [minDynTei, numDynTeis, maxDynTei] at below ⊢
  omega

/-- Every dynamic TEI has its turn. -/
theorem turn_all (cursor : CursorOk s) (dynamic : isDynamic tei) :
    ∃ k, 0 < k ∧ k ≤ numDynTeis ∧ turn s k = tei := by
  obtain ⟨low, high⟩ := cursor
  obtain ⟨above, below⟩ := dynamic
  simp only [minDynTei, maxDynTei] at low high above below
  have reached (k : Nat) (place : (s.curDynTei - minDynTei + k) % numDynTeis = tei.val - minDynTei) :
      turn s k = tei := by
    apply Fin.ext
    rw [turn_val, place]
    simp only [minDynTei]
    omega
  simp only [minDynTei, numDynTeis, maxDynTei] at reached ⊢
  by_cases behind : s.curDynTei < tei.val
  · exact ⟨tei.val - s.curDynTei, by omega, by omega, reached _ (by omega)⟩
  · exact ⟨tei.val + 63 - s.curDynTei, by omega, by omega, reached _ (by omega)⟩

private theorem advanced_turn (cursor : CursorOk s) : (advanced s).curDynTei = (turn s 1).val := by
  obtain ⟨low, high⟩ := cursor
  rw [turn_val]
  unfold advanced
  dsimp only
  split
  all_goals
    simp only [minDynTei, numDynTeis, maxDynTei] at *
    omega

private theorem turn_advanced (cursor : CursorOk s) (k : Nat) : turn (advanced s) k = turn s (k + 1) := by
  apply Fin.ext
  rw [turn_val, turn_val, advanced_turn cursor, turn_val]
  simp only [minDynTei, numDynTeis, maxDynTei]
  omega

private theorem taken_advanced (s : Entity) (tei : Tei) : taken (advanced s) tei = taken s tei := rfl

/-- A search that finds every turn taken stops that many turns further. -/
theorem findTei_full (n : Nat) (cursor : CursorOk s)
    (full : ∀ j, 0 < j → j ≤ n → taken s (turn s j) = true) :
    findTei n s = ({ s with curDynTei := (turn s n).val }, none) := by
  induction n generalizing s with
  | zero =>
    have stays : (turn s 0).val = s.curDynTei := by
      obtain ⟨low, high⟩ := cursor
      rw [turn_val]
      simp only [minDynTei, numDynTeis, maxDynTei] at low high ⊢
      omega
    rw [stays]
    rfl
  | succ n ih =>
    have next : s.teis ((advanced s).curDynTei - minDynTei) = true := by
      rw [advanced_turn cursor]
      exact full 1 (by omega) (by omega)
    have rest : ∀ j, 0 < j → j ≤ n → taken (advanced s) (turn (advanced s) j) = true := by
      intro j positive bound
      rw [turn_advanced cursor, taken_advanced]
      exact full (j + 1) (by omega) (by omega)
    rw [findTei_succ, if_pos next, ih (advanced_cursor s cursor) rest, turn_advanced cursor]
    rfl

/-- A search that meets a free turn takes the first one. -/
theorem findTei_first (n k : Nat) (cursor : CursorOk s) (positive : 0 < k) (bound : k ≤ n)
    (free : taken s (turn s k) = false) (first : ∀ j, 0 < j → j < k → taken s (turn s j) = true) :
    findTei n s = ({ s with
      curDynTei := (turn s k).val
      teis := fun j => if j = (turn s k).val - minDynTei then true else s.teis j },
      some (turn s k)) := by
  induction n generalizing s k with
  | zero => omega
  | succ n ih =>
    rw [findTei_succ, advanced_turn cursor]
    obtain rfl | later : k = 1 ∨ 1 < k := by omega
    · rw [if_neg (by simpa [taken] using free)]
      rw [show Fin.ofNat 128 (turn s 1).val = turn s 1 from Fin.ext (Nat.mod_eq_of_lt (turn s 1).isLt)]
      simp only [advanced_turn cursor]
      rfl
    · have next : s.teis ((turn s 1).val - minDynTei) = true := first 1 (by omega) later
      have same : turn (advanced s) (k - 1) = turn s k := by
        rw [turn_advanced cursor, Nat.sub_add_cancel (by omega)]
      have found := ih (k - 1) (advanced_cursor s cursor) (by omega) (by omega)
        (by rw [same, taken_advanced]; exact free) (by
          intro j above below
          rw [turn_advanced cursor, taken_advanced]
          exact first (j + 1) (by omega) (by omega))
      rw [if_pos next, found, same]
      rfl

/-- Over a table with a free entry there is a first one, in turns. -/
theorem firstFree_exists (cursor : CursorOk s) (some : ∃ tei, isDynamic tei ∧ taken s tei = false) :
    ∃ k, 0 < k ∧ k ≤ numDynTeis ∧ taken s (turn s k) = false ∧
      ∀ j, 0 < j → j < k → taken s (turn s j) = true := by
  obtain ⟨tei, dynamic, free⟩ := some
  obtain ⟨k, positive, bound, rfl⟩ := turn_all cursor dynamic
  have met : ∃ k, 0 < k ∧ taken s (turn s k) = false := ⟨k, positive, free⟩
  obtain ⟨above, missing⟩ := Nat.find_spec met
  refine ⟨Nat.find met, above, (Nat.find_min' met ⟨positive, free⟩).trans bound, missing, ?_⟩
  intro j positive before
  have skipped := Nat.find_min met before
  simpa [positive] using skipped

end Turns

/-! ## Checks of many TEIs -/

/-- The TEIs that are checked when none is free. -/
def dynamicTeis : List Tei := (List.range numDynTeis).map fun i => Fin.ofNat 128 (minDynTei + i)

/-- A check of this TEI is under way. -/
def checking (tme : Entity) (tei : Tei) : Bool := tme.teiChecks.any fun tc => tc.tei == tei

section Checks
variable {s : Entity} {tei : Tei}

theorem mem_dynamicTeis : tei ∈ dynamicTeis ↔ isDynamic tei := by
  simp only [dynamicTeis, isDynamic, List.mem_map, List.mem_range, numDynTeis, minDynTei, maxDynTei]
  constructor
  · rintro ⟨i, small, rfl⟩
    simp only [Fin.ofNat]
    omega
  · rintro ⟨least, most⟩
    refine ⟨tei.val - 64, by omega, Fin.ext ?_⟩
    simp only [Fin.ofNat]
    omega

theorem dynamicTeis_nodup : dynamicTeis.Nodup := by
  refine List.Nodup.map_on (fun i here j there same => ?_) List.nodup_range
  have low := List.mem_range.mp here
  have low' := List.mem_range.mp there
  have value := congrArg Fin.val same
  simp only [numDynTeis, minDynTei, maxDynTei, Fin.ofNat] at low low' value
  omega

theorem checking_iff : checking s tei = true ↔ tei ∈ s.teiChecks.map (·.tei) := by
  simp [checking]

/-- One check after the other: those that are not under way are added in order. -/
theorem foldl_startTeiCheck (teis : List Tei) (distinct : teis.Nodup) (s : Entity) :
    teis.foldl startTeiCheck s = { s with
      teiChecks := s.teiChecks ++ (teis.filter fun tei => !checking s tei).map fun tei => { tei := tei }
      out := s.out ++ (teis.filter fun tei => !checking s tei).map fun tei =>
        { type := .chkReq, ri := (0, 0), ai := tei } } := by
  induction teis generalizing s with
  | nil => simp
  | cons tei rest ih =>
    obtain ⟨fresh, distinct⟩ := List.nodup_cons.mp distinct
    rw [List.foldl_cons, ih distinct]
    by_cases here : checking s tei = true
    · have kept : startTeiCheck s tei = s := if_pos here
      simp [kept, here]
    · have added : startTeiCheck s tei =
          tmSend { s with teiChecks := s.teiChecks ++ [{ tei := tei }] } .chkReq (0, 0) tei := if_neg here
      have others : (rest.filter fun other => !checking (startTeiCheck s tei) other) =
          rest.filter fun other => !checking s other := by
        apply List.filter_congr
        intro other member
        have apart : tei ≠ other := fun same => fresh (same ▸ member)
        simp [added, checking, tmSend, apart]
      rw [others, added]
      simp [here, tmSend]

end Checks

/-! ## Runs -/

/-- No two checks are about the same TEI. -/
def Distinct (tme : Entity) : Prop := (tme.teiChecks.map (·.tei)).Nodup

section Runs
variable {s t : Entity} {e : Event}

theorem cursor_step (cursor : CursorOk s) (took : step s e = some t) : CursorOk t := by
  cases step_change cursor took with
  | calm same => exact same.cursor cursor
  | assign _ _ _ moved => exact moved
  | respond => exact cursor
  | again _ _ same => exact same.cursor cursor
  | finish _ _ _ moved => exact moved cursor

theorem Distinct.start (distinct : Distinct s) (tei : Tei) : Distinct (startTeiCheck s tei) := by
  unfold startTeiCheck
  split
  · exact distinct
  · rename_i missing
    unfold Distinct tmSend
    rw [List.map_append, List.nodup_append]
    refine ⟨distinct, List.nodup_singleton _, ?_⟩
    intro old member new added same
    rw [List.map_singleton, List.mem_singleton] at added
    subst added same
    exact missing (checking_iff.mpr member)

theorem Distinct.foldl_start (distinct : Distinct s) (teis : List Tei) : Distinct (teis.foldl startTeiCheck s) := by
  induction teis generalizing s with
  | nil => exact distinct
  | cons tei teis ih => exact ih (distinct.start tei)

theorem Distinct.t201 (distinct : Distinct s) (i : Nat) : Distinct (tcT201Timer s i) := by
  have erased : ((s.teiChecks.eraseIdx i).map (·.tei)).Nodup :=
    distinct.sublist ((List.eraseIdx_sublist _ _).map _)
  unfold tcT201Timer
  cases this : s.teiChecks[i]? with
  | none => exact distinct
  | some tc =>
    obtain ⟨_, first⟩ := tcCheckAll_first tc s
    obtain ⟨_, _, _, second⟩ := tcCheckAll_second tc s
    dsimp only
    split
    · split
      · have kept : (s.teiChecks.set i { tc with count := 1 }).map (·.tei) = s.teiChecks.map (·.tei) := by
          obtain ⟨bound, rfl⟩ := List.getElem?_eq_some_iff.mp this
          have same := List.set_getElem_self (show i < (s.teiChecks.map (·.tei)).length by simpa using bound)
          rw [List.getElem_map] at same
          rw [List.map_set]
          exact same
        unfold Distinct tmSend
        rw [first, kept]
        exact distinct
      · unfold Distinct
        rw [first]
        exact erased
    · unfold Distinct
      rw [second]
      exact erased

theorem Distinct.request (cursor : CursorOk s) (distinct : Distinct s) (skb : Octets) :
    Distinct (handleTeiRequest s skb) := by
  unfold handleTeiRequest
  split
  · exact distinct
  · split
    · exact distinct
    · split
      · exact distinct
      · split
        · rename_i after tei found
          obtain ⟨_, _, rfl⟩ := findTei_some _ s cursor found
          exact distinct
        · rename_i after failed
          obtain ⟨_, same⟩ := findTei_none _ s failed
          have start : Distinct (tmSend after .denied (ri skb) (ai skb)) := by
            unfold Distinct tmSend
            rw [same]
            exact distinct
          have checked := start.foldl_start dynamicTeis
          rw [dynamicTeis, List.foldl_map] at checked
          exact checked

theorem Distinct.respond (distinct : Distinct s) (skb : Octets) : Distinct (handleTeiCheckResponse s skb) := by
  have same : (handleTeiCheckResponse s skb).teiChecks.map (·.tei) = s.teiChecks.map (·.tei) := by
    unfold handleTeiCheckResponse
    rw [List.map_map]
    apply List.map_congr_left
    intro tc _
    exact (foldl_credit (aiValues skb) tc).1
  unfold Distinct
  rw [same]
  exact distinct

theorem distinct_step (cursor : CursorOk s) (distinct : Distinct s) (took : step s e = some t) : Distinct t := by
  unfold step at took
  split at took
  · cases took
    have fresh : Distinct { s with out := [] } := distinct
    cases e with
    | frame skb =>
      unfold perform handleFrame
      dsimp only
      split
      · split
        · exact fresh.respond skb
        · unfold handleTeiVerify
          split
          · exact fresh
          · exact fresh.start _
        · exact Distinct.request (s := { s with out := [] }) cursor fresh skb
        · exact fresh
      · exact fresh
    | audit => exact fresh.start allTeis
    | check tei => exact fresh.start tei
    | t201 i => exact fresh.t201 i
  · cases took

end Runs

/-! ## The answer -/

/-- What a request for any TEI gets over a full table: one denial, and a check of
each dynamic TEI that is not being checked. -/
structure Denied (s : Entity) (skb : Octets) (t : Entity) : Prop where
  teis : t.teis = s.teis
  started : ∃ teis : List Tei, t.teiChecks = s.teiChecks ++ teis.map (fun tei => { tei := tei }) ∧
    t.out = s.out ++ { type := .denied, ri := ri skb, ai := ai skb } ::
      teis.map fun tei => { type := .chkReq, ri := (0, 0), ai := tei }
  once : ∀ tei, isDynamic tei → (t.teiChecks.map (·.tei)).count tei = 1
  distinct : Distinct t

section Answer
variable {s : Entity} {skb : Octets} {tei : Tei}

private theorem handleFrame_any (accepted : accepts skb) (type : messageType skb = some .request)
    (multipoint : s.mode = .multipoint) (any : ai skb = allTeis) :
    handleFrame s skb = match findTei numDynTeis s with
      | (tme, some tei) => tmSend tme .assigned (ri skb) tei
      | (tme, none) => dynamicTeis.foldl startTeiCheck (tmSend tme .denied (ri skb) (ai skb)) := by
  have every : ¬ (ai skb).val ≤ maxStaTei ∧ ¬ isDynamic (ai skb) := by
    rw [any]
    decide
  unfold handleFrame handleTeiRequest
  rw [if_pos accepted, type]
  dsimp only
  rw [if_neg (by simp [multipoint]), if_neg every.1, if_neg every.2]
  obtain ⟨tme, found⟩ := findTei numDynTeis s
  cases found with
  | none => simp only [dynamicTeis, List.foldl_map]
  | some tei => rfl

theorem request_assigned (cursor : CursorOk s) (accepted : accepts skb)
    (type : messageType skb = some .request) (multipoint : s.mode = .multipoint) (any : ai skb = allTeis)
    (some : ∃ tei, isDynamic tei ∧ taken s tei = false) :
    ∃ tei, FirstFree s tei ∧ handleFrame s skb = { s with
      curDynTei := tei.val
      teis := fun j => if j = tei.val - minDynTei then true else s.teis j
      out := s.out ++ [{ type := .assigned, ri := ri skb, ai := tei }] } := by
  obtain ⟨k, positive, bound, free, first⟩ := firstFree_exists cursor some
  refine ⟨turn s k, ⟨free, k, positive, bound, rfl, first⟩, ?_⟩
  rw [handleFrame_any accepted type multipoint any, findTei_first _ k cursor positive bound free first]
  rfl

theorem request_denied (cursor : CursorOk s) (distinct : Distinct s) (accepted : accepts skb)
    (type : messageType skb = some .request) (multipoint : s.mode = .multipoint) (any : ai skb = allTeis)
    (full : ∀ tei, isDynamic tei → taken s tei = true) : Denied s skb (handleFrame s skb) := by
  have failed := findTei_full numDynTeis cursor fun j _ _ => full _ (turn_dynamic s j)
  have after := handleFrame_any accepted type multipoint any
  rw [failed] at after
  generalize (turn s numDynTeis).val = cur at after
  have start : Distinct (tmSend { s with curDynTei := cur } .denied (ri skb) (ai skb)) := distinct
  have apart := start.foldl_start dynamicTeis
  dsimp only at after
  rw [← after] at apart
  rw [foldl_startTeiCheck _ dynamicTeis_nodup] at after
  refine ⟨by rw [after]; rfl, ⟨_, by rw [after]; rfl, ?_⟩, ?_, apart⟩
  · rw [after]
    simp [tmSend, checking]
  · intro tei dynamic
    apply List.count_eq_one_of_mem apart
    rw [after, List.map_append, List.mem_append]
    by_cases here : checking (tmSend { s with curDynTei := cur } .denied (ri skb) (ai skb)) tei = true
    · exact .inl (checking_iff.mp here)
    · refine .inr (List.mem_map.mpr ⟨{ tei := tei }, List.mem_map.mpr ⟨tei, ?_, rfl⟩, rfl⟩)
      exact List.mem_filter.mpr ⟨mem_dynamicTeis.mpr dynamic, by simpa using here⟩

end Answer

/-- A request for any TEI takes the first free one behind the cursor; over a full
table it is denied and every dynamic TEI is checked once. The cursor stays in its
range, and no check is there twice. -/
theorem any_request_takes_first_free :
    (∀ s skb, CursorOk s → Distinct s → accepts skb → messageType skb = some .request →
      s.mode = .multipoint → ai skb = allTeis →
      ((∃ tei, isDynamic tei ∧ taken s tei = false) → ∃ tei, FirstFree s tei ∧
        handleFrame s skb = { s with
          curDynTei := tei.val
          teis := fun j => if j = tei.val - minDynTei then true else s.teis j
          out := s.out ++ [{ type := .assigned, ri := ri skb, ai := tei }] }) ∧
      ((∀ tei, isDynamic tei → taken s tei = true) → Denied s skb (handleFrame s skb))) ∧
    ∀ s before u, Init s → Run step Any s before u → CursorOk u ∧ Distinct u := by
  constructor
  · intro s skb cursor distinct accepted type multipoint any
    constructor
    · intro some
      exact request_assigned cursor accepted type multipoint any some
    · intro full
      exact request_denied cursor distinct accepted type multipoint any full
  · intro s before u fresh run
    refine run.invariant (fun tme => CursorOk tme ∧ Distinct tme) ?_ ⟨fresh.cursor, ?_⟩
    · rintro s t e ⟨cursor, distinct⟩ _ took
      exact ⟨cursor_step cursor took, distinct_step cursor distinct took⟩
    · unfold Distinct
      rw [fresh.checks]
      exact List.nodup_nil

/-- Only TEI 65 is free; then none is, and TEI 80 is being checked. -/
theorem last_free_tei_is_assigned :
    (∃ tei, FirstFree { mode := .multipoint, curDynTei := 70, teis := fun i => i != 1 } tei ∧ tei = 65) ∧
    Denied { mode := .multipoint, curDynTei := 70, teis := fun _ => true, teiChecks := [{ tei := 80 }] }
      (tmSendMultiai .te .request (0, 1) [allTeis])
      (handleFrame { mode := .multipoint, curDynTei := 70, teis := fun _ => true, teiChecks := [{ tei := 80 }] }
        (tmSendMultiai .te .request (0, 1) [allTeis])) := by
  constructor
  · obtain ⟨tei, first, _⟩ := (any_request_takes_first_free.1
      { mode := .multipoint, curDynTei := 70, teis := fun i => i != 1 }
      (tmSendMultiai .te .request (0, 1) [allTeis]) ⟨by decide, by decide⟩ List.nodup_nil (by decide)
      (by decide) rfl (by decide)).1 ⟨65, by decide, by decide⟩
    have only : ∀ tei : Tei, isDynamic tei →
        taken { mode := .multipoint, curDynTei := 70, teis := fun i => i != 1 } tei = false → tei = 65 := by
      decide
    obtain ⟨k, _, _, here, _⟩ := first.first
    refine ⟨tei, first, only tei ?_ first.free⟩
    rw [here]
    exact turn_dynamic _ k
  · exact (any_request_takes_first_free.1
      { mode := .multipoint, curDynTei := 70, teis := fun _ => true, teiChecks := [{ tei := 80 }] }
      (tmSendMultiai .te .request (0, 1) [allTeis]) ⟨by decide, by decide⟩ (List.nodup_singleton _) (by decide)
      (by decide) rfl (by decide)).2 fun _ _ => rfl

end Vstuff.Lapd.Ntme
