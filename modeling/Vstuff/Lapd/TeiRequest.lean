import Vstuff.Lapd.TeiMgmtTe
import Vstuff.Lib.Pointwise
import Mathlib.Algebra.Ring.Int.Defs

/-! The requests of the user side. Each entity counts its references and its
requests; a request that waits for its answer has T202 running, so that it ends, and
an entity that has a TEI is one whose socket has been told so. -/
namespace Vstuff.Lapd.Utme
open Transition
open Ntme (Tei Ri messageType tmSendMultiai aiOctets aiValues aiValue allTeis)
set_option linter.all false

/-! ## What the socket has been told -/

section Told
variable {tme : Entity} {tei : Nat} {told : List MdlPrimitive}

@[simp] theorem inUse_assign : inUse (told ++ [.assignRequest tei]) = some tei := by
  simp [inUse]

@[simp] theorem inUse_remove : inUse (told ++ [.removeRequest]) = none := by
  simp [inUse]

@[simp] theorem inUse_error : inUse (told ++ [.errorResponse]) = inUse told := by
  simp [inUse]

theorem uses_hashed (uses : tme.uses = some tei) : tme.hashed = true := by
  unfold Entity.uses at uses
  split at uses
  · assumption
  · cases uses

theorem assign_uses (hashed : tme.hashed = true) : (assign tme tei).uses = some tei := by
  simp [assign, mdlPrimitive, stopTimer, Entity.uses, hashed]

@[simp] theorem teiRemove_uses : (teiRemove tme).uses = none := by
  by_cases hashed : tme.hashed = true <;> simp [teiRemove, mdlPrimitive, Entity.uses, hashed]

@[simp] theorem mdlAssignIndication_uses (ri : Ri) : (mdlAssignIndication tme ri).1.uses = tme.uses := rfl

@[simp] theorem t202Timer_uses (ri : Ri) : (t202Timer tme ri).1.uses = tme.uses := by
  unfold t202Timer
  split
  · by_cases hashed : tme.hashed = true <;> simp [mdlPrimitive, put, Entity.uses, hashed]
  · rfl

end Told

/-! ## One entity -/

/-- What holds of an entity at any time. -/
structure Kept (tme : Entity) : Prop where
  /-- The references are those of the socket and of the list, of the timer and of its handler. -/
  counted : tme.refcnt =
    (if tme.hashed then 2 else 0) + (if tme.t202 then 1 else 0) + (if tme.firing then 1 else 0)
  /-- A request that waits for its answer is timed. -/
  timed : tme.teiRequestPending = true → tme.t202 = true ∨ tme.firing = true
  /-- It is the last one that was sent, and there is no TEI meanwhile. -/
  waits : tme.teiRequestPending = true →
    tme.state = .unassigned ∧ tme.asked.getLast? = some tme.teiRequestRi
  asked : tme.asked.length = tme.retransCnt
  bound : tme.retransCnt ≤ maxN202 ∧ tme.n202 ≤ maxN202
  told : tme.hashed = true → tme.state = .assigned → tme.uses = some tme.tei ∧ tme.tei < 128

section Kept
variable {tme : Entity} {tei : Nat}

theorem kept_alloc (dev : Nat) : Kept (get { dev := dev }) where
  counted := rfl
  timed := fun pending => by cases pending
  waits := fun pending => by cases pending
  asked := rfl
  bound := by simp [get, maxN202]
  told := fun _ has => by cases has

theorem Kept.assign (held : Kept tme) (range : tei < 128) : Kept (assign tme tei) where
  counted := by
    have counted := held.counted
    simp only [Utme.assign, mdlPrimitive, stopTimer]
    grind
  timed := fun pending => by cases pending
  waits := fun pending => by cases pending
  asked := held.asked
  bound := held.bound
  told := fun hashed _ => ⟨assign_uses hashed, range⟩

theorem Kept.teiRemove (held : Kept tme) : Kept (teiRemove tme) where
  counted := held.counted
  timed := held.timed
  waits := fun pending => ⟨rfl, (held.waits pending).2⟩
  asked := held.asked
  bound := held.bound
  told := fun _ has => by cases has

theorem Kept.mdlAssignIndication (held : Kept tme) (ri : Ri) : Kept (mdlAssignIndication tme ri).1 where
  counted := by
    have counted := held.counted
    simp only [Utme.mdlAssignIndication, sendTeiRequest, resetTimer]
    grind
  timed := fun _ => .inl rfl
  waits := fun _ => ⟨rfl, rfl⟩
  asked := rfl
  bound := ⟨show 0 + 1 ≤ maxN202 by decide, held.bound.2⟩
  told := fun _ has => by cases has

theorem Kept.expire (held : Kept tme) (pending : tme.t202 = true) (free : tme.firing = false) :
    Kept { tme with t202 := false, firing := true } where
  counted := by
    have counted := held.counted
    simp only [pending, free] at counted ⊢
    grind
  timed := fun _ => .inr rfl
  waits := held.waits
  asked := held.asked
  bound := held.bound
  told := held.told

theorem Kept.t202Timer (held : Kept tme) (firing : tme.firing = true) (ri : Ri) : Kept (t202Timer tme ri).1 := by
  have counted := held.counted
  have uses : (Utme.t202Timer tme ri).1.uses = tme.uses := t202Timer_uses ri
  unfold Utme.t202Timer at uses ⊢
  split
  · refine ⟨?_, ?_, ?_, held.asked, held.bound, ?_⟩
    · simp only [put, mdlPrimitive]
      grind
    · exact fun pending => by cases pending
    · exact fun pending => by cases pending
    · exact fun _ has => by cases has
  · rename_i more
    rw [if_neg more] at uses
    refine ⟨?_, fun _ => .inl rfl, ?_, ?_, ⟨?_, held.bound.2⟩, ?_⟩
    · simp only [put, sendTeiRequest, resetTimer]
      grind
    · intro pending
      exact ⟨(held.waits pending).1, by simp [put, sendTeiRequest, resetTimer]⟩
    · simp [put, sendTeiRequest, resetTimer, held.asked]
    · have := held.bound.2
      simp only [put, sendTeiRequest, resetTimer]
      omega
    · intro hashed has
      rw [uses]
      exact held.told hashed has

theorem Kept.destruct (held : Kept tme) (hashed : tme.hashed = true) : Kept (destruct tme) where
  counted := by
    have counted := held.counted
    simp only [hashed, Utme.destruct, put] at counted ⊢
    grind
  timed := held.timed
  waits := held.waits
  asked := held.asked
  bound := held.bound
  told := fun alive => by cases alive

theorem Kept.bind (dev salTei : Nat) : Kept (bind dev salTei) := by
  unfold Utme.bind
  dsimp only
  split
  · rename_i static
    exact (kept_alloc dev).assign (static.trans_lt (by decide))
  · exact kept_alloc dev

end Kept

/-! ## All entities -/

/-- What a frame about an assignment does to an entity. -/
inductive Answer (skb : Octets) : Entity → Entity → Prop where
  | same (tme : Entity) : Answer skb tme tme
  | remove (tme : Entity) : Answer skb tme (teiRemove tme)
  | take {tme : Entity} (hashed : tme.hashed = true) (pending : tme.teiRequestPending = true)
      (asked : Ntme.ri skb = tme.teiRequestRi) : Answer skb tme (assign tme (Ntme.ai skb).val)

theorem handleTeiAssigned_each (dev : Nat) (skb : Octets) (hash : List Entity) :
    List.Forall₂ (Answer skb) hash (handleTeiAssigned dev skb hash) := by
  induction hash with
  | nil => exact .nil
  | cons tme rest ih =>
    unfold handleTeiAssigned
    split
    · exact .cons (.same tme) ih
    · rename_i here
      split
      · exact .cons (.remove tme) ih
      · split
        · rename_i wanted
          refine .cons (.take ?_ wanted.1 wanted.2) (List.forall₂_same.mpr fun tme _ => .same tme)
          simp only [not_or, Bool.not_eq_false] at here
          exact here.1
        · exact .cons (.same tme) ih

theorem mem_removeTei {dev tei : Nat} {hash : List Entity} {tme : Entity} (member : tme ∈ removeTei dev tei hash) :
    ∃ old ∈ hash, tme = old ∨ tme = teiRemove old := by
  obtain ⟨old, there, rfl⟩ := List.mem_map.mp member
  refine ⟨old, there, ?_⟩
  split
  · exact .inr rfl
  · exact .inl rfl

/-- An entity that acts is one that may. -/
theorem act_eq_some {s t : Users} {i : Nat} {may : Entity → Bool} {f : Entity → Entity × List Octets} :
    s.act i may f = some t ↔
      ∃ tme, s.hash[i]? = some tme ∧ may tme = true ∧ t = { hash := s.hash.set i (f tme).1, out := (f tme).2 } := by
  unfold Users.act
  rw [Option.bind_eq_some_iff]
  constructor
  · rintro ⟨tme, here, acted⟩
    split at acted
    · rename_i allowed
      exact ⟨tme, here, allowed, (Option.some.inj acted).symm⟩
    · cases acted
  · rintro ⟨tme, here, allowed, rfl⟩
    exact ⟨tme, here, if_pos allowed⟩

/-- Every entity of the list is kept. -/
def AllKept (s : Users) : Prop := ∀ tme ∈ s.hash, Kept tme

section All
variable {s t : Users} {e : Event}

theorem AllKept.act (held : AllKept s) {i : Nat} {may : Entity → Bool} {f : Entity → Entity × List Octets}
    (each : ∀ tme, Kept tme → may tme = true → Kept (f tme).1) (took : s.act i may f = some t) : AllKept t := by
  obtain ⟨tme, here, allowed, rfl⟩ := act_eq_some.mp took
  intro other member
  obtain old | rfl := List.mem_or_eq_of_mem_set member
  · exact held other old
  · exact each tme (held tme (List.mem_of_getElem? here)) allowed

theorem AllKept.removeTei (held : AllKept s) (dev tei : Nat) : ∀ tme ∈ removeTei dev tei s.hash, Kept tme := by
  intro tme member
  obtain ⟨old, there, rfl | rfl⟩ := mem_removeTei member
  · exact held tme there
  · exact (held old there).teiRemove

theorem AllKept.handleFrame (held : AllKept s) {dev : Nat} {skb : Octets} {random : Nat → Ri}
    (took : handleFrame s dev skb random = some t) : AllKept t := by
  unfold Utme.handleFrame at took
  split at took
  · split at took
    · cases took
      intro tme member
      obtain ⟨old, there, answer⟩ := Pointwise.mem_right (handleTeiAssigned_each dev skb s.hash) member
      cases answer with
      | same => exact held tme there
      | remove => exact (held old there).teiRemove
      | take => exact (held old there).assign (Ntme.ai skb).isLt
    · obtain ⟨out, -, rfl⟩ := Option.map_eq_some_iff.mp took
      exact held
    · cases took
      exact held.removeTei dev _
    · cases took
      exact held
  · cases took
    exact held

theorem allKept_step (held : AllKept s) (took : step s e = some t) : AllKept t := by
  cases e with
  | bind dev salTei =>
    simp only [step] at took
    split at took
    · cases took
      intro tme member
      obtain rfl | old := List.mem_cons.mp member
      · exact .bind dev salTei
      · exact held tme old
    · cases took
  | assignIndication i ri => exact held.act (fun tme kept _ => kept.mdlAssignIndication ri) took
  | expire i =>
    refine held.act (fun tme kept may => ?_) took
    simp only [Bool.and_eq_true, Bool.not_eq_true'] at may
    exact kept.expire may.1 may.2
  | t202 i ri => exact held.act (fun tme kept firing => kept.t202Timer firing ri) took
  | frame dev skb random => exact held.handleFrame took
  | teiRemove i => exact held.act (fun tme kept _ => kept.teiRemove) took
  | disconnected dev =>
    cases took
    exact held.removeTei dev broadcastTei
  | setN202 i n202 =>
    simp only [step] at took
    split at took
    · rename_i range
      refine held.act (fun tme kept _ => ?_) took
      exact { kept with bound := ⟨kept.bound.1, range⟩ }
    · cases took
  | destruct i => exact held.act (fun tme kept hashed => kept.destruct hashed) took

end All

/-! ## A request without an answer -/

/-- T202 expires and its handler runs, once for each number drawn. -/
def rounds (i : Nat) (ris : List Ri) : List Event := ris.flatMap fun ri => [.expire i, .t202 i ri]

section Rounds
variable {s t : Users} {i : Nat} {tme : Entity}

/-- The expired timer leaves the list to its handler. -/
theorem round_run (here : s.hash[i]? = some tme) (timed : tme.t202 = true) (idle : tme.firing = false) (ri : Ri) :
    ∃ t, Run step Any s [.expire i, .t202 i ri] t ∧
      t.hash = s.hash.set i (t202Timer { tme with t202 := false, firing := true } ri).1 := by
  obtain ⟨bound, -⟩ := List.getElem?_eq_some_iff.mp here
  have first : step s (.expire i) = some { hash := s.hash.set i { tme with t202 := false, firing := true } } :=
    act_eq_some.mpr ⟨tme, here, by simp [timed, idle], rfl⟩
  have there := List.getElem?_set_self (a := { tme with t202 := false, firing := true }) bound
  have last : step { hash := s.hash.set i { tme with t202 := false, firing := true } } (.t202 i ri) = some _ :=
    act_eq_some.mpr ⟨_, there, rfl, rfl⟩
  exact ⟨_, .cons trivial first (.cons trivial last (.nil _)), List.set_set ..⟩

/-- One more request. -/
theorem round_asks (here : s.hash[i]? = some tme) (timed : tme.t202 = true) (idle : tme.firing = false)
    (more : tme.retransCnt < tme.n202) (ri : Ri) :
    ∃ t, Run step Any s [.expire i, .t202 i ri] t ∧ t.hash = s.hash.set i { tme with
      retransCnt := tme.retransCnt + 1, teiRequestRi := ri, asked := tme.asked ++ [ri] } := by
  obtain ⟨t, run, after⟩ := round_run here timed idle ri
  refine ⟨t, run, ?_⟩
  rw [after, t202Timer, if_neg (by simpa using more)]
  simp [put, resetTimer, sendTeiRequest, timed, idle]

/-- The last expiry. -/
theorem round_ends (here : s.hash[i]? = some tme) (timed : tme.t202 = true) (idle : tme.firing = false)
    (enough : tme.n202 ≤ tme.retransCnt) (ri : Ri) :
    ∃ t, Run step Any s [.expire i, .t202 i ri] t ∧ t.hash = s.hash.set i (put (mdlPrimitive { tme with
      t202 := false, state := .unassigned, teiRequestPending := false, teiRequestRi := (0, 0) } .errorResponse)) := by
  obtain ⟨t, run, after⟩ := round_run here timed idle ri
  refine ⟨t, run, ?_⟩
  rw [after, t202Timer, if_pos enough]
  simp [put, mdlPrimitive, idle]

/-- What is left of a request nobody answered. -/
structure Ended (tme : Entity) (ris : List Ri) (ended : Entity) : Prop where
  finished : ended.teiRequestPending = false ∧ ended.t202 = false ∧ ended.firing = false
  asked : ended.asked = tme.asked ++ ris
  told : tme.hashed = true → ended.told = tme.told ++ [.errorResponse]
  state : ended.state = .unassigned

/-- The requests that are left are sent, and with the next expiry the socket is told. -/
theorem rounds_end (ris : List Ri) (last : Ri) : ∀ {s : Users} {tme : Entity}, s.hash[i]? = some tme → tme.t202 = true →
    tme.firing = false → ris.length = tme.n202 - tme.retransCnt →
      ∃ t ended, Run step Any s (rounds i (ris ++ [last])) t ∧ t.hash = s.hash.set i ended ∧ Ended tme ris ended := by
  induction ris with
  | nil =>
    intro s tme here timed idle length
    have enough : tme.n202 ≤ tme.retransCnt := Nat.sub_eq_zero_iff_le.mp length.symm
    obtain ⟨t, run, after⟩ := round_ends here timed idle enough last
    refine ⟨t, _, run, after, ⟨rfl, rfl, idle⟩, by simp [put, mdlPrimitive], fun hashed => ?_, rfl⟩
    simp [put, mdlPrimitive, hashed]
  | cons ri ris ih =>
    intro s tme here timed idle length
    rw [List.length_cons] at length
    obtain ⟨mid, run, after⟩ := round_asks here timed idle (by omega) ri
    obtain ⟨bound, -⟩ := List.getElem?_eq_some_iff.mp here
    have there : mid.hash[i]? = some { tme with
        retransCnt := tme.retransCnt + 1, teiRequestRi := ri, asked := tme.asked ++ [ri] } := by
      rw [after]
      exact List.getElem?_set_self bound
    obtain ⟨t, ended, rest, last, result⟩ := ih there timed idle (by dsimp only; omega)
    refine ⟨t, ended, run.append rest, ?_, result.finished, ?_, result.told, result.state⟩
    · rw [last, after, List.set_set]
    · rw [result.asked]
      simp

end Rounds

/-! ## Runs -/

/-- In every run, whatever the order of frames, expiries, sockets and options, an
entity has a reference for each of its users and none else, so that it is freed when
the last one is gone; a request that waits for its answer is timed and the last of at
most 30; and an entity with a TEI is one whose socket was told this TEI last. -/
theorem waiting_requests_are_timed {es : List Event} {t : Users} (run : Run step Any {} es t) :
    ∀ tme ∈ t.hash, Kept tme ∧ tme.asked.length ≤ maxN202 ∧
      (tme.refcnt = 0 ↔ tme.hashed = false ∧ tme.t202 = false ∧ tme.firing = false) := by
  have all : AllKept t := run.invariant AllKept (fun held _ took => allKept_step held took) fun tme member => by cases member
  intro tme member
  have kept := all tme member
  refine ⟨kept, kept.asked.trans_le kept.bound.1, ?_⟩
  rw [kept.counted]
  grind

/-- A terminal asks, asks again, and gives up its socket while it waits. -/
theorem abandoned_request_is_timed :
    ∃ t, Run step Any {} [.bind 0 255, .assignIndication 0 (1, 1), .expire 0, .t202 0 (2, 2), .destruct 0] t ∧
      ∀ tme ∈ t.hash, Kept tme ∧ tme.asked.length ≤ maxN202 ∧
        (tme.refcnt = 0 ↔ tme.hashed = false ∧ tme.t202 = false ∧ tme.firing = false) := by
  have run := follow_run step Any {}
    [.bind 0 255, .assignIndication 0 (1, 1), .expire 0, .t202 0 (2, 2), .destruct 0] rfl
  exact ⟨_, run, waiting_requests_are_timed run⟩

/-- Nothing keeps a request waiting: in every state reached, if only T202 goes on
expiring, the entity sends the requests that are left up to N202, and with the
expiry after the last of them its socket is told of the error. Nobody else is
touched. -/
theorem unanswered_request_ends {before : List Event} {s : Users} {i : Nat} {tme : Entity}
    (reached : Run step Any {} before s) (here : s.hash[i]? = some tme) (pending : tme.teiRequestPending = true)
    (idle : tme.firing = false) (ris : List Ri) (left : ris.length = tme.n202 - tme.retransCnt) (last : Ri) :
    tme.asked.length + ris.length ≤ maxN202 ∧
      ∃ t ended, Run step Any s (rounds i (ris ++ [last])) t ∧ t.hash = s.hash.set i ended ∧ Ended tme ris ended := by
  have all : AllKept s := reached.invariant AllKept (fun held _ took => allKept_step held took) fun tme member => by cases member
  have kept := all tme (List.mem_of_getElem? here)
  refine ⟨?_, rounds_end ris last here ((kept.timed pending).resolve_right (by simp [idle])) idle left⟩
  have bound := kept.bound
  have asked := kept.asked
  omega

/-- Nobody answers the three requests of a new terminal. -/
theorem new_terminal_gives_up :
    ∃ s t ended, Run step Any {} [.bind 0 255, .assignIndication 0 (1, 1)] s ∧
      Run step Any s (rounds 0 [(2, 2), (3, 3), (4, 4)]) t ∧ t.hash = s.hash.set 0 ended ∧
      ended.asked = [(1, 1), (2, 2), (3, 3)] := by
  have reached := follow_run step Any {} [.bind 0 255, .assignIndication 0 (1, 1)] rfl
  obtain ⟨-, t, ended, run, after, result⟩ :=
    unanswered_request_ends reached (i := 0) rfl rfl rfl [(2, 2), (3, 3)] rfl (4, 4)
  exact ⟨_, t, ended, reached, run, after, result.asked⟩

end Vstuff.Lapd.Utme
