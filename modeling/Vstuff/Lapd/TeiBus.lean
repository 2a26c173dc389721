import Vstuff.Lapd.TeiFrames
import Vstuff.Lapd.TeiAssignment

/-! The assignment of TEIs between the network and the terminals of a bus. The
frames under way are lost, delayed, overtaken and received more than once, by each
device on its own; the network also hears frames of other terminals. A TEI that
the network assigns by itself is used by one socket at most, as long as the Ri values
that are drawn are new and no audit gives up a TEI that is in use. -/
namespace Vstuff.Lapd.TeiBus
open Transition
open Ntme (Tei Ri MessageType messageType tmSendMultiai isDynamic allTeis taken CursorOk)
open Utme (Users phData Answer AllKept)
set_option linter.all false

/-- The network, the entities of all terminals, and the frames under way to the one and
to the others. -/
structure Bus where
  nt : Ntme.Entity
  users : Users := {}
  up : List Octets := []
  down : List Octets := []

inductive Event where
  /-- A terminal acts. -/
  | user (e : Utme.Event)
  /-- The network acts, or hears a frame of another terminal. -/
  | network (e : Ntme.Event)
  /-- The network receives a frame under way. -/
  | up (i : Nat)
  /-- A device receives a frame under way. -/
  | down (i dev : Nat) (random : Nat → Ri)
  | loseUp (i : Nat)
  | loseDown (i : Nat)

/-- The frames of the messages the network sends. -/
def sent (nt : Ntme.Entity) : List Octets :=
  nt.out.map fun m => phData (tmSendMultiai .nt m.type m.ri [m.ai])

section Bus
variable (s : Bus)

def userStep (e : Utme.Event) : Option Bus :=
  (Utme.step s.users e).map fun users => { s with users := users, up := s.up ++ users.out.map phData }

def ntStep (e : Ntme.Event) : Option Bus :=
  (Ntme.step s.nt e).map fun nt => { s with nt := nt, down := s.down ++ sent nt }

def step : Event → Option Bus
  | .user (.frame _ _ _) => none
  | .user e => userStep s e
  | .network e => ntStep s e
  | .up i => (s.up[i]?).bind fun skb => ntStep s (.frame skb)
  | .down i dev random => (s.down[i]?).bind fun skb => userStep s (.frame dev skb random)
  | .loseUp i => some { s with up := s.up.eraseIdx i }
  | .loseDown i => some { s with down := s.down.eraseIdx i }

/-- An ASSIGNED message. -/
def Assigns (skb : Octets) : Prop := messageType skb = some .assigned

instance (skb : Octets) : Decidable (Assigns skb) := inferInstanceAs (Decidable (_ = _))

/-- The number an entity draws is that of no other request that waits, and of no answer
under way. -/
def Fresh (i : Nat) (ri : Ri) : Prop :=
  (∀ tme ∈ s.users.hash.eraseIdx i, tme.teiRequestPending = true → tme.teiRequestRi ≠ ri) ∧
    ∀ skb ∈ s.down, Assigns skb → Ntme.ri skb ≠ ri

/-- A socket uses the TEI, or an assignment of it is under way. -/
def Needed (tei : Tei) : Prop :=
  (∃ tme ∈ s.users.hash, tme.uses = some tei.val) ∨ ∃ skb ∈ s.down, Assigns skb ∧ Ntme.ai skb = tei

/-- A check that is complete has counted the dynamic TEIs that are needed. -/
def Counted (i : Nat) : Prop :=
  ∀ tc ∈ s.nt.teiChecks[i]?, tc.count = 1 → ∀ tei, isDynamic tei → Needed s tei →
    tc.responses tei 0 ≠ 0 ∨ tc.responses tei 1 ≠ 0

instance (i : Nat) (ri : Ri) : Decidable (Fresh s i ri) := inferInstanceAs (Decidable (_ ∧ _))

instance (tei : Tei) : Decidable (Needed s tei) := inferInstanceAs (Decidable (_ ∨ _))

instance (i : Nat) : Decidable (Counted s i) := inferInstanceAs (Decidable (∀ tc ∈ s.nt.teiChecks[i]?, _))

/-- What the assignment relies on. -/
def Careful : Event → Prop
  | .user (.assignIndication i ri) | .user (.t202 i ri) => Fresh s i ri
  | .network (.t201 i) => Counted s i
  | _ => True

instance (e : Event) : Decidable (Careful s e) :=
  match e with
  | .user (.assignIndication _ _) | .user (.t202 _ _) => inferInstanceAs (Decidable (Fresh ..))
  | .network (.t201 _) => inferInstanceAs (Decidable (Counted ..))
  | .user (.bind _ _) | .user (.expire _) | .user (.frame _ _ _) | .user (.teiRemove _) | .user (.disconnected _)
  | .user (.setN202 _ _) | .user (.destruct _) | .network (.frame _) | .network .audit | .network (.check _)
  | .up _ | .down _ _ _ | .loseUp _ | .loseDown _ => inferInstanceAs (Decidable True)

end Bus

/-! ## What the terminals do -/

/-- An entity that asks for nothing new and gets no dynamic TEI. -/
structure Quiet (old new : Utme.Entity) : Prop where
  uses : ∀ tei, new.uses = some tei → old.uses = some tei
  pending : new.teiRequestPending = true → old.teiRequestPending = true ∧ new.teiRequestRi = old.teiRequestRi

/-- One whose request is answered by this frame. -/
structure Taking (skb : Octets) (old new : Utme.Entity) : Prop where
  asked : old.teiRequestPending = true ∧ Ntme.ri skb = old.teiRequestRi
  done : new.teiRequestPending = false
  uses : new.uses = some (Ntme.ai skb).val

/-- What one event does to the entities. -/
inductive Change (s : Users) : Utme.Event → Users → Prop where
  | quiet {e : Utme.Event} {t : Users} (each : List.Forall₂ Quiet s.hash t.hash) : Change s e t
  | bind {dev salTei : Nat} {t : Users} {tme : Utme.Entity} (idle : tme.teiRequestPending = false)
      (static : ∀ tei, isDynamic tei → tme.uses ≠ some tei.val) (hash : t.hash = tme :: s.hash) :
      Change s (.bind dev salTei) t
  | ask {e : Utme.Event} {i : Nat} {ri : Ri} {t : Users} {old new : Utme.Entity}
      (event : e = .assignIndication i ri ∨ e = .t202 i ri) (here : s.hash[i]? = some old) (uses : new.uses = old.uses)
      (asked : new.teiRequestRi = ri) (hash : t.hash = s.hash.set i new) : Change s e t
  | answer {dev : Nat} {skb : Octets} {random : Nat → Ri} {t : Users} (type : Assigns skb)
      (each : List.Forall₂ (fun old new => Quiet old new ∨ Taking skb old new) s.hash t.hash) :
      Change s (.frame dev skb random) t

section Users
variable {s t : Users} {e : Utme.Event}

theorem Quiet.refl (tme : Utme.Entity) : Quiet tme tme := ⟨fun _ uses => uses, fun pending => ⟨pending, rfl⟩⟩

theorem quiet_remove (tme : Utme.Entity) : Quiet tme (Utme.teiRemove tme) where
  uses := fun tei uses => by
    rw [Utme.teiRemove_uses] at uses
    cases uses
  pending := fun pending => ⟨pending, rfl⟩

theorem Answer.changes {skb : Octets} {old new : Utme.Entity} (answer : Answer skb old new) :
    Quiet old new ∨ Taking skb old new := by
  cases answer with
  | same => exact .inl (.refl old)
  | remove => exact .inl (quiet_remove old)
  | take hashed pending asked => exact .inr ⟨⟨pending, asked⟩, rfl, Utme.assign_uses hashed⟩

theorem quiet_removeTei (dev tei : Nat) (hash : List Utme.Entity) :
    List.Forall₂ Quiet hash (Utme.removeTei dev tei hash) := by
  unfold Utme.removeTei
  rw [List.forall₂_map_right_iff, List.forall₂_same]
  intro tme _
  split
  · exact quiet_remove tme
  · exact .refl tme

/-- One entity acts quietly. -/
theorem quiet_act {i : Nat} {may : Utme.Entity → Bool} {f : Utme.Entity → Utme.Entity × List Octets}
    (quiet : ∀ tme, Quiet tme (f tme).1) (took : s.act i may f = some t) : List.Forall₂ Quiet s.hash t.hash := by
  obtain ⟨tme, here, -, rfl⟩ := Utme.act_eq_some.mp took
  exact Pointwise.set Quiet.refl here (quiet tme)

theorem user_change (took : Utme.step s e = some t) : Change s e t := by
  have still : List.Forall₂ Quiet s.hash s.hash := List.forall₂_same.mpr fun tme _ => Quiet.refl tme
  cases e with
  | bind dev salTei =>
    simp only [Utme.step] at took
    split at took
    · cases took
      refine @Change.bind _ _ _ _ (Utme.bind dev salTei) ?_ ?_ rfl
      · unfold Utme.bind
        dsimp only
        split <;> rfl
      · intro tei dynamic uses
        unfold Utme.bind at uses
        dsimp only at uses
        split at uses
        · rename_i static
          rw [Utme.assignStaticTei, Utme.assign_uses (by rfl)] at uses
          have := dynamic.1
          simp only [Option.some.injEq, Ntme.maxStaTei, Ntme.minDynTei] at *
          omega
        · cases uses
    · cases took
  | assignIndication i ri =>
    obtain ⟨tme, here, -, rfl⟩ := Utme.act_eq_some.mp took
    exact .ask (.inl rfl) here (Utme.mdlAssignIndication_uses ri) rfl rfl
  | expire i =>
    exact .quiet (quiet_act (fun tme => ⟨fun _ uses => uses, fun pending => ⟨pending, rfl⟩⟩) took)
  | t202 i ri =>
    obtain ⟨tme, here, -, rfl⟩ := Utme.act_eq_some.mp took
    by_cases last : tme.retransCnt ≥ tme.n202
    · refine .quiet (Pointwise.set Quiet.refl here ⟨fun tei uses => ?_, fun pending => ?_⟩)
      · rwa [Utme.t202Timer_uses] at uses
      · rw [Utme.t202Timer, if_pos last] at pending
        cases pending
    · refine .ask (.inr rfl) here (Utme.t202Timer_uses ri) ?_ rfl
      rw [Utme.t202Timer, if_neg last]
      rfl
  | frame dev skb random =>
    change Utme.handleFrame s dev skb random = some t at took
    unfold Utme.handleFrame at took
    split at took
    · split at took
      · rename_i type
        cases took
        exact .answer type ((Utme.handleTeiAssigned_each dev skb s.hash).imp fun _ _ answer => Answer.changes answer)
      · obtain ⟨out, -, rfl⟩ := Option.map_eq_some_iff.mp took
        exact .quiet still
      · cases took
        exact .quiet (quiet_removeTei dev _ s.hash)
      · cases took
        exact .quiet still
    · cases took
      exact .quiet still
  | teiRemove i => exact .quiet (quiet_act quiet_remove took)
  | disconnected dev =>
    cases took
    exact .quiet (quiet_removeTei dev _ s.hash)
  | setN202 i n202 =>
    simp only [Utme.step] at took
    split at took
    · exact .quiet (quiet_act (fun tme => ⟨fun _ uses => uses, fun pending => ⟨pending, rfl⟩⟩) took)
    · cases took
  | destruct i =>
    refine .quiet (quiet_act (fun tme => ⟨fun _ uses => ?_, fun pending => ⟨pending, rfl⟩⟩) took)
    cases uses

end Users

/-! ## What the network does -/

section Network
variable {s t : Ntme.Entity} {e : Ntme.Event}

/-- What is assigned is assigned to the request. -/
theorem handleTeiRequest_assigned (cursor : CursorOk s) (skb : Octets) :
    ∀ m ∈ (Ntme.handleTeiRequest { s with out := [] } skb).out, m.type = .assigned → m.ri = Ntme.ri skb := by
  unfold Ntme.handleTeiRequest
  intro m member type
  split at member
  · cases (Ntme.tmSend_calm _ (by simp) _ _).assigns m member type
  · split at member
    · cases member
    · split at member
      · cases (Ntme.tmSend_calm _ (by simp) _ _).assigns m member type
      · split at member
        · rename_i after tei found
          obtain ⟨-, -, rfl⟩ := Ntme.findTei_some _ { s with out := [] } cursor found
          rw [List.mem_singleton.mp member]
        · rename_i after failed
          have calm := (Ntme.findTei_none _ _ failed).1.trans
            (Ntme.tmSend_calm after (t := .denied) (by simp) (Ntme.ri skb) (Ntme.ai skb))
          have checks := Ntme.Calm.foldl (fun tme i => Ntme.startTeiCheck tme (Fin.ofNat 128 (Ntme.minDynTei + i)))
            (fun s _ => Ntme.startTeiCheck_calm s _) (List.range Ntme.numDynTeis)
            (Ntme.tmSend after .denied (Ntme.ri skb) (Ntme.ai skb))
          cases (calm.trans checks).assigns m member type

/-- The end of a window assigns nothing. -/
theorem tcT201Timer_assigned (s : Ntme.Entity) (i : Nat) :
    ∀ m ∈ (Ntme.tcT201Timer s i).out, m.type = .assigned → m ∈ s.out := by
  unfold Ntme.tcT201Timer
  cases s.teiChecks[i]? with
  | none => exact fun m member _ => member
  | some tc =>
    dsimp only
    obtain ⟨first, -⟩ := Ntme.tcCheckAll_first tc s
    obtain ⟨-, -, second, -⟩ := Ntme.tcCheckAll_second tc s
    split
    · split
      · intro m member type
        obtain old | new := List.mem_append.mp member
        · exact first.assigns m old type
        · rw [List.mem_singleton.mp new] at type
          cases type
      · exact first.assigns
    · exact second

/-- Only a request is answered with an assignment, which carries its Ri. -/
theorem assigned_ri (cursor : CursorOk s) (took : Ntme.step s e = some t) :
    ∀ m ∈ t.out, m.type = .assigned → ∃ skb, e = .frame skb ∧ m.ri = Ntme.ri skb := by
  unfold Ntme.step at took
  split at took
  · cases took
    intro m member type
    have none (tei : Tei) (sent : m ∈ (Ntme.startTeiCheck { s with out := [] } tei).out) :
        ∃ skb, e = .frame skb ∧ m.ri = Ntme.ri skb := by
      cases (Ntme.startTeiCheck_calm { s with out := [] } tei).assigns m sent type
    cases e with
    | frame skb =>
      refine ⟨skb, rfl, ?_⟩
      simp only [Ntme.perform, Ntme.handleFrame] at member
      split at member
      · split at member
        · cases member
        · unfold Ntme.handleTeiVerify at member
          split at member
          · cases member
          · cases (Ntme.startTeiCheck_calm { s with out := [] } _).assigns m member type
        · exact handleTeiRequest_assigned cursor skb m member type
        · cases member
      · cases member
    | audit => exact none _ member
    | check tei => exact none tei member
    | t201 i => cases tcT201Timer_assigned { s with out := [] } i m member type
  · cases took

/-- The table and the assignments after one event. -/
structure Served (s : Ntme.Entity) (e : Ntme.Event) (t : Ntme.Entity) : Prop where
  cursor : CursorOk t
  /-- An entry is given up by a check that is complete only. -/
  kept : ∀ tei, isDynamic tei → taken s tei = true → taken t tei = true ∨
    ∃ i tc, e = .t201 i ∧ s.teiChecks[i]? = some tc ∧ tc.count = 1 ∧ tc.responses tei 0 = 0 ∧ tc.responses tei 1 = 0
  assigned : ∀ m ∈ t.out, m.type = .assigned → isDynamic m.ai ∧ taken s m.ai = false ∧ taken t m.ai = true
  once : ∀ m ∈ t.out, ∀ m' ∈ t.out, m.type = .assigned → m'.type = .assigned → m.ri = m'.ri

theorem nt_serves (cursor : CursorOk s) (took : Ntme.step s e = some t) : Served s e t := by
  have once : ∀ m ∈ t.out, ∀ m' ∈ t.out, m.type = .assigned → m'.type = .assigned → m.ri = m'.ri := by
    intro m member m' member' type type'
    obtain ⟨skb, rfl, same⟩ := assigned_ri cursor took m member type
    obtain ⟨_, event, same'⟩ := assigned_ri cursor took m' member' type'
    cases event
    exact same.trans same'.symm
  have quiet : (∀ m ∈ t.out, m.type ≠ .assigned) →
      ∀ m ∈ t.out, m.type = .assigned → isDynamic m.ai ∧ taken s m.ai = false ∧ taken t m.ai = true :=
    fun none m member type => absurd type (none m member)
  cases Ntme.step_change cursor took with
  | calm same =>
    refine ⟨same.cursor cursor, fun tei _ held => .inl ?_, quiet fun m member type => ?_, once⟩
    · rw [Ntme.taken, same.teis]
      exact held
    · cases same.assigns m member type
  | assign dynamic free now moved others only checks =>
    refine ⟨moved, fun tei _ held => .inl (others tei held), fun m member _ => ?_, once⟩
    rw [only m member]
    exact ⟨dynamic, free, now⟩
  | respond accepted type =>
    exact ⟨cursor, fun _ _ held => .inl held, quiet (fun m member => by cases member), once⟩
  | again this audit same checks =>
    refine ⟨same.cursor cursor, fun tei _ held => .inl ?_, quiet fun m member type => ?_, once⟩
    · have teis := same.teis
      dsimp only at teis
      rw [Ntme.taken, teis]
      exact held
    · cases same.assigns m member type
  | @finish i tc _ this second kept moved none checks =>
    refine ⟨moved cursor, fun tei dynamic held => ?_, quiet none, once⟩
    exact (kept tei dynamic held).imp_right fun unused => ⟨i, tc, rfl, this, second, unused.1, unused.2⟩

end Network

/-! ## The assignment -/

/-- Two entities that ask with different numbers and use different TEIs. -/
structure Apart (a b : Utme.Entity) : Prop where
  asked : a.teiRequestPending = true → b.teiRequestPending = true → a.teiRequestRi ≠ b.teiRequestRi
  uses : ∀ tei, isDynamic tei → a.uses = some tei.val → b.uses ≠ some tei.val

theorem Apart.symm {a b : Utme.Entity} (apart : Apart a b) : Apart b a where
  asked := fun pending pending' => (apart.asked pending' pending).symm
  uses := fun tei dynamic uses uses' => apart.uses tei dynamic uses' uses

/-- What holds at any time: a TEI that is used or on its way is taken, it is on its way
with one number only, and nobody waits for this number any more once it is used. -/
structure Safe (s : Bus) : Prop where
  cursor : CursorOk s.nt
  carried : ∀ skb ∈ s.down, Assigns skb → isDynamic (Ntme.ai skb) ∧ taken s.nt (Ntme.ai skb) = true
  single : ∀ skb ∈ s.down, ∀ skb' ∈ s.down, Assigns skb → Assigns skb' →
    Ntme.ai skb = Ntme.ai skb' → Ntme.ri skb = Ntme.ri skb'
  used : ∀ tme ∈ s.users.hash, ∀ tei, isDynamic tei → tme.uses = some tei.val → taken s.nt tei = true
  finished : ∀ skb ∈ s.down, Assigns skb → ∀ tme ∈ s.users.hash, tme.uses = some (Ntme.ai skb).val →
    ∀ other ∈ s.users.hash, other.teiRequestPending = true → other.teiRequestRi ≠ Ntme.ri skb
  apart : s.users.hash.Pairwise Apart

section Safe
variable {s t : Bus}

/-- Frames get lost. -/
theorem Safe.lose (safe : Safe s) {up down : List Octets} (fewer : down ⊆ s.down) :
    Safe { s with up := up, down := down } where
  cursor := safe.cursor
  carried := fun skb member => safe.carried skb (fewer member)
  single := fun skb member skb' member' => safe.single skb (fewer member) skb' (fewer member')
  used := safe.used
  finished := fun skb member => safe.finished skb (fewer member)
  apart := safe.apart

/-- The network serves an event and gives up nothing that is needed. -/
theorem Safe.served (safe : Safe s) {e : Ntme.Event} {nt : Ntme.Entity} (served : Served s.nt e nt)
    (spared : ∀ tei, isDynamic tei → Needed s tei → taken s.nt tei = true → taken nt tei = true) :
    Safe { s with nt := nt, down := s.down ++ sent nt } := by
  have either {skb : Octets} (member : skb ∈ s.down ++ sent nt) (type : Assigns skb) :
      skb ∈ s.down ∨ ∃ m ∈ nt.out, m.type = .assigned ∧ Ntme.ai skb = m.ai ∧ Ntme.ri skb = m.ri := by
    refine (List.mem_append.mp member).imp_right fun new => ?_
    obtain ⟨m, there, rfl⟩ := List.mem_map.mp new
    unfold Assigns at type
    rw [Utme.messageType_phData] at type
    exact ⟨m, there, Option.some.inj type, Utme.ai_phData .nt m.type m.ri, rfl⟩
  refine ⟨served.cursor, ?_, ?_, ?_, ?_, safe.apart⟩
  · intro skb member type
    obtain old | ⟨m, there, assigned, same, -⟩ := either member type
    · obtain ⟨dynamic, entry⟩ := safe.carried skb old type
      exact ⟨dynamic, spared _ dynamic (.inr ⟨skb, old, type, rfl⟩) entry⟩
    · rw [same]
      obtain ⟨dynamic, -, now⟩ := served.assigned m there assigned
      exact ⟨dynamic, now⟩
  · intro skb member skb' member' type type' same
    obtain old | ⟨m, there, assigned, value, number⟩ := either member type <;>
      obtain old' | ⟨m', there', assigned', value', number'⟩ := either member' type'
    · exact safe.single skb old skb' old' type type' same
    · -- what is assigned now was free, and what is on its way was not
      have entry := (safe.carried skb old type).2
      rw [same, value', (served.assigned m' there' assigned').2.1] at entry
      cases entry
    · have entry := (safe.carried skb' old' type').2
      rw [← same, value, (served.assigned m there assigned).2.1] at entry
      cases entry
    · rw [number, number']
      exact served.once m there m' there' assigned assigned'
  · intro tme member tei dynamic uses
    exact spared tei dynamic (.inl ⟨tme, member, uses⟩) (safe.used tme member tei dynamic uses)
  · intro skb member type tme there uses
    obtain old | ⟨m, sent, assigned, value, -⟩ := either member type
    · exact safe.finished skb old type tme there uses
    · obtain ⟨dynamic, free, -⟩ := served.assigned m sent assigned
      have entry := safe.used tme there m.ai dynamic (by rw [← value]; exact uses)
      rw [free] at entry
      cases entry

/-- The terminals act, and what they rely on holds. -/
theorem Safe.changed (safe : Safe s) {e : Utme.Event} {users : Users} (change : Change s.users e users)
    (careful : Careful s (.user e)) (frame : ∀ dev skb random, e = .frame dev skb random → skb ∈ s.down) (up : List Octets) :
    Safe { s with users := users, up := up } := by
  cases change with
  | quiet each =>
    refine ⟨safe.cursor, safe.carried, safe.single, ?_, ?_, ?_⟩
    · intro tme member tei dynamic uses
      obtain ⟨old, there, quiet⟩ := Pointwise.mem_right each member
      exact safe.used old there tei dynamic (quiet.uses _ uses)
    · intro skb member type tme there uses other there' pending
      obtain ⟨old, was, quiet⟩ := Pointwise.mem_right each there
      obtain ⟨old', was', quiet'⟩ := Pointwise.mem_right each there'
      obtain ⟨waited, same⟩ := quiet'.pending pending
      rw [same]
      exact safe.finished skb member type old was (quiet.uses _ uses) old' was' waited
    · refine Pointwise.pairwise each (fun a _ b _ a' b' quiet quiet' apart => ⟨?_, ?_⟩) safe.apart
      · intro pending pending'
        rw [(quiet.pending pending).2, (quiet'.pending pending').2]
        exact apart.asked (quiet.pending pending).1 (quiet'.pending pending').1
      · exact fun tei dynamic uses uses' => apart.uses tei dynamic (quiet.uses _ uses) (quiet'.uses _ uses')
  | @bind dev salTei _ tme idle static hash =>
    refine ⟨safe.cursor, safe.carried, safe.single, ?_, ?_, ?_⟩
    · intro other member tei dynamic uses
      change other ∈ users.hash at member
      rw [hash] at member
      obtain rfl | old := List.mem_cons.mp member
      · exact absurd uses (static tei dynamic)
      · exact safe.used other old tei dynamic uses
    · intro skb member type other there uses waiting there' pending
      change other ∈ users.hash at there
      change waiting ∈ users.hash at there'
      rw [hash] at there there'
      obtain rfl | old := List.mem_cons.mp there
      · exact absurd uses (static _ (safe.carried skb member type).1)
      · obtain rfl | old' := List.mem_cons.mp there'
        · rw [idle] at pending
          cases pending
        · exact safe.finished skb member type other old uses waiting old' pending
    · change users.hash.Pairwise Apart
      rw [hash]
      refine List.pairwise_cons.mpr ⟨fun other _ => ⟨fun pending => ?_, fun tei dynamic uses => ?_⟩, safe.apart⟩
      · rw [idle] at pending
        cases pending
      · exact absurd uses (static tei dynamic)
  | @ask _ i ri _ old new event here uses asked hash =>
    have fresh : Fresh s i ri := by
      obtain rfl | rfl := event <;> exact careful
    have either {tme : Utme.Entity} (member : tme ∈ users.hash) : tme ∈ s.users.hash ∨ tme = new := by
      rw [hash] at member
      exact List.mem_or_eq_of_mem_set member
    have there : old ∈ s.users.hash := List.mem_of_getElem? here
    refine ⟨safe.cursor, safe.carried, safe.single, ?_, ?_, ?_⟩
    · intro tme member tei dynamic inUse
      obtain was | rfl := either member
      · exact safe.used tme was tei dynamic inUse
      · rw [uses] at inUse
        exact safe.used old there tei dynamic inUse
    · intro skb member type tme member' inUse other member'' pending
      obtain was' | rfl := either member''
      · obtain was | rfl := either member'
        · exact safe.finished skb member type tme was inUse other was' pending
        · rw [uses] at inUse
          exact safe.finished skb member type old there inUse other was' pending
      · rw [asked]
        exact (fresh.2 skb member type).symm
    · change users.hash.Pairwise Apart
      rw [hash]
      refine Pointwise.pairwise_set safe.apart fun other member => ?_
      have before := Pointwise.others safe.apart (fun _ _ => Apart.symm) here other member
      have apart : Apart other new := by
        refine ⟨fun pending _ => ?_, fun tei dynamic inUse inUse' => ?_⟩
        · rw [asked]
          exact fresh.1 other member pending
        · rw [uses] at inUse'
          exact before.uses tei dynamic inUse inUse'
      exact ⟨apart, apart.symm⟩
  | @answer dev skb random _ type each =>
    have here : skb ∈ s.down := frame dev skb random rfl
    refine ⟨safe.cursor, safe.carried, safe.single, ?_, ?_, ?_⟩
    · intro tme member tei dynamic uses
      obtain ⟨old, there, quiet | taking⟩ := Pointwise.mem_right each member
      · exact safe.used old there tei dynamic (quiet.uses _ uses)
      · rw [taking.uses, Option.some.injEq] at uses
        rw [← Fin.ext uses]
        exact (safe.carried skb here type).2
    · intro skb' member type' tme there uses other there' pending
      have waits {old : Utme.Entity} (changed : Quiet old other ∨ Taking skb old other) :
          old.teiRequestPending = true ∧ other.teiRequestRi = old.teiRequestRi := by
        obtain quiet | taking := changed
        · exact quiet.pending pending
        · rw [taking.done] at pending
          cases pending
      by_cases same : tme = other
      · subst same
        obtain ⟨old, was, changed⟩ := Pointwise.mem_right each there
        obtain ⟨waited, number⟩ := waits changed
        obtain quiet | taking := changed
        · rw [number]
          exact safe.finished skb' member type' old was (quiet.uses _ uses) old was waited
        · rw [taking.done] at pending
          cases pending
      · obtain ⟨a, was, b, was', first, second, apart⟩ :=
          Pointwise.two_right each safe.apart (fun _ _ => Apart.symm) there there' same
        obtain ⟨waited, number⟩ := waits second
        rw [number]
        obtain quiet | taking := first
        · exact safe.finished skb' member type' a was (quiet.uses _ uses) b was' waited
        · -- the one that waits is not the one that has just been answered
          rw [taking.uses, Option.some.injEq] at uses
          rw [← safe.single skb here skb' member type type' (Fin.ext uses), taking.asked.2]
          exact (apart.asked taking.asked.1 waited).symm
    · refine Pointwise.pairwise each (fun a member b member' a' b' first second apart => ?_) safe.apart
      -- nobody uses the TEI that one of them takes
      have unused (x y : Utme.Entity) (there : x ∈ s.users.hash) (there' : y ∈ s.users.hash)
          (asked : x.teiRequestPending = true ∧ Ntme.ri skb = x.teiRequestRi) (uses : y.uses = some (Ntme.ai skb).val) : False :=
        safe.finished skb here type y there' uses x there asked.1 asked.2.symm
      obtain quiet | taking := first <;> obtain quiet' | taking' := second
      · refine ⟨fun pending pending' => ?_, fun tei dynamic uses uses' => ?_⟩
        · rw [(quiet.pending pending).2, (quiet'.pending pending').2]
          exact apart.asked (quiet.pending pending).1 (quiet'.pending pending').1
        · exact apart.uses tei dynamic (quiet.uses _ uses) (quiet'.uses _ uses')
      · refine ⟨fun _ pending' => ?_, fun tei dynamic uses uses' => ?_⟩
        · rw [taking'.done] at pending'
          cases pending'
        · rw [taking'.uses] at uses'
          rw [← uses'] at uses
          exact unused b a member' member taking'.asked (quiet.uses _ uses)
      · refine ⟨fun pending _ => ?_, fun tei dynamic uses uses' => ?_⟩
        · rw [taking.done] at pending
          cases pending
        · rw [taking.uses] at uses
          rw [← uses] at uses'
          exact unused a b member member' taking.asked (quiet'.uses _ uses')
      · exact absurd (taking.asked.2.symm.trans taking'.asked.2) (apart.asked taking.asked.1 taking'.asked.1)

theorem step_user {e : Utme.Event} (took : step s (.user e) = some t) :
    userStep s e = some t ∧ ∀ dev skb random, e ≠ .frame dev skb random := by
  cases e with
  | frame => cases took
  | _ => exact ⟨took, fun _ _ _ same => by cases same⟩

theorem Safe.userStep (safe : Safe s) {e : Utme.Event} (careful : Careful s (.user e))
    (frame : ∀ dev skb random, e = .frame dev skb random → skb ∈ s.down) (took : userStep s e = some t) : Safe t := by
  obtain ⟨users, acted, rfl⟩ := Option.map_eq_some_iff.mp took
  exact safe.changed (user_change acted) careful frame _

theorem Safe.ntStep (safe : Safe s) {e : Ntme.Event} (counted : ∀ i, e = .t201 i → Counted s i)
    (took : ntStep s e = some t) : Safe t := by
  obtain ⟨nt, acted, rfl⟩ := Option.map_eq_some_iff.mp took
  have served := nt_serves safe.cursor acted
  refine safe.served served fun tei dynamic needed entry => ?_
  obtain still | ⟨i, tc, event, this, second, zero, zero'⟩ := served.kept tei dynamic entry
  · exact still
  · obtain some | some := counted i event tc this second tei dynamic needed
    · exact absurd zero some
    · exact absurd zero' some

theorem safe_step {e : Event} (safe : Safe s) (careful : Careful s e) (took : step s e = some t) : Safe t := by
  cases e with
  | user e =>
    obtain ⟨acted, other⟩ := step_user took
    exact safe.userStep careful (fun dev skb random frame => absurd frame (other dev skb random)) acted
  | network e =>
    refine safe.ntStep (fun i event => ?_) took
    subst event
    exact careful
  | up i =>
    obtain ⟨skb, -, acted⟩ := Option.bind_eq_some_iff.mp took
    exact safe.ntStep (fun i event => by cases event) acted
  | down i dev random =>
    obtain ⟨skb, there, acted⟩ := Option.bind_eq_some_iff.mp took
    refine safe.userStep (e := .frame dev skb random) trivial (fun dev' skb' random' frame => ?_) acted
    cases frame
    exact List.mem_of_getElem? there
  | loseUp i =>
    cases took
    exact safe.lose (List.Subset.refl _)
  | loseDown i =>
    cases took
    exact safe.lose (List.eraseIdx_subset ..)

end Safe

/-! ## Runs -/

/-- Before anybody has bound a socket. -/
structure Start (s : Bus) : Prop where
  nt : Ntme.Init s.nt
  users : s.users = {}
  frames : s.up = [] ∧ s.down = []

section Runs
variable {s t : Bus} {es : List Event}

theorem Start.safe (start : Start s) : Safe s := by
  obtain ⟨fresh, users, -, down⟩ := start
  refine ⟨fresh.cursor, ?_, ?_, ?_, ?_, ?_⟩ <;> simp [users, down]

theorem allKept_step {e : Event} (kept : AllKept s.users) (took : step s e = some t) : AllKept t.users := by
  have user {e : Utme.Event} (happened : userStep s e = some t) : AllKept t.users := by
    obtain ⟨users, acted, rfl⟩ := Option.map_eq_some_iff.mp happened
    exact Utme.allKept_step kept acted
  have network {e : Ntme.Event} (happened : ntStep s e = some t) : AllKept t.users := by
    obtain ⟨nt, -, rfl⟩ := Option.map_eq_some_iff.mp happened
    exact kept
  cases e with
  | user e => exact user (step_user took).1
  | network e => exact network took
  | up i =>
    obtain ⟨skb, -, acted⟩ := Option.bind_eq_some_iff.mp took
    exact network acted
  | down i dev random =>
    obtain ⟨skb, -, acted⟩ := Option.bind_eq_some_iff.mp took
    exact user acted
  | loseUp i | loseDown i =>
    cases took
    exact kept

theorem Start.reaches (start : Start s) (run : Run step Careful s es t) : Safe t ∧ AllKept t.users := by
  refine run.invariant (fun s => Safe s ∧ AllKept s.users) ?_ ⟨start.safe, ?_⟩
  · rintro s t e ⟨safe, kept⟩ careful took
    exact ⟨safe_step safe careful took, allKept_step kept took⟩
  · rw [start.users]
    exact fun tme member => by cases member

/-- In every run, whatever is lost, late, overtaken or received twice, no two sockets
use the same dynamic TEI, and the network has every dynamic TEI in use in its table. -/
theorem dynamic_teis_are_not_shared (start : Start s) (run : Run step Careful s es t) :
    t.users.hash.Pairwise (fun a b => ∀ tei, isDynamic tei → a.uses = some tei.val → b.uses ≠ some tei.val) ∧
    ∀ tme ∈ t.users.hash, ∀ tei, isDynamic tei → tme.uses = some tei.val → taken t.nt tei = true := by
  obtain ⟨safe, -⟩ := start.reaches run
  exact ⟨safe.apart.imp fun apart => apart.uses, safe.used⟩

/-- Two terminals get their TEIs; one assignment is received twice, and late. -/
def twoTerminals : List Event :=
  [.user (.bind 0 255), .user (.bind 1 255), .user (.assignIndication 0 (1, 1)), .user (.assignIndication 1 (2, 2)),
    .up 1, .up 0, .down 1 1 (fun _ => (0, 0)), .down 0 0 (fun _ => (0, 0)), .down 0 1 (fun _ => (0, 0)),
    .down 1 1 (fun _ => (0, 0))]

theorem two_terminals_get_two_teis :
    ∃ t, Run step Careful { nt := { mode := .multipoint, curDynTei := 126 } } twoTerminals t ∧
      t.users.hash.map (·.uses) = [none, some 64] ∧
      t.users.hash.Pairwise (fun a b => ∀ tei, isDynamic tei → a.uses = some tei.val → b.uses ≠ some tei.val) := by
  have start : Start { nt := { mode := .multipoint, curDynTei := 126 } } :=
    ⟨⟨⟨by decide, by decide⟩, fun _ => rfl, rfl⟩, rfl, rfl, rfl⟩
  have done : (follow step Careful { nt := { mode := .multipoint, curDynTei := 126 } } twoTerminals).any fun (t : Bus) =>
      t.users.hash.map (·.uses) = [none, some 64] := by
    decide +kernel
  obtain ⟨t, followed, uses⟩ := Option.any_eq_true _ _ |>.mp done
  have run := follow_run step Careful _ twoTerminals followed
  exact ⟨t, run, of_decide_eq_true uses, (dynamic_teis_are_not_shared start run).1⟩

end Runs

/-! ## A request that is heard -/

/-- The frame of an entity that asks for a TEI. -/
def requestFrame (ri : Ri) : Octets := phData (tmSendMultiai .te .request ri [allTeis])

/-- The frame that assigns one. -/
def assignedFrame (ri : Ri) (tei : Tei) : Octets := phData (tmSendMultiai .nt .assigned ri [tei])

/-- The frame means nothing to this entity of the device. -/
def Deaf (dev : Nat) (skb : Octets) (tme : Utme.Entity) : Prop :=
  tme.hashed = true → tme.dev = dev →
    ¬ (tme.state ≠ .unassigned ∧ (Ntme.ai skb).val = tme.tei) ∧ ¬ (tme.teiRequestPending ∧ Ntme.ri skb = tme.teiRequestRi)

section Answers
variable {s t : Bus} {dev i j : Nat} {skb : Octets} {hash : List Utme.Entity} {tme : Utme.Entity} {es : List Event}

theorem handleTeiAssigned_deaf (deaf : ∀ tme ∈ hash, Deaf dev skb tme) : Utme.handleTeiAssigned dev skb hash = hash := by
  induction hash with
  | nil => rfl
  | cons tme rest ih =>
    have later := ih fun other member => deaf other (List.mem_cons_of_mem tme member)
    unfold Utme.handleTeiAssigned
    rw [later]
    split
    · rfl
    · rename_i here
      simp only [not_or, Bool.not_eq_false, not_not] at here
      obtain ⟨held, asked⟩ := deaf tme List.mem_cons_self here.1 here.2
      rw [if_neg held, if_neg asked]

/-- Only the entity that waits for the answer takes it. -/
theorem handleTeiAssigned_set (skb : Octets) (here : hash[i]? = some tme) (deaf : ∀ other ∈ hash.eraseIdx i, Deaf tme.dev skb other)
    (hashed : tme.hashed = true) (unassigned : tme.state = .unassigned)
    (asked : tme.teiRequestPending = true ∧ Ntme.ri skb = tme.teiRequestRi) :
    Utme.handleTeiAssigned tme.dev skb hash = hash.set i (Utme.assign tme (Ntme.ai skb).val) := by
  induction hash generalizing i with
  | nil => cases here
  | cons first rest ih =>
    unfold Utme.handleTeiAssigned
    cases i with
    | zero =>
      cases here
      rw [if_neg (by simp [hashed]), if_neg (by simp [unassigned]), if_pos asked]
      rfl
    | succ i =>
      rw [List.eraseIdx_cons_succ] at deaf
      have later := ih here fun other member => deaf other (List.mem_cons_of_mem first member)
      rw [later, List.set_cons_succ]
      split
      · rfl
      · rename_i present
        simp only [not_or, Bool.not_eq_false, not_not] at present
        obtain ⟨held, waits⟩ := deaf first List.mem_cons_self present.1 present.2
        rw [if_neg held, if_neg waits]

/-- An entity with a TEI is deaf to the assignment of one that is free. -/
theorem deaf_holder (safe : Safe t) (kept : AllKept t.users) {tei : Tei} (dynamic : isDynamic tei) (free : taken t.nt tei = false)
    {other : Utme.Entity} (member : other ∈ t.users.hash) (hashed : other.hashed = true) :
    ¬ (other.state ≠ .unassigned ∧ tei.val = other.tei) := by
  rintro ⟨has, same⟩
  have assigned : other.state = .assigned := by
    cases state : other.state with
    | unassigned => exact absurd state has
    | assigned => rfl
  have uses := ((kept other member).told hashed assigned).1
  rw [← same] at uses
  have entry := safe.used other member tei dynamic uses
  rw [free] at entry
  cases entry

/-- The answer to the request is received by a device. -/
theorem answer_received (ri : Ri) (tei : Tei) (random : Nat → Ri) {u : Bus}
    (there : u.down[j]? = some (assignedFrame ri tei)) :
    ∃ v, step u (.down j dev random) = some v ∧
      v.users.hash = Utme.handleTeiAssigned dev (assignedFrame ri tei) u.users.hash := by
  have accepted : Utme.accepts (assignedFrame ri tei) := Utme.accepts_phData .nt .assigned ri (List.cons_ne_nil tei [])
  refine ⟨{ u with
    users := { hash := Utme.handleTeiAssigned dev (assignedFrame ri tei) u.users.hash }
    up := u.up ++ [] }, ?_, rfl⟩
  simp only [step, there, Option.bind_some, userStep, Utme.step, Utme.handleFrame, if_pos accepted,
    show messageType (assignedFrame ri tei) = some .assigned from Utme.messageType_phData .nt .assigned ri]
  rfl

/-- Once a request has reached the network, and a TEI is free, the first free TEI is on
its way back, and the entity that asked takes it, and nobody else: on every other device
the answer changes nothing. -/
theorem request_heard_is_granted (start : Start s) (run : Run step Careful s es t) (here : t.users.hash[i]? = some tme)
    (hashed : tme.hashed = true) (pending : tme.teiRequestPending = true)
    (request : t.up[j]? = some (requestFrame tme.teiRequestRi))
    (multipoint : t.nt.mode = .multipoint) (free : ∃ tei, isDynamic tei ∧ taken t.nt tei = false) :
    ∃ tei u, Ntme.FirstFree t.nt tei ∧ step t (.up j) = some u ∧
      (∀ random, ∃ v, step u (.down t.down.length tme.dev random) = some v ∧
        v.users.hash = t.users.hash.set i (Utme.assign tme tei.val)) ∧
      ∀ other, other ≠ tme.dev → ∀ random, ∃ v, step u (.down t.down.length other random) = some v ∧
        v.users.hash = t.users.hash := by
  obtain ⟨safe, kept⟩ := start.reaches run
  have accepted : Utme.accepts (requestFrame tme.teiRequestRi) :=
    Utme.accepts_phData .te .request tme.teiRequestRi (List.cons_ne_nil allTeis [])
  have any : Ntme.ai (requestFrame tme.teiRequestRi) = allTeis :=
    Utme.ai_phData .te .request tme.teiRequestRi
  obtain ⟨tei, first, served⟩ := Ntme.request_assigned (s := { t.nt with out := [] }) safe.cursor accepted.1 rfl multipoint any free
  have dynamic : isDynamic tei := by
    obtain ⟨k, -, -, turn, -⟩ := first.first
    rw [turn]
    exact Ntme.turn_dynamic _ k
  have asked : step t (.up j) = some { t with
      nt := Ntme.handleFrame { t.nt with out := [] } (requestFrame tme.teiRequestRi)
      down := t.down ++ [assignedFrame tme.teiRequestRi tei] } := by
    simp only [step, request, Option.bind_some, ntStep, Ntme.step, Ntme.enabled, Ntme.perform, sent, served]
    rfl
  refine ⟨tei, _, ⟨first.free, first.first⟩, asked, fun random => ?_, fun other apart random => ?_⟩
  all_goals
    have numbers := Pointwise.others safe.apart (fun _ _ => Apart.symm) here
    obtain ⟨v, took, after⟩ := answer_received tme.teiRequestRi tei random (u := { t with
      nt := Ntme.handleFrame { t.nt with out := [] } (requestFrame tme.teiRequestRi)
      down := t.down ++ [assignedFrame tme.teiRequestRi tei] }) List.getElem?_concat_length
    refine ⟨v, took, after.trans ?_⟩
  · have value : Ntme.ai (assignedFrame tme.teiRequestRi tei) = tei :=
      Utme.ai_phData .nt .assigned tme.teiRequestRi
    have set := handleTeiAssigned_set (assignedFrame tme.teiRequestRi tei) here ?_ hashed
      ((kept tme (List.mem_of_getElem? here)).waits pending).1 ⟨pending, rfl⟩
    · rw [value] at set
      exact set
    · intro other member present _
      rw [value]
      refine ⟨deaf_holder safe kept dynamic first.free (List.mem_of_mem_eraseIdx member) present, fun waits => ?_⟩
      exact (numbers other member).asked waits.1 pending waits.2.symm
  · refine handleTeiAssigned_deaf fun entity member present device => ?_
    have value : Ntme.ai (assignedFrame tme.teiRequestRi tei) = tei :=
      Utme.ai_phData .nt .assigned tme.teiRequestRi
    rw [value]
    refine ⟨deaf_holder safe kept dynamic first.free member present, fun waits => ?_⟩
    obtain ⟨k, place⟩ := List.mem_iff_getElem?.mp member
    have elsewhere : k ≠ i := by
      rintro rfl
      rw [here] at place
      cases place
      exact apart device.symm
    exact (numbers entity (List.mem_eraseIdx_iff_getElem?.mpr ⟨k, elsewhere, place⟩)).asked waits.1 pending waits.2.symm

end Answers

/-- The second terminal has asked, and its request has been received once already. -/
def secondAsks : List Event :=
  [.user (.bind 0 255), .user (.bind 1 255), .user (.assignIndication 0 (1, 1)), .up 0]

theorem second_request_is_granted :
    ∃ t tme tei u, Run step Careful { nt := { mode := .multipoint, curDynTei := 126 } } secondAsks t ∧
      Ntme.FirstFree t.nt tei ∧ step t (.up 0) = some u ∧
        ∀ random, ∃ v, step u (.down t.down.length tme.dev random) = some v ∧
          v.users.hash = t.users.hash.set 0 (Utme.assign tme tei.val) := by
  have start : Start { nt := { mode := .multipoint, curDynTei := 126 } } :=
    ⟨⟨⟨by decide, by decide⟩, fun _ => rfl, rfl⟩, rfl, rfl, rfl⟩
  have done : (follow step Careful { nt := { mode := .multipoint, curDynTei := 126 } } secondAsks).any fun (t : Bus) =>
      t.nt.mode = .multipoint ∧ Ntme.taken t.nt 70 = false ∧ (t.users.hash[0]?).any fun tme =>
        tme.hashed ∧ tme.teiRequestPending ∧ t.up[0]? = some (requestFrame tme.teiRequestRi) := by
    decide +kernel
  obtain ⟨t, followed, facts⟩ := Option.any_eq_true _ _ |>.mp done
  obtain ⟨multipoint, free, first⟩ := of_decide_eq_true facts
  obtain ⟨tme, here, entity⟩ := Option.any_eq_true _ _ |>.mp first
  obtain ⟨hashed, pending, request⟩ := of_decide_eq_true entity
  have run := follow_run step Careful _ secondAsks followed
  obtain ⟨tei, u, first, asked, granted, -⟩ :=
    request_heard_is_granted start run here hashed pending request multipoint ⟨70, by decide, free⟩
  exact ⟨t, tme, tei, u, run, first, asked, granted⟩

end Vstuff.Lapd.TeiBus
