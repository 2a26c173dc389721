import Vstuff.Lib.Cyclic
import Vstuff.Q931.Channels
import Vstuff.Vgsm.Monitor
import Mathlib.Data.List.Rotate

/-! The hunt groups of the two drivers (`chan_vgsm/huntgroup.c`, `chan_visdn/huntgroup.c`): a
call is offered to one member after another. What a member is, and when it is free, is all in
which they differ. -/
namespace Vstuff.HuntGroup
set_option linter.all false

variable {ι σ : Type}

/-- Whether `strcasecmp` gives 0. -/
def strcasecmp (a b : List Char) : Bool := a.map Char.toLower = b.map Char.toLower

inductive Mode where
  | sequential | cyclic
  deriving DecidableEq, Repr

/-- `struct vgsm_huntgroup` and `struct visdn_huntgroup`, with the interfaces of the members; a
member is where it stands in the list. An interface is made when none has its name. -/
structure Group (name : ι → List Char) where
  mode : Mode
  members : List ι
  current_member : Option (Fin members.length)
  distinct : (members.map fun m => (name m).map Char.toLower).Nodup

variable {name : ι → List Char}

/-- What a call returns, what it leaves behind, and the interfaces it has tried. -/
structure Answer (name : ι → List Char) where
  found : Option ι
  group : Group name
  tried : List ι

inductive Outcome (name : ι → List Char) where
  | answer (answer : Answer name)
  /-- A member is looked at that is not there. -/
  | fault
  | unfinished

namespace Group

variable (hg : Group name)

/-- `vgsm_hg_find_member`, `visdn_hg_find_member`. -/
def findMember (text : List Char) : Option (Fin hg.members.length) :=
  hg.members.findFinIdx? fun m => strcasecmp (name m) text

/-- `vgsm_hg_next_member`, `visdn_hg_next_member`. -/
def nextMember (cur_memb : Fin hg.members.length) : Fin hg.members.length :=
  if inside : cur_memb.val + 1 < hg.members.length then ⟨cur_memb.val + 1, inside⟩
  else ⟨0, cur_memb.pos⟩

theorem members_nodup : hg.members.Nodup := hg.distinct.of_map _

theorem nextMember_val (i : Fin hg.members.length) : (hg.nextMember i).val = Cyclic.step 0 hg.members.length i.val := by
  unfold nextMember Cyclic.step
  rw [Nat.zero_add]
  split <;> rfl

theorem rotate_nextMember (i : Fin hg.members.length) :
    hg.members.rotate (hg.nextMember i) = hg.members.rotate (i + 1) := by
  have val : (hg.nextMember i).val = (i.val + 1) % hg.members.length := by
    rw [nextMember_val, Cyclic.step, Nat.zero_add]
    split
    · next inside => rw [Nat.mod_eq_of_lt inside]
    · rw [show i.val + 1 = hg.members.length by omega, Nat.mod_self]
  rw [val, List.rotate_mod]

/-- The member with the name of a member is this one. -/
theorem findMember_name {i : Fin hg.members.length} : hg.findMember (name hg.members[i]) = some i := by
  rw [findMember, List.findFinIdx?_eq_some_iff]
  refine ⟨by simp [strcasecmp], fun j before same => ?_⟩
  have inj := List.nodup_iff_injective_getElem.mp hg.distinct
  simp only [strcasecmp, decide_eq_true_eq] at same
  have eq := @inj ⟨j, by simp⟩ ⟨i, by simp⟩ (by simpa using same)
  simp only [Fin.mk.injEq] at eq
  omega

/-- Where the search begins; without an answer the member behind NULL is asked for. -/
def startingMember (some_member : 0 < hg.members.length) : Option ι → Option (Fin hg.members.length)
  | some cur => (hg.findMember (name cur)).map hg.nextMember
  | none =>
    match hg.mode, hg.current_member with
    | .cyclic, some current => some (hg.nextMember current)
    | _, _ => some ⟨0, some_member⟩

/-- The members in the order of a new search: from the head, or from behind the current member. -/
def ring : List ι :=
  match hg.mode, hg.current_member with
  | .cyclic, some current => hg.members.drop (current + 1) ++ hg.members.take (current + 1)
  | _, _ => hg.members

theorem startingMember_none (some_member : 0 < hg.members.length) :
    ∃ starting, hg.startingMember some_member none = some starting ∧ hg.members.rotate starting = hg.ring := by
  have head : hg.members.rotate 0 = hg.members := List.rotate_zero _
  cases mode : hg.mode with
  | sequential =>
    simp only [startingMember, ring, mode]
    exact ⟨_, rfl, head⟩
  | cyclic =>
    cases remembered : hg.current_member with
    | none =>
      simp only [startingMember, ring, mode, remembered]
      exact ⟨_, rfl, head⟩
    | some current =>
      simp only [startingMember, ring, mode, remembered]
      refine ⟨_, rfl, ?_⟩
      rw [rotate_nextMember, List.rotate_eq_drop_append_take current.isLt]

/-- Where a member comes first in the circle, the search from behind it goes through the others and
ends with it. -/
theorem startingMember_some {x : List ι} {c : ι} (some_member : 0 < hg.members.length) (turned : hg.members.IsRotated (c :: x)) :
    ∃ starting, hg.startingMember some_member (some c) = some starting ∧ hg.members.rotate starting = x ++ [c] := by
  obtain ⟨k, rotated⟩ := turned
  have inside : k % hg.members.length < hg.members.length := Nat.mod_lt _ some_member
  have head : hg.members[(⟨k % hg.members.length, inside⟩ : Fin hg.members.length)] = c := by
    have first := List.getElem_rotate hg.members k 0 (by simpa using some_member)
    simp only [rotated, List.getElem_cons_zero, Nat.zero_add] at first
    exact first.symm
  refine ⟨_, by rw [startingMember, ← head, findMember_name, Option.map_some], ?_⟩
  rw [rotate_nextMember, ← List.rotate_rotate, List.rotate_mod, rotated]
  simp

variable [DecidableEq ι]

/-- The loop, from a member on. -/
def trying (available : ι → Bool) (first : Option ι) (starting : Fin hg.members.length) :
    Nat → Fin hg.members.length → Option (Answer name)
  | 0, _ => none
  | fuel + 1, hgm =>
    let me := hg.members[hgm]
    if first = some me then some { found := none, group := hg, tried := [me] }
    else if available me then
      some { found := some me, group := { hg with current_member := some hgm }, tried := [me] }
    else
      let next := hg.nextMember hgm
      if next = starting then some { found := none, group := hg, tried := [me] }
      else (trying available first starting fuel next).map fun answer => { answer with tried := me :: answer.tried }

/-- `vgsm_hg_hunt` and `visdn_hg_hunt`, but for what makes an interface free. -/
def hunt (fuel : Nat) (available : ι → Bool) (cur first : Option ι) : Outcome name :=
  if some_member : 0 < hg.members.length then
    match hg.startingMember some_member cur with
    | none => .fault
    | some starting =>
      match hg.trying available first starting fuel starting with
      | none => .unfinished
      | some answer => .answer answer
  else .answer { found := none, group := hg, tried := [] }

end Group

/-- `enum vgsm_net_status`. -/
inductive NetStatus where
  | notSearching | notRegistered | registeredHome | unknown | registrationDenied | registeredRoaming
  deriving DecidableEq, Repr

/-- What `vgsm_hg_hunt` reads in a `struct vgsm_me`. -/
structure Me where
  status : Vgsm.Monitor.MeStatus
  vgsm_chan : Option Nat
  net_status : NetStatus

def Me.free (me : Me) : Bool :=
  me.status = .ready ∧ me.vgsm_chan = none ∧
    (me.net_status = .registeredHome ∨ me.net_status = .registeredRoaming)

/-- What `visdn_hg_hunt` reads in a `struct visdn_intf`: the channels, where there is a
`struct q931_interface`. -/
structure Intf where
  q931_intf : Option (List Q931.Call.ChannelState)

def Intf.free (intf : Intf) : Bool :=
  match intf.q931_intf with
  | some channels => channels.any (· = .available)
  | none => false

variable [DecidableEq ι]

def vgsmHgHunt (fuel : Nat) (me : ι → Me) (hg : Group name) (cur_me first_me : Option ι) : Outcome name :=
  hg.hunt fuel (fun m => (me m).free) cur_me first_me

def visdnHgHunt (fuel : Nat) (intf : ι → Intf) (hg : Group name) (cur_intf first_intf : Option ι) : Outcome name :=
  hg.hunt fuel (fun m => (intf m).free) cur_intf first_intf

/-! ## What a search gives -/

section Search
variable (first : Option ι) (available : ι → Bool)

/-- The first free one of some interfaces, but none from the first one of the hunt on. -/
def pick : List ι → Option ι
  | [] => none
  | m :: rest => if first = some m then none else if available m then some m else pick rest

/-- As many of them as are looked at for that. -/
def seen : List ι → List ι
  | [] => []
  | m :: rest => if first = some m ∨ available m then [m] else m :: seen rest

variable {first : Option ι} {available : ι → Bool} {l rest : List ι} {m : ι}

theorem pick_append_first {other : ι} (away : other ∉ l) :
    pick (some other) available (l ++ other :: rest) = l.find? available := by
  induction l with
  | nil => simp [pick]
  | cons m l ih =>
    rw [List.mem_cons, not_or] at away
    obtain ⟨ne, away⟩ := away
    rw [List.cons_append, pick, if_neg (by simpa using ne), List.find?_cons, ih away]
    cases available m <;> rfl

theorem pick_none : pick none available l = l.find? available := by
  induction l with
  | nil => rfl
  | cons m l ih =>
    rw [pick, if_neg (by simp), List.find?_cons, ih]
    cases available m <;> rfl

/-- Where all are busy, all are looked at. -/
theorem seen_append_first {other : ι} (away : other ∉ l) (busy : ∀ m ∈ l, available m = false) :
    seen (some other) available (l ++ other :: rest) = l ++ [other] := by
  induction l with
  | nil => simp [seen]
  | cons m l ih =>
    rw [List.mem_cons, not_or] at away
    obtain ⟨ne, away⟩ := away
    have own := busy m List.mem_cons_self
    rw [List.cons_append, seen, if_neg (by simpa [own] using ne), ih away fun x member => busy x (List.mem_cons_of_mem _ member)]
    rfl

theorem seen_none (busy : ∀ m ∈ l, available m = false) : seen none available l = l := by
  induction l with
  | nil => rfl
  | cons m l ih =>
    have own := busy m List.mem_cons_self
    rw [seen, if_neg (by simp [own]), ih fun x member => busy x (List.mem_cons_of_mem _ member)]

theorem seen_append_free (away : first ∉ l.map some) (busy : ∀ x ∈ l, available x = false) (free : available m = true) :
    seen first available (l ++ m :: rest) = l ++ [m] := by
  induction l with
  | nil => simp [seen, free]
  | cons x l ih =>
    rw [List.map_cons, List.mem_cons, not_or] at away
    have own := busy x List.mem_cons_self
    rw [List.cons_append, seen, if_neg (by simpa [own] using away.1), ih away.2 fun x member => busy x (List.mem_cons_of_mem _ member)]
    rfl

theorem seen_isPrefix : seen first available l <+: l := by
  induction l with
  | nil => exact List.prefix_refl _
  | cons m l ih =>
    rw [seen]
    split
    · exact List.prefix_append [m] l
    · exact (List.prefix_cons_inj m).mpr ih

end Search

namespace Group

variable {hg : Group name} {available : ι → Bool} {cur first : Option ι} {fuel : Nat}

/-- The answer is that of a search through some interfaces. -/
structure Gives (hg : Group name) (first : Option ι) (available : ι → Bool) (l : List ι) (answer : Answer name) : Prop where
  found : answer.found = pick first available l
  tried : answer.tried = seen first available l
  members : answer.group.members = hg.members

/-- The loop searches through the members from the one where it began round to the one before. -/
theorem trying_gives (available : ι → Bool) (first : Option ι) (starting : Fin hg.members.length) {hgm : Fin hg.members.length} {j : Nat}
    (inside : j < hg.members.length) (at_j : hgm.val = (Cyclic.step 0 hg.members.length)^[j] starting.val)
    (enough : hg.members.length ≤ fuel + j) :
    ∃ answer, hg.trying available first starting fuel hgm = some answer ∧
      hg.Gives first available ((hg.members.rotate starting).drop j) answer := by
  have on : Cyclic.On 0 hg.members.length starting.val := ⟨Nat.zero_le _, by simp⟩
  induction fuel generalizing j hgm with
  | zero => omega
  | succ fuel ih =>
    have me : (hg.members.rotate starting).get ⟨j, by simpa using inside⟩ = hg.members[hgm] := by
      have place : hgm.val = (j + starting.val) % hg.members.length := by
        rw [at_j, Cyclic.iterate_eq on, Nat.zero_add, Nat.sub_zero, Nat.add_comm]
      rw [List.get_eq_getElem, List.getElem_rotate, Fin.getElem_fin]
      simp only [place]
    have split_at : (hg.members.rotate starting).drop j = hg.members[hgm] :: (hg.members.rotate starting).drop (j + 1) := by
      rw [← me]
      exact List.drop_eq_getElem_cons _
    have next : (hg.nextMember hgm).val = (Cyclic.step 0 hg.members.length)^[j + 1] starting.val := by
      rw [nextMember_val, at_j, Function.iterate_succ_apply']
    rw [split_at, trying]
    dsimp only
    by_cases is_first : first = some hg.members[hgm]
    · rw [if_pos is_first]
      refine ⟨_, rfl, ?_, ?_, rfl⟩
      · rw [pick, if_pos is_first]
      · rw [seen, if_pos (.inl is_first)]
    rw [if_neg is_first]
    by_cases free : available hg.members[hgm] = true
    · rw [if_pos free]
      refine ⟨_, rfl, ?_, ?_, rfl⟩
      · rw [pick, if_neg is_first, if_pos free]
      · rw [seen, if_pos (.inr free)]
    rw [if_neg free]
    by_cases last : j + 1 = hg.members.length
    · have round : hg.nextMember hgm = starting := by
        apply Fin.ext
        rw [next, last, Cyclic.iterate_eq on, Nat.zero_add, Nat.sub_zero, Nat.add_mod_right, Nat.mod_eq_of_lt starting.isLt]
      have none_left : (hg.members.rotate starting).drop (j + 1) = [] := by
        rw [List.drop_eq_nil_iff, List.length_rotate, last]
      rw [if_pos round, none_left]
      refine ⟨_, rfl, ?_, ?_, rfl⟩
      · rw [pick, if_neg is_first, if_neg free, pick]
      · rw [seen, if_neg (not_or.mpr ⟨is_first, free⟩), seen]
    · have onward : hg.nextMember hgm ≠ starting := by
        intro back
        have far := Cyclic.dist_iterate on (j + 1)
        have near := Cyclic.dist_iterate on 0
        rw [Function.iterate_zero_apply] at near
        rw [← next, back, near, Nat.zero_mod, Nat.mod_eq_of_lt (by omega)] at far
        omega
      rw [if_neg onward]
      obtain ⟨answer, more, gives⟩ := ih (by omega) next (by omega)
      rw [more]
      refine ⟨_, rfl, ?_, ?_, gives.members⟩
      · rw [pick, if_neg is_first, if_neg free]
        exact gives.found
      · rw [seen, if_neg (not_or.mpr ⟨is_first, free⟩)]
        exact congrArg (hg.members[hgm] :: ·) gives.tried

/-- A call from a member on, or from the beginning. -/
theorem hunt_gives (available : ι → Bool) (first : Option ι) {l : List ι} {cur : Option ι} (enough : hg.members.length ≤ fuel) (some_member : 0 < hg.members.length)
    {starting : Fin hg.members.length} (start : hg.startingMember some_member cur = some starting)
    (turned : hg.members.rotate starting = l) :
    ∃ answer, hg.hunt fuel available cur first = .answer answer ∧ hg.Gives first available l answer := by
  obtain ⟨answer, tried, gives⟩ := hg.trying_gives available first starting
    (j := 0) some_member rfl (show hg.members.length ≤ fuel + 0 from enough)
  rw [List.drop_zero, turned] at gives
  exact ⟨answer, by rw [hunt, dif_pos some_member, start]; simp [tried], gives⟩

end Group

/-! ## A hunt -/

section Hunts

variable (call : σ → Group name → Option ι → Option ι → Outcome name)

/-- Calls one after the other, each from the interface found before on, up to the one that finds
none: what they find, and what they try. -/
inductive Calls (first : ι) : (Nat → σ) → Group name → ι → List ι → List ι → Prop
  | last {s hg cur answer} (done : call (s 0) hg (some cur) (some first) = .answer answer) (none_left : answer.found = none) :
      Calls first s hg cur [] answer.tried
  | next {s hg cur answer m found tried} (done : call (s 0) hg (some cur) (some first) = .answer answer)
      (one : answer.found = some m) (rest : Calls first (fun k => s (k + 1)) answer.group m found tried) :
      Calls first s hg cur (m :: found) (answer.tried ++ tried)

variable (free : σ → ι → Bool)

/-- The first call tries the members in the order of the search up to a free one. If it finds one,
the calls behind it find others, each once, and none at last, and they have tried then each member
once: those behind the first one and those before it, and the first one at last. -/
def Spreads (hg : Group name) : Prop :=
  ∀ s : Nat → σ, ∃ answer, call (s 0) hg none none = .answer answer ∧
    answer.found = hg.ring.find? (free (s 0)) ∧ answer.tried <+: hg.ring ∧
    (answer.found = none → answer.tried = hg.ring) ∧
    ∀ first, answer.found = some first → ∃ before behind found tried,
      hg.members = before ++ first :: behind ∧ Calls call first (fun k => s (k + 1)) answer.group first found tried ∧
      found.Sublist (behind ++ before) ∧ (first :: found).Nodup ∧
      (∀ k m, found[k]? = some m → free (s (k + 1)) m) ∧ tried = behind ++ before ++ [first]

/-- A call comes to an end and looks at no missing member, and a hunt tries each member once. -/
structure Hunts (hg : Group name) (cur first : Option ι) : Prop where
  ends : ∀ s, ∃ answer, call s hg cur first = .answer answer
  spreads : Spreads call free hg

end Hunts

/-- There is no member, or the call is not from an interface on whose name no member has. -/
def Group.Known (hg : Group name) (cur : Option ι) : Prop :=
  hg.members = [] ∨ ∀ c ∈ cur, ∃ m ∈ hg.members, strcasecmp (name m) (name c)

section
variable {hg : Group name} {fuel : Nat} {free : σ → ι → Bool} {cur first : Option ι}

/-- From a member on: the others up to the first one, of which some are free when they are tried. -/
theorem calls_spread (free : σ → ι → Bool) {first : ι} (n : Nat) : ∀ (l rest more : List ι) {c : ι} (s : Nat → σ) {hg : Group name},
    l.length = n → hg.members.length ≤ fuel → hg.members.IsRotated (c :: (l ++ rest)) → rest ++ [c] = first :: more →
    first ∉ l → ∃ found tried, Calls (fun s hg => hg.hunt fuel (free s)) first s hg c found tried ∧ found.Sublist l ∧
      (∀ k m, found[k]? = some m → free (s k) m) ∧ tried = l ++ [first] := by
  induction n using Nat.strong_induction_on with
  | _ n ih =>
    intro l rest more c s hg len enough turned behind away
    have some_member : 0 < hg.members.length := by
      rw [turned.perm.length_eq]
      exact Nat.succ_pos _
    obtain ⟨starting, start, order⟩ := hg.startingMember_some some_member turned
    rw [List.append_assoc, behind] at order
    obtain ⟨answer, done, gives⟩ := Group.hunt_gives (free (s 0)) (some first) enough some_member start order
    cases search : l.find? (free (s 0)) with
    | none =>
      have busy : ∀ m ∈ l, free (s 0) m = false := fun m member => by simpa using List.find?_eq_none.mp search m member
      refine ⟨[], answer.tried, .last done ?_, List.nil_sublist _, by simp, ?_⟩
      · rw [gives.found, pick_append_first away, search]
      · rw [gives.tried, seen_append_first away busy]
    | some m =>
      obtain ⟨is_free, busy_before, rest', parts, busy⟩ := List.find?_eq_some_iff_append.mp search
      subst parts
      have busy : ∀ x ∈ busy_before, free (s 0) x = false := fun x member => by simpa using busy x member
      have aside : some first ∉ busy_before.map some := by
        simpa using fun member => away (List.mem_append_left _ member)
      have turned' : answer.group.members.IsRotated (m :: (rest' ++ (rest ++ c :: busy_before))) := by
        rw [gives.members]
        refine turned.trans ?_
        have swap := @List.isRotated_append _ (c :: busy_before) (m :: rest' ++ rest)
        simpa using swap
      obtain ⟨found, tried, calls, sub, all_free, tried_eq⟩ := ih rest'.length (by simp at len; omega) rest'
        (rest ++ c :: busy_before) (more ++ busy_before ++ [m]) (fun k => s (k + 1)) rfl
        (by rw [gives.members]; exact enough) turned'
        (by rw [List.append_cons rest c, behind]; simp) fun member => away (by simp [member])
      refine ⟨m :: found, answer.tried ++ tried, .next done ?_ calls, ?_, ?_, ?_⟩
      · rw [gives.found, pick_append_first away, search]
      · exact (sub.cons_cons m).trans (List.sublist_append_right _ _)
      · intro k x at_k
        cases k with
        | zero =>
          obtain rfl : m = x := by simpa using at_k
          exact is_free
        | succ k => exact all_free k x (by simpa using at_k)
      · rw [gives.tried, List.append_assoc, List.cons_append, seen_append_free aside busy is_free, tried_eq]
        simp

/-- Whatever is free at each call, a hunt tries each member once. -/
theorem spreads (enough : hg.members.length ≤ fuel) : Spreads (fun s hg => hg.hunt fuel (free s)) free hg := by
  intro s
  obtain empty | some_member := Nat.eq_zero_or_pos hg.members.length
  · have no_members := List.eq_nil_of_length_eq_zero empty
    have no_ring : hg.ring = [] := by
      unfold Group.ring
      split <;> simp [no_members]
    refine ⟨{ found := none, group := hg, tried := [] }, by simp [Group.hunt, empty], ?_, ?_, ?_, ?_⟩ <;> simp [no_ring]
  obtain ⟨starting, start, order⟩ := hg.startingMember_none some_member
  obtain ⟨answer, done, gives⟩ := Group.hunt_gives (free (s 0)) none enough some_member start order
  have found_eq : answer.found = hg.ring.find? (free (s 0)) := by rw [gives.found, pick_none]
  refine ⟨answer, done, found_eq, ?_, ?_, ?_⟩
  · rw [gives.tried]
    exact seen_isPrefix
  · intro none_found
    rw [found_eq, List.find?_eq_none] at none_found
    rw [gives.tried, seen_none fun m member => by simpa using none_found m member]
  · intro first one
    rw [found_eq] at one
    have member : first ∈ hg.members := by
      have in_ring := List.mem_of_find?_eq_some one
      rwa [← order, List.mem_rotate] at in_ring
    obtain ⟨before, behind, parts⟩ := List.append_of_mem member
    have turned : hg.members.IsRotated (first :: (behind ++ before)) := by
      rw [parts]
      exact List.isRotated_append
    have distinct := turned.nodup_iff.mp hg.members_nodup
    obtain ⟨away, -⟩ := List.nodup_cons.mp distinct
    obtain ⟨found, tried, calls, sub, all_free, tried_eq⟩ := calls_spread free _ (behind ++ before) [] []
      (fun k => s (k + 1)) rfl (show answer.group.members.length ≤ fuel by rw [gives.members]; exact enough)
      (by rw [gives.members, List.append_nil]; exact turned) rfl away
    exact ⟨before, behind, found, tried, parts, calls, sub, distinct.sublist (sub.cons_cons first), all_free, tried_eq⟩

/-- A call comes to an end unless it looks for a member behind one that is not there. -/
theorem ends_iff {available : ι → Bool} (enough : hg.members.length ≤ fuel) :
    (∃ answer, hg.hunt fuel available cur first = .answer answer) ↔ hg.Known cur := by
  obtain empty | some_member := Nat.eq_zero_or_pos hg.members.length
  · have no_members := List.eq_nil_of_length_eq_zero empty
    exact iff_of_true ⟨_, dif_neg (by omega)⟩ (.inl no_members)
  · have members : hg.members ≠ [] := List.ne_nil_of_length_pos some_member
    cases start : hg.startingMember some_member cur with
    | some starting =>
      obtain ⟨answer, done, -⟩ := Group.hunt_gives available first enough some_member start rfl
      refine iff_of_true ⟨answer, done⟩ (.inr fun c is_cur => ?_)
      obtain rfl : cur = some c := is_cur
      obtain ⟨found, search, -⟩ := Option.map_eq_some_iff.mp start
      have same := (List.findFinIdx?_eq_some_iff.mp search).1
      exact ⟨_, List.getElem_mem _, same⟩
    | none =>
      refine iff_of_false ?_ ?_
      · rintro ⟨answer, done⟩
        simp [Group.hunt, some_member, start] at done
      · rintro (nil | known)
        · exact members nil
        · cases cur with
          | none =>
            obtain ⟨starting, some_start, -⟩ := hg.startingMember_none some_member
            rw [some_start] at start
            exact absurd start (Option.some_ne_none _)
          | some c =>
            obtain ⟨m, member, same⟩ := known c rfl
            have none_found := Option.map_eq_none_iff.mp start
            exact List.findFinIdx?_eq_none_iff.mp none_found m member same

end

/-- A hunt is right, in either driver, unless a call comes from an interface on whose name no member
has. -/
theorem hunts_iff {hg : Group name} {fuel : Nat} (enough : hg.members.length ≤ fuel) (cur first : Option ι) :
    (Hunts (vgsmHgHunt fuel) (fun me m => (me m).free) hg cur first ↔ hg.Known cur) ∧
      (Hunts (visdnHgHunt fuel) (fun intf m => (intf m).free) hg cur first ↔ hg.Known cur) := by
  constructor
  · constructor
    · intro hunts
      exact (ends_iff enough).mp (hunts.ends fun _ => { status := .ready, vgsm_chan := none, net_status := .unknown })
    · intro known
      exact ⟨fun _ => (ends_iff enough).mpr known, spreads enough⟩
  · constructor
    · intro hunts
      exact (ends_iff enough).mp (hunts.ends fun _ => { q931_intf := none })
    · intro known
      exact ⟨fun _ => (ends_iff enough).mpr known, spreads enough⟩

/-- Three members, the second of which has been found before. -/
def three : Group (ι := Fin 4) fun i => ['m', Char.ofNat (48 + i)] where
  mode := .cyclic
  members := [0, 1, 2]
  current_member := some 1
  distinct := by decide

theorem third_is_known : Hunts (vgsmHgHunt 3) (fun me m => (me m).free) three (some 2) (some 0) ∧
    Hunts (visdnHgHunt 3) (fun intf m => (intf m).free) three (some 2) (some 0) := by
  have known : three.Known (some 2) := .inr fun c is => ⟨2, by decide, by cases is; decide⟩
  obtain ⟨vgsm, visdn⟩ := hunts_iff (show three.members.length ≤ 3 by decide) (some 2) (some 0)
  exact ⟨vgsm.mpr known, visdn.mpr known⟩

/-- The fourth interface is no member, and the call from it on looks behind NULL. -/
theorem stranger_is_behind_null : ¬∀ (hg : Group (ι := Fin 4) fun i => ['m', Char.ofNat (48 + i)]) (cur first : Option (Fin 4)),
    Hunts (visdnHgHunt hg.members.length) (fun intf m => (intf m).free) hg cur first := by
  intro claim
  obtain ⟨answer, done⟩ := (claim three (some 3) none).ends fun _ => { q931_intf := none }
  have fault : visdnHgHunt three.members.length (fun (_ : Fin 4) => ({ q931_intf := none } : Intf)) three (some 3) none = .fault := rfl
  rw [fault] at done
  cases done

end Vstuff.HuntGroup
