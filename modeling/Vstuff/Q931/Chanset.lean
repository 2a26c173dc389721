import Mathlib.Data.Finset.Card
import Mathlib.Data.Finset.Dedup
import Mathlib.Data.List.Chain
import Vstuff.Q931.Global

/-! Sets of channels (`chanset.c`): an array of channels in use order, edited in place,
against finite sets. -/
namespace Vstuff.Q931
set_option linter.all false

/-- `struct q931_chanset`: the slots of `chans` in use, in order, and the ones behind them,
which keep what was there. `padding` is what lies between `nchans` and `chans`. -/
structure Chanset (α : Type) where
  chans : List α
  stale : List α
  padding : UInt32
  slots : chans.length + stale.length = chansetMaxSize
  deriving DecidableEq

namespace Chanset
variable {α : Type} [DecidableEq α] (s : Chanset α)

/-- `q931_chanset_init`. -/
def init : Chanset α where
  chans := []
  stale := s.chans ++ s.stale
  padding := s.padding
  slots := by simpa using s.slots

/-- `q931_chanset_add`: the assertion comes before the search. -/
def add (channel : α) : Option (Chanset α) :=
  if room : s.chans.length < chansetMaxSize then
    if channel ∈ s.chans then some s
    else some {
      chans := s.chans ++ [channel]
      stale := s.stale.tail
      padding := s.padding
      slots := by
        have whole := s.slots
        simp only [List.length_append, List.length_singleton, List.length_tail]
        omega }
  else none

/-- `q931_chanset_del`: the slots behind the channel move down, and the last one is left
behind as it is. -/
def del (channel : α) : Option (Chanset α) :=
  if used : s.chans = [] then none
  else if present : channel ∈ s.chans then some {
      chans := s.chans.erase channel
      stale := s.chans.getLast used :: s.stale
      padding := s.padding
      slots := by
        have whole := s.slots
        have some := List.length_pos_of_mem present
        rw [List.length_erase_of_mem present, List.length_cons]
        omega }
  else some s

/-- `q931_chanset_merge`. -/
def merge (src : Chanset α) : Option (Chanset α) :=
  src.chans.foldlM (fun s channel => if channel ∈ s.chans then some s else s.add channel) s

/-- `q931_chanset_contains`. -/
def contains (channel : α) : Bool := channel ∈ s.chans

/-- `q931_chanset_equal`: `memcmp` of the two structures. -/
def equal (other : Chanset α) : Bool := s = other

/-- The loop of `q931_chanset_intersect` from slot `i` on. It takes no more turns than
there are slots in use. -/
def intersectLoop (other : Chanset α) : Nat → Nat → Chanset α → Option (Chanset α)
  | 0, _, s => some s
  | turns + 1, i, s =>
    match s.chans[i]? with
    | none => some s
    | some channel =>
      if channel ∈ other.chans then intersectLoop other turns (i + 1) s
      else (s.del channel).bind (intersectLoop other turns (i + 1))

/-- `q931_chanset_intersect`. -/
def intersect (other : Chanset α) : Option (Chanset α) := intersectLoop other s.chans.length 0 s

/-! ## As a set -/

/-- The channels of a set. -/
def members : Finset α := s.chans.toFinset

variable {s}

theorem add_present {channel : α} (present : channel ∈ s.chans) :
    s.add channel = if s.chans.length < chansetMaxSize then some s else none := by
  by_cases room : s.chans.length < chansetMaxSize
  · rw [add, dif_pos room, if_pos present, if_pos room]
  · rw [add, dif_neg room, if_neg room]

theorem add_absent {channel : α} (absent : channel ∉ s.chans) (room : s.chans.length < chansetMaxSize) :
    ∃ t, s.add channel = some t ∧ t.chans = s.chans ++ [channel] := by
  rw [add, dif_pos room, if_neg absent]
  exact ⟨_, rfl, rfl⟩

theorem del_present {channel : α} (present : channel ∈ s.chans) :
    ∃ t, s.del channel = some t ∧ t.chans = s.chans.erase channel := by
  have used : s.chans ≠ [] := List.ne_nil_of_mem present
  rw [del, dif_neg used, dif_pos present]
  exact ⟨_, rfl, rfl⟩

theorem del_absent {channel : α} (absent : channel ∉ s.chans) (used : s.chans ≠ []) :
    s.del channel = some s := by
  rw [del, dif_neg used, dif_neg absent]

/-- The model of the decoders is the same addition. -/
theorem add_chansetAdd (s : Chanset Nat) (channel : Nat) :
    (s.add channel).map (·.chans) = chansetAdd s.chans channel := by
  unfold add chansetAdd
  split
  · split <;> rfl
  · rfl

/-- A set of some of the channels, none of which occurs twice. -/
structure Within (channels : Finset α) (s : Chanset α) : Prop where
  distinct : s.chans.Nodup
  known : ∀ channel ∈ s.chans, channel ∈ channels

section Few
variable {channels : Finset α} {t : Chanset α}

/-- There is room for another channel. -/
theorem Within.room (within : s.Within channels) (few : channels.card ≤ chansetMaxSize) {channel : α}
    (another : channel ∈ channels) (absent : channel ∉ s.chans) : s.chans.length < chansetMaxSize := by
  have distinct : (channel :: s.chans).Nodup := List.nodup_cons.mpr ⟨absent, within.distinct⟩
  have inside : (channel :: s.chans).toFinset ⊆ channels := by
    intro c member
    rcases List.mem_cons.mp (List.mem_toFinset.mp member) with rfl | old
    · exact another
    · exact within.known c old
  have count := Finset.card_le_card inside
  rw [List.toFinset_card_of_nodup distinct, List.length_cons] at count
  omega

omit [DecidableEq α] in
theorem Within.init : s.init.Within channels :=
  ⟨List.nodup_nil, fun _ member => absurd member List.not_mem_nil⟩

theorem Within.add (within : s.Within channels) {channel : α} (another : channel ∈ channels)
    (done : s.add channel = some t) : t.Within channels ∧ t.members = insert channel s.members := by
  by_cases present : channel ∈ s.chans
  · rw [add_present present] at done
    split at done
    · cases done
      exact ⟨within, (Finset.insert_eq_of_mem (List.mem_toFinset.mpr present)).symm⟩
    · cases done
  · have room : s.chans.length < chansetMaxSize := by
      by_contra full
      rw [Chanset.add, dif_neg full] at done
      cases done
    obtain ⟨t', added, chans⟩ := add_absent present room
    obtain rfl : t' = t := Option.some.inj (added.symm.trans done)
    refine ⟨⟨?_, ?_⟩, ?_⟩
    · rw [chans]
      exact within.distinct.append (List.nodup_singleton _) (by simpa using present)
    · intro c member
      rw [chans, List.mem_append, List.mem_singleton] at member
      rcases member with old | rfl
      · exact within.known c old
      · exact another
    · rw [members, chans]
      ext c
      simp [members]

theorem Within.del (within : s.Within channels) {channel : α} (done : s.del channel = some t) :
    t.Within channels ∧ t.members = s.members.erase channel := by
  by_cases present : channel ∈ s.chans
  · obtain ⟨t', deleted, chans⟩ := del_present present
    obtain rfl : t' = t := Option.some.inj (deleted.symm.trans done)
    refine ⟨⟨?_, ?_⟩, ?_⟩
    · rw [chans]
      exact within.distinct.erase _
    · intro c member
      rw [chans] at member
      exact within.known c (List.mem_of_mem_erase member)
    · rw [members, chans]
      ext c
      simp [members, within.distinct.mem_erase_iff]
  · have used : s.chans ≠ [] := by
      rintro empty
      rw [Chanset.del, dif_pos empty] at done
      cases done
    rw [del_absent present used] at done
    cases done
    exact ⟨within, (Finset.erase_eq_of_notMem (by simpa [members] using present)).symm⟩

/-- Merging is a union, and finds room. -/
theorem Within.merge_from (few : channels.card ≤ chansetMaxSize) (src : List α)
    (known : ∀ channel ∈ src, channel ∈ channels) :
    ∀ s : Chanset α, s.Within channels →
      ∃ t, src.foldlM (fun s channel => if channel ∈ s.chans then some s else s.add channel) s = some t ∧
        t.Within channels ∧ t.members = s.members ∪ src.toFinset := by
  induction src with
  | nil =>
    intro s within
    exact ⟨s, rfl, within, by simp⟩
  | cons channel src further =>
    intro s within
    have rest := further fun c member => known c (List.mem_cons_of_mem _ member)
    have another := known channel List.mem_cons_self
    rw [List.foldlM_cons]
    by_cases present : channel ∈ s.chans
    · obtain ⟨t, merged, inside, union⟩ := rest s within
      refine ⟨t, by simpa [present] using merged, inside, ?_⟩
      have already : channel ∈ s.members ∪ src.toFinset := Finset.mem_union_left _ (List.mem_toFinset.mpr present)
      rw [union, List.toFinset_cons, Finset.union_insert, Finset.insert_eq_of_mem already]
    · obtain ⟨mid, added, -⟩ := add_absent present (within.room few another present)
      obtain ⟨midWithin, midMembers⟩ := within.add another added
      obtain ⟨t, merged, inside, union⟩ := rest mid midWithin
      refine ⟨t, by simpa [present, added] using merged, inside, ?_⟩
      rw [union, midMembers, List.toFinset_cons, Finset.union_insert, Finset.insert_union]

theorem Within.merge (within : s.Within channels) (few : channels.card ≤ chansetMaxSize) {src : Chanset α}
    (srcWithin : src.Within channels) :
    ∃ t, s.merge src = some t ∧ t.Within channels ∧ t.members = s.members ∪ src.members :=
  merge_from few src.chans srcWithin.known s within

end Few

/-! ## Intersection -/

/-- What the loop leaves of the channels in front of it: it steps over the one that moves
into the place of a deleted channel. -/
def survivors (other : List α) : List α → List α
  | [] => []
  | [channel] => if channel ∈ other then [channel] else []
  | channel :: next :: rest =>
    if channel ∈ other then channel :: survivors other (next :: rest)
    else next :: survivors other rest

/-- Of two neighbours one at least is in the other set. -/
def Alternates (other : List α) (chans : List α) : Prop :=
  chans.IsChain fun channel next => channel ∈ other ∨ next ∈ other

theorem survivors_cons {other : List α} {channel : α} (member : channel ∈ other) (rest : List α) :
    survivors other (channel :: rest) = channel :: survivors other rest := by
  cases rest <;> simp [survivors, member]

theorem survivors_keep (other chans : List α) {channel : α} (here : channel ∈ chans)
    (there : channel ∈ other) : channel ∈ survivors other chans := by
  fun_induction survivors other chans with
  | case1 => cases here
  | case2 only member => exact here
  | case3 only absent =>
    rw [List.mem_singleton] at here
    exact absurd (here ▸ there) absent
  | case4 first next rest member further =>
    rcases List.mem_cons.mp here with rfl | later
    · exact List.mem_cons_self
    · exact List.mem_cons_of_mem _ (further later)
  | case5 first next rest absent further =>
    rcases List.mem_cons.mp here with rfl | later
    · exact absurd there absent
    · rcases List.mem_cons.mp later with rfl | last
      · exact List.mem_cons_self
      · exact List.mem_cons_of_mem _ (further last)

theorem survivors_sublist (other chans : List α) : (survivors other chans).Sublist chans := by
  fun_induction survivors other chans with
  | case1 => exact .slnil
  | case2 only member => exact .refl _
  | case3 only absent => exact List.nil_sublist _
  | case4 first next rest member further => exact further.cons_cons _
  | case5 first next rest absent further => exact (further.cons_cons _).cons _

/-- A channel that is not in the other set survives exactly if it is the second of two. -/
theorem survivors_inside_iff (other chans : List α) :
    (∀ channel ∈ survivors other chans, channel ∈ other) ↔ Alternates other chans := by
  unfold Alternates
  fun_induction survivors other chans with
  | case1 => simp
  | case2 only member => simp [member]
  | case3 only absent => simp
  | case4 first next rest member further =>
    rw [List.isChain_cons_cons, ← further, List.forall_mem_cons]
    simp [member]
  | case5 first next rest absent further =>
    rw [List.isChain_cons_cons, List.forall_mem_cons, further, List.isChain_cons]
    simp only [absent, false_or]
    exact and_congr_right fun inside => ⟨fun chain => ⟨fun _ _ => .inl inside, chain⟩, And.right⟩

/-- Behind the last slot in use the loop does nothing. -/
theorem intersectLoop_end {other : Chanset α} {i : Nat} (behind : s.chans.length ≤ i) (turns : Nat) :
    intersectLoop other turns i s = some s := by
  cases turns with
  | zero => rfl
  | succ turns => rw [intersectLoop, List.getElem?_eq_none behind]

theorem intersectLoop_survivors (other : Chanset α) (turns : Nat) :
    ∀ (s : Chanset α) (passed rest : List α), s.chans.Nodup → s.chans = passed ++ rest → rest.length ≤ turns →
      ∃ t, intersectLoop other turns passed.length s = some t ∧
        t.chans = passed ++ survivors other.chans rest := by
  induction turns with
  | zero =>
    intro s passed rest distinct chans enough
    obtain rfl : rest = [] := List.eq_nil_of_length_eq_zero (Nat.le_zero.mp enough)
    exact ⟨s, rfl, chans⟩
  | succ turns further =>
    intro s passed rest distinct chans enough
    match rest with
    | [] =>
      refine ⟨s, intersectLoop_end (by simp [chans]) _, chans⟩
    | channel :: rest =>
      have here : s.chans[passed.length]? = some channel := by simp [chans]
      rw [intersectLoop, here]
      dsimp only
      by_cases member : channel ∈ other.chans
      · rw [if_pos member, survivors_cons member]
        obtain ⟨t, looped, left⟩ := further s (passed ++ [channel]) rest distinct (by simp [chans])
          (Nat.le_of_succ_le_succ enough)
        rw [List.length_append, List.length_singleton] at looped
        exact ⟨t, looped, by simp [left]⟩
      · rw [if_neg member]
        have present : channel ∈ s.chans := by simp [chans]
        obtain ⟨mid, deleted, midChans⟩ := del_present present
        have before : channel ∉ passed := by
          rw [chans, List.nodup_append] at distinct
          intro old
          exact distinct.2.2 channel old channel List.mem_cons_self rfl
        have closed : mid.chans = passed ++ rest := by
          rw [midChans, chans, List.erase_append_right _ before, List.erase_cons_head]
        have midDistinct : mid.chans.Nodup := by
          rw [midChans]
          exact distinct.erase _
        rw [deleted, Option.bind_some]
        match rest with
        | [] =>
          refine ⟨mid, intersectLoop_end (by simp [closed]) _, ?_⟩
          simp [closed, survivors, member]
        | next :: rest =>
          obtain ⟨t, looped, left⟩ := further mid (passed ++ [next]) rest midDistinct (by simp [closed])
            (by simp only [List.length_cons] at enough; omega)
          rw [List.length_append, List.length_singleton] at looped
          exact ⟨t, looped, by simp [left, survivors, member]⟩

/-! ## What is asked of a set -/

/-- The operations on a set. -/
inductive Request (α : Type) where
  | add (channel : α)
  | del (channel : α)
  | merge (src : Chanset α)
  | intersect (other : Chanset α)
  | contains (channel : α)
  | equal (other : Chanset α)

section Channels
variable (channels : Finset α)

/-- The sets that come from `q931_chanset_init` by the operations, all of them of some
channels. -/
inductive Reachable : Chanset α → Prop where
  | init (s : Chanset α) : Reachable s.init
  | add {s t : Chanset α} {channel : α} (reached : Reachable s) (known : channel ∈ channels)
      (done : s.add channel = some t) : Reachable t
  | del {s t : Chanset α} {channel : α} (reached : Reachable s) (known : channel ∈ channels)
      (done : s.del channel = some t) : Reachable t
  | merge {s t src : Chanset α} (reached : Reachable s) (source : Reachable src)
      (done : s.merge src = some t) : Reachable t
  | intersect {s t other : Chanset α} (reached : Reachable s) (second : Reachable other)
      (done : s.intersect other = some t) : Reachable t

/-- A request about some channels and reachable sets of them. -/
def Request.About : Request α → Prop
  | .add channel | .del channel | .contains channel => channel ∈ channels
  | .merge other | .intersect other | .equal other => Reachable channels other

variable {channels}

/-- A request does to a set what it does to a mathematical one. -/
def Meets (s : Chanset α) : Request α → Prop
  | .add channel => ∃ t, s.add channel = some t ∧ t.members = insert channel s.members
  | .del channel => ∃ t, s.del channel = some t ∧ t.members = s.members.erase channel
  | .merge src => ∃ t, s.merge src = some t ∧ t.members = s.members ∪ src.members
  | .intersect other => ∃ t, s.intersect other = some t ∧ t.members = s.members ∩ other.members
  | .contains channel => s.contains channel = true ↔ channel ∈ s.members
  | .equal other => s.equal other = true ↔ s.members = other.members

/-- When it does: a channel is not added to a full set that has it, none is deleted from an
empty set, of two neighbours one at least is in the other set of an intersection, and equal
sets have their channels in the same order and the same behind them. -/
def Allows (s : Chanset α) : Request α → Prop
  | .add channel => channel ∈ s.chans → s.chans.length < chansetMaxSize
  | .del _ => s.chans ≠ []
  | .merge _ => True
  | .intersect other => Alternates other.chans s.chans
  | .contains _ => True
  | .equal other => s.members = other.members → s = other

theorem Reachable.within (few : channels.card ≤ chansetMaxSize) (reached : Reachable channels s) :
    s.Within channels := by
  induction reached with
  | init s => exact Within.init
  | add reached known done within => exact (within.add known done).1
  | del reached known done within => exact (within.del done).1
  | @merge s t src reached source done within srcWithin =>
    obtain ⟨t', merged, inside, -⟩ := within.merge few srcWithin
    obtain rfl : t' = t := Option.some.inj (merged.symm.trans done)
    exact inside
  | @intersect s t other reached second done within otherWithin =>
    obtain ⟨t', looped, left⟩ := intersectLoop_survivors other s.chans.length s [] s.chans within.distinct rfl
      (Nat.le_refl _)
    obtain rfl : t' = t := Option.some.inj (looped.symm.trans done)
    have part : t'.chans.Sublist s.chans := left ▸ survivors_sublist other.chans s.chans
    exact ⟨within.distinct.sublist part, fun channel member => within.known channel (part.subset member)⟩

/-- No channel occurs twice in a reachable set of at most 32 channels, and its operations
are set operations exactly in these cases. -/
theorem chanset_operations_iff (few : channels.card ≤ chansetMaxSize) (reached : Reachable channels s)
    {request : Request α} (about : request.About channels) :
    s.chans.Nodup ∧ (s.Meets request ↔ s.Allows request) := by
  have within := reached.within few
  refine ⟨within.distinct, ?_⟩
  cases request with
  | add channel =>
    constructor
    · rintro ⟨t, done, -⟩ present
      rw [add_present present] at done
      split at done
      · next room => exact room
      · cases done
    · intro allowed
      obtain ⟨t, done⟩ : ∃ t, s.add channel = some t := by
        by_cases present : channel ∈ s.chans
        · exact ⟨s, by rw [add_present present, if_pos (allowed present)]⟩
        · obtain ⟨t, done, -⟩ := add_absent present (within.room few about present)
          exact ⟨t, done⟩
      exact ⟨t, done, (within.add about done).2⟩
  | del channel =>
    constructor
    · rintro ⟨t, done, -⟩ empty
      rw [del, dif_pos empty] at done
      cases done
    · intro used
      obtain ⟨t, done⟩ : ∃ t, s.del channel = some t := by
        by_cases present : channel ∈ s.chans
        · obtain ⟨t, done, -⟩ := del_present present
          exact ⟨t, done⟩
        · exact ⟨s, del_absent present used⟩
      exact ⟨t, done, (within.del done).2⟩
  | merge src =>
    obtain ⟨t, merged, -, union⟩ := within.merge few (Reachable.within few about)
    exact iff_of_true ⟨t, merged, union⟩ trivial
  | intersect other =>
    obtain ⟨t, looped, left⟩ := intersectLoop_survivors other s.chans.length s [] s.chans within.distinct rfl
      (Nat.le_refl _)
    rw [List.nil_append] at left
    have intersected : s.intersect other = some t := looped
    rw [Meets, Allows, ← survivors_inside_iff, ← left]
    constructor
    · rintro ⟨t', done, members_eq⟩ channel member
      obtain rfl : t = t' := Option.some.inj (intersected.symm.trans done)
      have both : channel ∈ s.members ∩ other.members := members_eq ▸ List.mem_toFinset.mpr member
      exact List.mem_toFinset.mp (Finset.mem_inter.mp both).2
    · intro inside
      refine ⟨t, intersected, Finset.ext fun channel => ?_⟩
      rw [Finset.mem_inter, members, members, members, List.mem_toFinset, List.mem_toFinset, List.mem_toFinset]
      constructor
      · intro member
        have part : t.chans.Sublist s.chans := left ▸ survivors_sublist other.chans s.chans
        exact ⟨part.subset member, inside channel member⟩
      · rintro ⟨here, there⟩
        exact left ▸ survivors_keep other.chans s.chans here there
  | contains channel =>
    refine iff_of_true ?_ trivial
    simp [Meets, contains, members]
  | equal other =>
    rw [Meets, Allows, equal, decide_eq_true_iff]
    exact ⟨fun same => same.mpr, fun same => ⟨congrArg members, same⟩⟩

/-- Channels are added one after the other. -/
theorem Reachable.adds (src : List α) (known : ∀ channel ∈ src, channel ∈ channels) :
    ∀ s : Chanset α, Reachable channels s → ∀ t, src.foldlM Chanset.add s = some t → Reachable channels t := by
  induction src with
  | nil =>
    intro s reached t done
    cases done
    exact reached
  | cons channel src further =>
    intro s reached t done
    rw [List.foldlM_cons] at done
    obtain ⟨mid, added, done⟩ := Option.bind_eq_some_iff.mp done
    exact further (fun c member => known c (List.mem_cons_of_mem _ member)) mid
      (reached.add (known channel List.mem_cons_self) added) t done

end Channels

/-- A set in memory that was zero before. -/
def zeroed : Chanset Nat := ⟨[], List.replicate 32 0, 0, by decide⟩

/-- The channels 1 and 2, and of them those that are channel 1. -/
theorem first_of_two_is_left :
    ∃ s other, [1, 2].foldlM add zeroed.init = some s ∧ [1].foldlM add zeroed.init = some other ∧
      s.chans.Nodup ∧ s.Meets (.intersect other) := by
  have built : ([1, 2].foldlM add zeroed.init).any (fun s => s.chans = [1, 2]) = true := by decide
  have other_built : ([1].foldlM add zeroed.init).any (fun s => s.chans = [1]) = true := by decide
  obtain ⟨s, made, chans⟩ := Option.any_eq_true _ _ |>.mp built
  obtain ⟨other, otherMade, otherChans⟩ := Option.any_eq_true _ _ |>.mp other_built
  rw [decide_eq_true_iff] at chans otherChans
  have reached : Reachable (Finset.range 3) s := .adds [1, 2] (by decide) _ (.init zeroed) s made
  have otherReached : Reachable (Finset.range 3) other := .adds [1] (by decide) _ (.init zeroed) other otherMade
  have about : (Request.intersect other).About (Finset.range 3) := otherReached
  have spec := chanset_operations_iff (by decide) reached about
  refine ⟨s, other, made, otherMade, spec.1, spec.2.mpr ?_⟩
  rw [Allows, chans, otherChans, Alternates]
  simp

/-- The channels 1, 2 and 3, and of them those that are channel 3: channel 2 is left too. -/
theorem second_of_three_is_left :
    ∃ s other, Reachable (Finset.range 4) s ∧ Reachable (Finset.range 4) other ∧
      ¬s.Meets (.intersect other) := by
  have built : ([1, 2, 3].foldlM add zeroed.init).any (fun s =>
      ([3].foldlM add zeroed.init).any fun other =>
        (s.intersect other).any fun t => t.chans = [2, 3] ∧ other.chans = [3]) = true := by
    decide
  obtain ⟨s, made, rest⟩ := Option.any_eq_true _ _ |>.mp built
  obtain ⟨other, otherMade, rest⟩ := Option.any_eq_true _ _ |>.mp rest
  obtain ⟨t, intersected, result⟩ := Option.any_eq_true _ _ |>.mp rest
  obtain ⟨chans, otherChans⟩ := of_decide_eq_true result
  refine ⟨s, other, .adds [1, 2, 3] (by decide) _ (.init zeroed) s made,
    .adds [3] (by decide) _ (.init zeroed) other otherMade, ?_⟩
  rintro ⟨t', done, same⟩
  obtain rfl : t = t' := Option.some.inj (intersected.symm.trans done)
  have second : 2 ∈ t.members := by simp [members, chans]
  rw [same, Finset.mem_inter, members, members, otherChans] at second
  exact absurd second.2 (by decide)

end Chanset

end Vstuff.Q931
