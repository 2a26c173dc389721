import Vstuff.Kstreamer.Walks

/-! What the driver callbacks of a pipeline amount to over any sequence of
changes of status: which pairs are in effect is always what the status says,
unless a step failed where the backward walk undoes too much or too little. -/
namespace Vstuff.Kstreamer
open Transition Pairs
set_option linter.all false

/-- The callbacks that led here say what the status says: the pairs of every
rung below it are in effect, and no others. -/
def Pipeline.standing (p : Pipeline) : Key → Bool := fun key =>
  decide (key.1.above.rank ≤ p.status.rank) && decide (key ∈ roster key.1 none p.entries)

structure Pipeline.Tracks (p : Pipeline) : Prop where
  linked : Linked p.entries
  orderly : Orderly rests (fun _ => false) (p.trace.map Callback.call) p.standing

/-- A list of calls in which nothing failed. -/
def Smooth (calls : List (Call Key)) : Prop := ∀ key, .raise key false ∉ calls

theorem Rung.above_le {k h : Rung} : h.above.rank ≤ k.above.rank ↔ h.above.rank ≤ k.below.rank ∨ h = k := by
  cases h <;> cases k <;> decide

theorem Rung.below_lt (k : Rung) : k.below.rank < k.above.rank := by
  cases k <;> decide

namespace Pipeline

variable {p q : Pipeline} {k : Rung} {answers : Answers}

theorem standing_iff {key : Key} :
    p.standing key = true ↔ key.1.above.rank ≤ p.status.rank ∧ key ∈ roster key.1 none p.entries := by
  rw [standing, Bool.and_eq_true, decide_eq_true_eq, decide_eq_true_eq]

theorem standing_free (above : p.status.rank < k.above.rank) (w : Place) : p.standing (k, w) = false := by
  rw [standing, decide_eq_false (Nat.not_le.mpr above), Bool.false_and]

theorem rests_free {w : Place} (here : p.status.rank ≤ k.above.rank) : ∀ o ∈ rests (k, w), p.standing o = false := by
  intro o above
  obtain ⟨h, member, rfl⟩ := List.mem_map.mp above
  exact standing_free (Nat.lt_of_le_of_lt here (Rung.higher_above member)) w

theorem mem_roster_same {key : Key} {chans : List Chan} (member : key ∈ roster k none chans) :
    key.1 = k ∧ key ∈ roster key.1 none chans := by
  obtain rfl := mem_roster_rung member
  exact ⟨rfl, member⟩

/-- Standing on a rung is standing below it with every pair of the rung taken up. -/
theorem standing_step (high : p.status = k.above) (low : q.status = k.below)
    (entries : q.entries = p.entries ∨ q.status = .null) (key : Key) :
    p.standing key = true ↔ q.standing key = true ∨ key ∈ roster k none p.entries := by
  rw [standing_iff, standing_iff, high, low, Rung.above_le]
  refine ⟨?_, ?_⟩
  · rintro ⟨below | rfl, member⟩
    · obtain same | null := entries
      · exact .inl ⟨below, same ▸ member⟩
      · have zero : k.below.rank = 0 := congrArg PipelineStatus.rank (low.symm.trans null)
        have positive := Rung.below_lt key.1
        omega
    · exact .inr member
  · rintro (⟨below, member⟩ | member)
    · obtain same | null := entries
      · exact ⟨.inl below, same ▸ member⟩
      · have zero : k.below.rank = 0 := congrArg PipelineStatus.rank (low.symm.trans null)
        have positive := Rung.below_lt key.1
        omega
    · obtain ⟨same, there⟩ := mem_roster_same member
      exact ⟨.inr same, there⟩

theorem Tracks.append (tracks : p.Tracks) {calls : List Callback} (linked : Linked q.entries)
    (trace : q.trace = p.trace ++ calls) (rest : Orderly rests p.standing (calls.map Callback.call) q.standing) :
    q.Tracks := by
  refine ⟨linked, ?_⟩
  rw [trace, List.map_append]
  exact tracks.orderly.append rest

theorem linked_nil : Linked [] := ⟨List.nodup_nil, fun _ => nofun⟩

theorem fall_status (stop_at : Option Chan) : (p.fall stop_at k).status = k.below := by
  cases k <;> rfl

theorem fall_trace (stop_at : Option Chan) :
    (p.fall stop_at k).trace = p.trace ++ walkDown k (stop_at.map Chan.id) none p.entries := by
  cases k <;> rfl

theorem fall_entries (stop_at : Option Chan) :
    (p.fall stop_at k).entries = p.entries ∨ (p.fall stop_at k).entries = [] ∧ k = .connection := by
  cases k
  · exact .inr ⟨rfl, rfl⟩
  · exact .inl rfl
  · exact .inl rfl

theorem fall_linked (linked : Linked p.entries) (stop_at : Option Chan) : Linked (p.fall stop_at k).entries := by
  obtain same | ⟨none, -⟩ := @fall_entries p k stop_at
  · rw [same]
    exact linked
  · rw [none]
    exact linked_nil

/-- A whole step down. -/
theorem fall_tracks (tracks : p.Tracks) (here : p.status = k.above) :
    (p.fall none k).Tracks ∧ (p.fall none k).status = k.below ∧
      ∃ calls, (p.fall none k).trace = p.trace ++ calls ∧ Smooth (calls.map Callback.call) := by
  obtain ⟨keys, all, calls⟩ := @walkDown_whole k p.entries tracks.linked.paired
  refine ⟨?_, fall_status none, _, fall_trace none, ?_⟩
  · refine tracks.append (fall_linked tracks.linked none) (fall_trace none) ?_
    rw [Option.map_none, calls]
    have entries : (p.fall none k).entries = p.entries ∨ (p.fall none k).status = .null := by
      refine (fall_entries none).imp_right fun ⟨_, same⟩ => ?_
      rw [fall_status, same]
      rfl
    have step := standing_step here (fall_status none) entries
    refine Orderly.lowers (all.nodup_iff.mpr (roster_nodup tracks.linked.distinct)) ?_ ?_ ?_
    · intro key member
      exact (step key).mpr (.inr (all.mem_iff.mp member))
    · intro key member
      obtain rfl := mem_roster_rung (all.mem_iff.mp member)
      exact rests_free (here ▸ Nat.le_refl _)
    · intro key
      rw [step, all.mem_iff]
      refine ⟨fun there => ?_, ?_⟩
      · refine ⟨.inl there, fun member => ?_⟩
        obtain rfl := mem_roster_rung member
        rw [standing_free ((fall_status none).symm ▸ Rung.below_lt _)] at there
        cases there
      · rintro ⟨there | member, other⟩
        · exact there
        · exact absurd member other
  · rw [Option.map_none, calls]
    intro key member
    obtain ⟨_, -, here⟩ := List.mem_map.mp member
    cases here

/-- How a recoverable walk goes: through, or up to a turn that fails behind a
channel which has nothing of this rung. -/
theorem recoverable_cases {chans : List Chan} {prev : Option Chan} (recoverable : Recoverable k answers prev chans) :
    ((∀ chan ∈ chans, ¬ chan.fails k answers) ∧
      ∀ last, chans.getLast?.or prev = some last → last.to.fails k (.last last.id) answers = false) ∨
    ∃ before chan after b, chans = before ++ chan :: after ∧ (∀ c ∈ before, ¬ c.fails k answers) ∧
      chan.fails k answers ∧ before.getLast?.or prev = some b ∧ b.keys k = [] := by
  induction chans generalizing prev with
  | nil =>
    refine .inl ⟨fun _ => nofun, ?_⟩
    rintro last (rfl : prev = some last)
    exact recoverable
  | cons chan chans ih =>
    rw [Recoverable] at recoverable
    split at recoverable
    · rename_i fails
      obtain ⟨b, rfl, silent⟩ := Option.map_eq_some_iff.mp recoverable
      exact .inr ⟨[], chan, chans, b, rfl, fun _ => nofun, fails, rfl, silent⟩
    · rename_i fine
      have last : ∀ {cs : List Chan}, (chan :: cs).getLast?.or prev = cs.getLast?.or (some chan) := by
        intro cs
        cases cs <;> simp [List.getLast?_cons]
      obtain ⟨others, ends⟩ | ⟨before, failing, after, b, rfl, others, fails, behind, silent⟩ := ih recoverable
      · exact .inl ⟨List.forall_mem_cons.mpr ⟨fine, others⟩, last ▸ ends⟩
      · exact .inr ⟨chan :: before, failing, after, b, rfl, List.forall_mem_cons.mpr ⟨fine, others⟩, fails,
          last ▸ behind, silent⟩

/-- What a step up does: it goes through, or it undoes what it did. -/
structure Climbed (p q : Pipeline) (k : Rung) (answers : Answers) (err : Int) (calls : List (Call Key)) : Prop where
  tracks : q.Tracks
  trace : q.trace.map Callback.call = p.trace.map Callback.call ++ calls
  ends : err = 0 ∧ q.status = k.above ∧ q.entries = p.entries ∧ (∀ chan ∈ p.entries, ¬ chan.fails k answers) ∧
      Smooth calls ∨
    err < 0 ∧ q.status = k.below ∧ ∀ key, lowered key calls = raised key calls

theorem smooth_raises {keys : List Key} : Smooth (keys.map (.raise · true)) := by
  intro key member
  obtain ⟨_, -, here⟩ := List.mem_map.mp member
  cases here

/-- A step up that goes through. -/
theorem climb_through (tracks : p.Tracks) (here : p.status = k.below)
    (fine : ∀ chan ∈ p.entries, ¬ chan.fails k answers)
    (last : ∀ chan, p.entries.getLast? = some chan → chan.to.fails k (.last chan.id) answers = false) :
    ∃ calls, Climbed p (p.climb k answers).1 k answers (p.climb k answers).2 calls := by
  obtain ⟨ends, calls⟩ := walkUp_whole fine last
  have result : p.climb k answers =
      ({ p with trace := p.trace ++ (walkUp k answers none p.entries).1, status := k.above }, 0) := by
    rw [climb, ends]
  rw [result]
  refine ⟨_, ?_, by rw [List.map_append, calls], .inl ⟨rfl, rfl, rfl, fine, smooth_raises⟩⟩
  refine tracks.append tracks.linked rfl ?_
  rw [calls]
  refine Orderly.raises (roster_nodup tracks.linked.distinct) ?_ (standing_step rfl here (.inl rfl))
  intro key member
  obtain rfl := mem_roster_rung member
  exact standing_free (here ▸ Rung.below_lt _) key.2

theorem standing_same (status : q.status = p.status) (entries : q.entries = p.entries ∨ q.status = .null) :
    q.standing = p.standing := by
  funext key
  refine Bool.eq_iff_iff.mpr ?_
  rw [standing_iff, standing_iff, status]
  obtain same | null := entries
  · rw [same]
  · have nothing : ¬ key.1.above.rank ≤ p.status.rank := by
      rw [← status, null]
      cases key.1 <;> decide
    simp [nothing]

/-- The calls of a step up that fails, from the first pair taken up to the last
one taken back: the pairs of `pre`, the turn that fails, and `pre` again. -/
theorem unwound {pre : List Chan} {chan : Chan} (here : p.status = k.below) (paired : chan.Paired)
    (distinct : ((pre ++ [chan]).map Chan.id).Nodup) (fails : chan.fails k answers) :
    Orderly rests p.standing
      ((pre.flatMap (·.keys k)).map (.raise · true) ++ (chan.attempt k answers).1.map Callback.call ++
        (pre.flatMap fun c => (c.keys k).reverse).map .lower) p.standing := by
  obtain ⟨nodup, -, apart⟩ := List.nodup_append'.mp (List.map_append ▸ distinct)
  have rung : ∀ key ∈ pre.flatMap (·.keys k), key.1 = k := fun key member =>
    mem_roster_rung (List.mem_append_left _ member : key ∈ roster k none pre)
  have free : ∀ w, p.standing (k, w) = false := standing_free (here ▸ Rung.below_lt k)
  have above : ∀ key o, key.1 = k → o ∈ rests key → p.standing o = false := by
    rintro ⟨_, w⟩ o rfl member
    exact rests_free (here ▸ Nat.le_of_lt (Rung.below_lt _)) o member
  have other : ∀ w, (w = .node chan.id ∨ w = .chan chan.id) → (k, w) ∉ pre.flatMap (·.keys k) := by
    intro w own member
    obtain ⟨c, there, of_c⟩ := List.mem_flatMap.mp member
    have different : c.id ≠ chan.id := fun same =>
      apart (List.mem_map.mpr ⟨c, there, rfl⟩) (List.mem_singleton.mpr same)
    obtain ⟨-, same⟩ | ⟨-, same⟩ := Chan.mem_keys.mp of_c
    · obtain rfl | rfl := own
      · exact different (Place.node.inj (congrArg Prod.snd same)).symm
      · cases same
    · obtain rfl | rfl := own
      · cases same
      · exact different (Place.chan.inj (congrArg Prod.snd same)).symm
  let mid : Key → Bool := fun key => p.standing key || decide (key ∈ pre.flatMap (·.keys k))
  have mid_iff : ∀ key, mid key = true ↔ p.standing key = true ∨ key ∈ pre.flatMap (·.keys k) := by
    intro key
    rw [Bool.or_eq_true, decide_eq_true_eq]
  have mid_free : ∀ w, (w = .node chan.id ∨ w = .chan chan.id) → mid (k, w) = false := by
    intro w own
    rw [← Bool.not_eq_true, mid_iff, free w]
    exact not_or.mpr ⟨Bool.false_ne_true, other w own⟩
  have mid_above : ∀ key o, key.1 = k → o ∈ rests key → mid o = false := by
    intro key o same member
    rw [← Bool.not_eq_true, mid_iff, above key o same member]
    refine not_or.mpr ⟨Bool.false_ne_true, fun there => rests_apart member ?_⟩
    rw [rung o there, same]
  refine Orderly.append (Orderly.append (Orderly.raises (keys_nodup nodup) ?_ mid_iff)
    (Chan.attempt_orderly paired fails (mid_free _ (.inl rfl)) (mid_free _ (.inr rfl)) (mid_above (k, _) · rfl)))
    (Orderly.lowers (back_perm.nodup_iff.mpr (keys_nodup nodup)) ?_ ?_ ?_)
  · rintro ⟨_, w⟩ member
    obtain rfl := rung _ member
    exact free w
  · intro key member
    exact (mid_iff key).mpr (.inr (back_perm.mem_iff.mp member))
  · intro key member
    exact (mid_above key · (rung key (back_perm.mem_iff.mp member)))
  · intro key
    rw [mid_iff, back_perm.mem_iff]
    refine ⟨fun there => ⟨.inl there, fun member => ?_⟩, ?_⟩
    · obtain ⟨_, w⟩ := key
      obtain rfl := rung _ member
      rw [free w] at there
      cases there
    · rintro ⟨there | member, out⟩
      · exact there
      · exact absurd member out

/-- A step up that fails behind a channel without callbacks of this rung. -/
theorem climb_back (tracks : p.Tracks) (here : p.status = k.below) {before after : List Chan} {chan b : Chan}
    (entries : p.entries = before ++ chan :: after) (fine : ∀ c ∈ before, ¬ c.fails k answers)
    (fails : chan.fails k answers) (behind : before.getLast? = some b) (silent : b.keys k = []) :
    ∃ calls, Climbed p (p.climb k answers).1 k answers (p.climb k answers).2 calls := by
  obtain ⟨pre, rfl⟩ := List.getLast?_eq_some_iff.mp behind
  obtain ⟨err, negative, -, stops⟩ := @walkUp_fails k answers chan (some b) after fails
  obtain ⟨calls, ends⟩ := @walkUp_append k answers none (chan :: after) (pre ++ [b]) fine
  rw [behind, Option.some_or, stops] at calls ends
  have bare : (pre ++ [b]).flatMap (·.keys k) = pre.flatMap (·.keys k) := by
    rw [List.flatMap_append, List.flatMap_singleton, silent, List.append_nil]
  rw [bare] at calls
  have linked := tracks.linked
  rw [entries] at linked
  have part : (pre ++ [chan]).Sublist (pre ++ [b] ++ chan :: after) := by
    rw [List.append_assoc]
    exact (List.Sublist.refl pre).append (.cons _ (.cons_cons _ (List.nil_sublist after)))
  have before_b : ∀ c ∈ pre, some c.id ≠ some b.id := by
    intro c member same
    have apart := (List.nodup_append'.mp (List.map_append ▸ (List.map_append ▸ linked.distinct).of_append_left)).2.2
    exact apart (List.mem_map.mpr ⟨c, member, rfl⟩) (List.mem_singleton.mpr (Option.some.inj same))
  have back := @walkDown_append k none (b :: chan :: after) pre (some b.id) before_b fun c member =>
    linked.paired c (part.subset (List.mem_append_left _ member))
  have stop : walkDown k (some b.id) (pre.getLast?.or none) (b :: chan :: after) = [] := by
    rw [walkDown, if_pos rfl]
  rw [stop, List.map_nil, List.append_nil] at back
  have result : p.climb k answers =
      ({ p with trace := p.trace ++ (walkUp k answers none p.entries).1 }.fall (some b) k, err) := by
    rw [climb, entries, ends]
  have trace : (p.climb k answers).1.trace = p.trace ++
      ((walkUp k answers none p.entries).1 ++ walkDown k (some b.id) none p.entries) := by
    rw [result, fall_trace, List.append_assoc]
    rfl
  have status : (p.climb k answers).1.status = k.below := by rw [result, fall_status]
  have orderly := unwound here (linked.paired chan (part.subset (by simp))) (linked.distinct.sublist (part.map _)) fails
  have flat : p.entries = pre ++ b :: chan :: after := by
    rw [entries, List.append_assoc]
    rfl
  rw [← calls, ← back, List.append_assoc pre, List.singleton_append, ← List.map_append, ← flat] at orderly
  have stands : (p.climb k answers).1.standing = p.standing := by
    refine standing_same (status.trans here.symm) ?_
    rw [status]
    rw [result]
    refine (fall_entries (some b)).imp_right fun connection => ?_
    rw [connection.2]
    rfl
  refine ⟨_, ⟨?_, by rw [trace, List.map_append], ?_⟩⟩
  · refine tracks.append ?_ trace (stands ▸ orderly)
    rw [result]
    exact @fall_linked { p with trace := p.trace ++ (walkUp k answers none p.entries).1 } k tracks.linked (some b)
  · refine .inr ⟨by rw [result]; exact negative, status, fun key => ?_⟩
    have balance := orderly.balance key
    omega

/-- A step up whose walk is recoverable. -/
theorem climb_recoverable (tracks : p.Tracks) (here : p.status = k.below)
    (recoverable : Recoverable k answers none p.entries) :
    ∃ calls, Climbed p (p.climb k answers).1 k answers (p.climb k answers).2 calls := by
  obtain ⟨fine, last⟩ | ⟨before, chan, after, b, entries, fine, fails, behind, silent⟩ := recoverable_cases recoverable
  · refine climb_through tracks here fine fun chan behind => last chan ?_
    rw [behind, Option.some_or]
  · refine climb_back tracks here entries fine fails ?_ silent
    rwa [Option.or_none] at behind

/-- The step up of a rung. -/
def rise (p : Pipeline) (answers : Answers) : Rung → Pipeline × Int
  | .connection => p.nullToConnected answers
  | .opening => p.connectedToOpen answers
  | .flow => p.openToFlowing answers

/-- Steps up one after the other, until one fails. -/
def rises (answers : Answers) (ks : List Rung) (result : Pipeline × Int) : Pipeline × Int :=
  ks.foldl (fun result k => andThen result (·.rise answers k)) result

def falls (ks : List Rung) (p : Pipeline) : Pipeline := ks.foldl (fun p k => p.fall none k) p

theorem andThen_zero (f : Pipeline → Pipeline × Int) : andThen (p, 0) f = f p := by
  rw [andThen, if_neg (Int.lt_irrefl 0)]

/-- A change of status goes up or down the rungs between the two. -/
theorem changeStatus_eq (p : Pipeline) (status : PipelineStatus) (answers : Answers) :
    p.changeStatus status answers =
      if p.status.rank ≤ status.rank then rises answers (Rung.between p.status status) (p, 0)
      else (falls (Rung.between status p.status).reverse p, 0) := by
  obtain ⟨here, entries, mtu, trace⟩ := p
  cases here <;> cases status <;>
    simp [changeStatus, Rung.between, Rung.below, Rung.above, PipelineStatus.rank, rises, falls, andThen_zero, rise, fall]

/-- Rungs that lead from one status up to another, each starting where the one
before it ends. -/
inductive Ladder : PipelineStatus → List Rung → PipelineStatus → Prop where
  | nil (status : PipelineStatus) : Ladder status [] status
  | cons (k : Rung) {ks : List Rung} {high : PipelineStatus} (rest : Ladder k.above ks high) : Ladder k.below (k :: ks) high

theorem between_ladder {low high : PipelineStatus} (up : low.rank ≤ high.rank) : Ladder low (Rung.between low high) high := by
  cases low <;> cases high <;> first
    | exact absurd up (by decide)
    | exact .nil _
    | exact .cons .connection (.nil _)
    | exact .cons .opening (.nil _)
    | exact .cons .flow (.nil _)
    | exact .cons .connection (.cons .opening (.nil _))
    | exact .cons .opening (.cons .flow (.nil _))
    | exact .cons .connection (.cons .opening (.cons .flow (.nil _)))

/-- Every walk that the steps up make is recoverable; a step that fails is the
last one. -/
def Climbable (answers : Answers) (chans : List Chan) : List Rung → Prop
  | [] => True
  | k :: ks => Recoverable k answers none chans ∧ ((∀ chan ∈ chans, ¬ chan.fails k answers) → Climbable answers chans ks)

instance Climbable.decidable (answers : Answers) (chans : List Chan) : (ks : List Rung) → Decidable (Climbable answers chans ks)
  | [] => inferInstanceAs (Decidable True)
  | _ :: ks =>
    have := Climbable.decidable answers chans ks
    inferInstanceAs (Decidable (_ ∧ (_ → _)))

/-- What a change of status up does to the trace and how it ends. -/
structure Risen (p q : Pipeline) (high : PipelineStatus) (err : Int) (calls : List (Call Key)) : Prop where
  tracks : q.Tracks
  trace : q.trace.map Callback.call = p.trace.map Callback.call ++ calls
  ends : err = 0 ∧ q.status = high ∧ Smooth calls ∨
    err < 0 ∧ p.status.rank ≤ q.status.rank ∧ q.status.rank < high.rank ∧ ∀ k w, .raise (k, w) false ∈ calls →
      q.status = k.below ∧ ∀ w, lowered (k, w) calls = raised (k, w) calls

theorem raised_rung {ops : Ops} {w : Place} : ∀ c ∈ Callback.raised ops k w answers, c.rung = k := by
  intro c member
  rw [Callback.raised] at member
  split at member
  · rw [List.mem_singleton.mp member]
    rfl
  · cases member

theorem lowered_rung {ops : Ops} {w : Place} : ∀ c ∈ Callback.lowered ops k w, c.rung = k := by
  intro c member
  rw [Callback.lowered] at member
  split at member
  · rw [List.mem_singleton.mp member]
    rfl
  · cases member

theorem attempt_rung {chan : Chan} : ∀ c ∈ (chan.attempt k answers).1, c.rung = k := by
  intro c member
  rw [Chan.attempt] at member
  split at member
  · exact raised_rung c member
  · dsimp only at member
    split at member
    · obtain (here | here) | here := (List.mem_append.mp member).imp_left List.mem_append.mp
      · exact raised_rung c here
      · exact raised_rung c here
      · exact lowered_rung c here
    · obtain here | here := List.mem_append.mp member
      · exact raised_rung c here
      · exact raised_rung c here

/-- A walk only calls callbacks of its own rung. -/
theorem walkUp_rung {prev : Option Chan} {chans : List Chan} : ∀ c ∈ (walkUp k answers prev chans).1, c.rung = k := by
  induction chans generalizing prev with
  | nil =>
    cases prev with
    | none => exact fun _ => nofun
    | some prev => exact raised_rung
  | cons chan chans ih =>
    intro c member
    by_cases fails : chan.fails k answers
    · obtain ⟨_, -, -, stops⟩ := @walkUp_fails k answers chan prev chans fails
      rw [stops] at member
      exact attempt_rung c member
    · rw [walkUp_passes fails] at member
      obtain here | later := List.mem_append.mp member
      · exact attempt_rung c here
      · exact ih c later

theorem walkDown_rung {stop_at : Option Nat} {prev : Option Chan} {chans : List Chan} :
    ∀ c ∈ walkDown k stop_at prev chans, c.rung = k := by
  induction chans generalizing prev with
  | nil =>
    cases prev with
    | none => exact fun _ => nofun
    | some prev => exact lowered_rung
  | cons chan chans ih =>
    intro c member
    rw [walkDown] at member
    split at member
    · cases member
    · obtain (here | here) | here := (List.mem_append.mp member).imp_left List.mem_append.mp
      · exact lowered_rung c here
      · exact lowered_rung c here
      · exact ih c here

theorem climb_rung : ∃ calls, (p.climb k answers).1.trace = p.trace ++ calls ∧ ∀ c ∈ calls, c.rung = k := by
  rw [climb]
  split
  · exact ⟨_, rfl, walkUp_rung⟩
  · refine ⟨_, by rw [fall_trace, List.append_assoc], fun c member => ?_⟩
    obtain here | here := List.mem_append.mp member
    · exact walkUp_rung c here
    · exact walkDown_rung c here

/-- The calls of a step up belong to its rung. -/
theorem Climbed.rung {err : Int} {calls : List (Call Key)} (climbed : Climbed p (p.climb k answers).1 k answers err calls) :
    ∀ call ∈ calls, call.about.1 = k := by
  obtain ⟨own, trace, rung⟩ := @climb_rung p k answers
  have same := climbed.trace
  rw [trace, List.map_append] at same
  obtain rfl := List.append_cancel_left same
  intro call member
  obtain ⟨c, there, rfl⟩ := List.mem_map.mp member
  rw [← rung c there]
  cases c <;> rfl

theorem rise_recoverable (tracks : p.Tracks) (here : p.status = k.below)
    (recoverable : Recoverable k answers none p.entries) :
    ∃ calls, Climbed p (p.rise answers k).1 k answers (p.rise answers k).2 calls ∧ ∀ call ∈ calls, call.about.1 = k := by
  cases k with
  | connection =>
    obtain ⟨calls, climbed⟩ := climb_recoverable tracks here recoverable
    exact ⟨calls, climbed, climbed.rung⟩
  | opening =>
    -- the negotiated MTU is the only difference
    have negotiated : { p with mtu := p.negotiateMtu }.Tracks := ⟨tracks.linked, tracks.orderly⟩
    obtain ⟨calls, climbed⟩ := climb_recoverable negotiated here recoverable
    exact ⟨calls, ⟨climbed.tracks, climbed.trace, climbed.ends⟩, climbed.rung⟩
  | flow =>
    obtain ⟨calls, climbed⟩ := climb_recoverable tracks here recoverable
    exact ⟨calls, climbed, climbed.rung⟩

theorem rises_failed {ks : List Rung} {err : Int} (negative : err < 0) : rises answers ks (p, err) = (p, err) := by
  induction ks with
  | nil => rfl
  | cons k ks ih =>
    rw [rises, List.foldl_cons, andThen, if_pos negative]
    exact ih

theorem rises_cons {ks : List Rung} : rises answers (k :: ks) (p, 0) = rises answers ks (p.rise answers k) := by
  rw [rises, List.foldl_cons, andThen_zero]
  rfl

theorem Ladder.rank {low high : PipelineStatus} {ks : List Rung} (ladder : Ladder low ks high) : low.rank ≤ high.rank := by
  induction ladder with
  | nil => exact Nat.le_refl _
  | cons k _ ih => exact Nat.le_trans (Nat.le_of_lt (Rung.below_lt k)) ih

/-- Steps up, all of them recoverable. -/
theorem rises_risen {low high : PipelineStatus} {ks : List Rung} (ladder : Ladder low ks high) (here : p.status = low)
    (tracks : p.Tracks) (climbable : Climbable answers p.entries ks) :
    ∃ calls, Risen p (rises answers ks (p, 0)).1 high (rises answers ks (p, 0)).2 calls := by
  induction ladder generalizing p with
  | nil =>
    refine ⟨[], tracks, ?_, .inl ⟨rfl, here, fun _ => nofun⟩⟩
    rw [List.append_nil]
    rfl
  | @cons k ks high ladder ih =>
    obtain ⟨recoverable, later⟩ := climbable
    obtain ⟨calls, climbed, rung⟩ := rise_recoverable tracks here recoverable
    rw [rises_cons]
    obtain ⟨err, status, entries, fine, smooth⟩ | ⟨negative, status, balanced⟩ := climbed.ends
    · have went : p.rise answers k = ((p.rise answers k).1, 0) := by rw [← err]
      rw [went]
      obtain ⟨calls', risen⟩ := ih status climbed.tracks (entries.symm ▸ later fine)
      refine ⟨calls ++ calls', risen.tracks, ?_, ?_⟩
      · rw [risen.trace, climbed.trace, List.append_assoc]
      · obtain ⟨err, done, smooth'⟩ | ⟨negative, least, most, undone⟩ := risen.ends
        · exact .inl ⟨err, done, fun key => List.not_mem_append (smooth key) (smooth' key)⟩
        · rw [status] at least
          refine .inr ⟨negative, ?_, most, fun h w member => ?_⟩
          · rw [here]
            exact Nat.le_trans (Nat.le_of_lt (Rung.below_lt k)) least
          · obtain ⟨fell, balanced⟩ := undone h w ((List.mem_append.mp member).resolve_left (smooth _))
            -- the step that failed is a later one, of another rung
            have other : ∀ w, ∀ call ∈ calls, call.about ≠ (h, w) := by
              intro w call there same
              have this := rung call there
              rw [same] at this
              rw [fell, ← this] at least
              exact absurd (Rung.below_lt h) (Nat.not_lt.mpr least)
            refine ⟨fell, fun w => ?_⟩
            have before := raised_elsewhere (other w)
            have before' := lowered_elsewhere (other w)
            have after := balanced w
            simp only [raised, lowered, List.count_append] at before before' after ⊢
            omega
    · have went : p.rise answers k = ((p.rise answers k).1, (p.rise answers k).2) := rfl
      rw [went, rises_failed negative]
      refine ⟨calls, climbed.tracks, climbed.trace, .inr ⟨negative, ?_, ?_, fun h w member => ?_⟩⟩
      · rw [here]
        exact Nat.le_of_eq (congrArg _ status).symm
      · dsimp only
        rw [status]
        exact Nat.lt_of_lt_of_le (Rung.below_lt k) ladder.rank
      · obtain rfl : h = k := rung _ member
        exact ⟨status, fun w => balanced _⟩

/-- Steps down. -/
theorem falls_fallen {low high : PipelineStatus} {ks : List Rung} (ladder : Ladder low ks high) (here : p.status = high)
    (tracks : p.Tracks) :
    (falls ks.reverse p).Tracks ∧ (falls ks.reverse p).status = low ∧
      ∃ calls, (falls ks.reverse p).trace = p.trace ++ calls ∧ Smooth (calls.map Callback.call) := by
  induction ladder generalizing p with
  | nil =>
    refine ⟨tracks, here, [], ?_, fun _ => nofun⟩
    rw [List.append_nil]
    rfl
  | @cons k ks high ladder ih =>
    obtain ⟨tracks', status, calls, trace, smooth⟩ := ih here tracks
    obtain ⟨tracks'', status', calls', trace', smooth'⟩ := fall_tracks tracks' status
    have last : falls (k :: ks).reverse p = (falls ks.reverse p).fall none k := by
      rw [falls, List.reverse_cons, List.foldl_append]
      rfl
    rw [last]
    refine ⟨tracks'', status', calls ++ calls', ?_, fun key => ?_⟩
    · rw [trace', trace, List.append_assoc]
    · rw [List.map_append]
      exact List.not_mem_append (smooth key) (smooth' key)

end Pipeline

/-- A call of `ks_pipeline_change_status`, with what the drivers answer to it. -/
structure Request where
  status : PipelineStatus
  answers : Answers := fun _ _ => 0

namespace Pipeline

variable {p : Pipeline} {r : Request}

def take (p : Pipeline) (r : Request) : Option Pipeline := some (p.changeStatus r.status r.answers).1

/-- The driver callbacks of one change of status. -/
def calls (p : Pipeline) (r : Request) : List (Call Key) :=
  ((p.changeStatus r.status r.answers).1.trace.drop p.trace.length).map Callback.call

/-- Every pair alternates over the whole trace; a step in which a callback
failed left nothing of its own behind and the status it started from; and the
answer tells whether the status is the requested one. -/
structure Honours (p : Pipeline) (r : Request) : Prop where
  orderly : ∃ up, Orderly rests (fun _ => false) ((p.changeStatus r.status r.answers).1.trace.map Callback.call) up ∧
    ∀ k w, .raise (k, w) false ∈ p.calls r → ∀ w, up (k, w) = false
  undone : ∀ k w, .raise (k, w) false ∈ p.calls r → (p.changeStatus r.status r.answers).1.status = k.below ∧
    ∀ w, lowered (k, w) (p.calls r) = raised (k, w) (p.calls r)
  answer : (p.changeStatus r.status r.answers).2 = 0 ↔ (p.changeStatus r.status r.answers).1.status = r.status

/-- Every walk that the call makes upwards is recoverable. -/
def Meets (p : Pipeline) (r : Request) : Prop := Climbable r.answers p.entries (Rung.between p.status r.status)

instance (p : Pipeline) (r : Request) : Decidable (p.Meets r) := inferInstanceAs (Decidable (Climbable ..))

theorem calls_eq {calls : List (Call Key)}
    (trace : (p.changeStatus r.status r.answers).1.trace.map Callback.call = p.trace.map Callback.call ++ calls) :
    p.calls r = calls := by
  rw [Pipeline.calls, List.map_drop, trace, List.drop_left' (List.length_map _)]

theorem changeStatus_risen (tracks : p.Tracks) (up : p.status.rank ≤ r.status.rank) (meets : p.Meets r) :
    Risen p (p.changeStatus r.status r.answers).1 r.status (p.changeStatus r.status r.answers).2 (p.calls r) := by
  have whole := p.changeStatus_eq r.status r.answers
  rw [if_pos up] at whole
  obtain ⟨calls, risen⟩ := rises_risen (between_ladder up) rfl tracks meets
  rw [← whole] at risen
  rw [calls_eq risen.trace]
  exact risen

theorem changeStatus_fallen (tracks : p.Tracks) (down : r.status.rank < p.status.rank) :
    (p.changeStatus r.status r.answers).1.Tracks ∧ (p.changeStatus r.status r.answers).1.status = r.status ∧
      (p.changeStatus r.status r.answers).2 = 0 ∧ Smooth (p.calls r) := by
  have whole := p.changeStatus_eq r.status r.answers
  rw [if_neg (Nat.not_le.mpr down)] at whole
  obtain ⟨tracks', status, calls, trace, smooth⟩ := falls_fallen (between_ladder (Nat.le_of_lt down)) rfl tracks
  have trace' : (p.changeStatus r.status r.answers).1.trace.map Callback.call =
      p.trace.map Callback.call ++ calls.map Callback.call := by
    rw [whole, ← List.map_append]
    exact congrArg _ trace
  rw [calls_eq trace', whole]
  exact ⟨tracks', status, rfl, smooth⟩

theorem take_tracks {q : Pipeline} (tracks : p.Tracks) (meets : p.Meets r) (took : p.take r = some q) : q.Tracks := by
  obtain rfl := Option.some.inj took
  obtain up | down := Nat.lt_or_ge r.status.rank p.status.rank |>.symm
  · exact (changeStatus_risen tracks up meets).tracks
  · exact (changeStatus_fallen tracks down).1

theorem tracks_start {chans : List Chan} (linked : Linked chans) : { entries := chans : Pipeline }.Tracks := by
  refine ⟨linked, ?_⟩
  have nothing : { entries := chans : Pipeline }.standing = fun _ => false := by
    funext key
    obtain ⟨k, w⟩ := key
    exact standing_free (Nat.lt_of_le_of_lt (Nat.zero_le k.below.rank) (Rung.below_lt k)) w
  rw [nothing]
  exact Orderly.nil

theorem Tracks.honours (tracks : p.Tracks) (meets : p.Meets r) : p.Honours r := by
  obtain up | down := Nat.lt_or_ge r.status.rank p.status.rank |>.symm
  · have risen := changeStatus_risen tracks up meets
    obtain ⟨err, status, smooth⟩ | ⟨negative, -, short, undone⟩ := risen.ends
    · exact ⟨⟨_, risen.tracks.orderly, fun k w failed => absurd failed (smooth _)⟩,
        fun k w failed => absurd failed (smooth _), iff_of_true err status⟩
    · refine ⟨⟨_, risen.tracks.orderly, fun k w failed w' => ?_⟩, undone, iff_of_false (by omega) ?_⟩
      · exact standing_free ((undone k w failed).1.symm ▸ Rung.below_lt k) w'
      · intro same
        exact absurd (congrArg _ same) (Nat.ne_of_lt short)
  · obtain ⟨tracks', status, err, smooth⟩ := changeStatus_fallen tracks down
    exact ⟨⟨_, tracks'.orderly, fun k w failed => absurd failed (smooth _)⟩,
      fun k w failed => absurd failed (smooth _), iff_of_true err status⟩

/-- Whatever the drivers answer, a pipeline whose walks are all recoverable
keeps its callbacks in pairs, and undoes exactly what a failing step did. -/
theorem callbacks_stay_paired_of_run {chans : List Chan} (linked : Linked chans) {rs : List Request}
    (run : Run take Meets { entries := chans } rs p) (meets : p.Meets r) : p.Honours r :=
  (run.invariant Tracks take_tracks (tracks_start linked)).honours meets

/-- A driver that provides every callback. -/
def full : Ops := ⟨true, true, true, true, true, true⟩

theorem full_paired : full.Paired := by
  intro k
  cases k <;> rfl

theorem silent_paired : ({} : Ops).Paired := by
  intro k
  cases k <;> rfl

/-- A channel that its driver follows through all rungs, behind one that no
callback belongs to. -/
def pair : List Chan := [⟨1, {}, {}, {}, -1⟩, ⟨2, full, full, full, -1⟩]

theorem pair_linked : Linked pair := by
  refine ⟨by decide, List.forall_mem_cons.mpr ⟨⟨?_, ?_, ?_⟩, List.forall_mem_singleton.mpr ⟨?_, ?_, ?_⟩⟩⟩
  · exact silent_paired
  · exact silent_paired
  · exact silent_paired
  · exact full_paired
  · exact full_paired
  · exact full_paired

/-- The second channel refuses to start. -/
def refusesStart : Answers := fun k w => if k = .flow ∧ w = .chan 2 then -5 else 0

theorem refused_start_is_undone :
    (({ entries := pair } : Pipeline).changeStatus .open fun _ _ => 0).1.Honours ⟨.flowing, refusesStart⟩ :=
  have run : Run take Meets { entries := pair } [⟨.open, fun _ _ => 0⟩] _ := .cons (by decide) rfl (.nil _)
  callbacks_stay_paired_of_run pair_linked run (by decide)

/-- A pipeline of one channel, which refuses to be connected. -/
def refusesConnect : Answers := fun _ w => if w = .chan 1 then -5 else 0

/-- The first channel of the pipeline refuses: everything is disconnected,
what was never connected as well. -/
theorem refused_connect_disconnects_all :
    ¬ ∀ chans : List Chan, Linked chans → ∀ (rs : List Request) (p : Pipeline) (r : Request),
      Run take Any { entries := chans } rs p → p.Honours r := by
  intro always
  have linked : Linked [⟨1, full, full, full, -1⟩] :=
    ⟨by decide, List.forall_mem_singleton.mpr ⟨full_paired, full_paired, full_paired⟩⟩
  have honours := always _ linked [] _ ⟨.connected, refusesConnect⟩ (.nil _)
  obtain ⟨-, balanced⟩ := honours.undone .connection (.chan 1) (by decide)
  exact absurd (balanced (.chan 1)) (by decide)

end Pipeline
end Vstuff.Kstreamer
