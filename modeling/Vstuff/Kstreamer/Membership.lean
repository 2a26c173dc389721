import Vstuff.Kstreamer.LifeCycle
import Vstuff.Kstreamer.Registry

/-! Which channel is in which pipeline, and what a request that creates one
leaves behind when it fails, over any sequence of requests and of channels that
come and go. -/
namespace Vstuff.Kstreamer
open Transition Pairs
set_option linter.all false

/-- A step up that fails finds nothing in effect on the rungs below it, since
the error path of the request does not take them down again. -/
def Retractable (answers : Answers) (chans : List Chan) : List Rung → Prop
  | [] => True
  | k :: ks => (∀ chan ∈ chans, ¬ chan.fails k answers) →
      (roster k none chans = [] ∨ ∀ h ∈ ks, ∀ chan ∈ chans, ¬ chan.fails h answers) ∧ Retractable answers chans ks

instance Retractable.decidable (answers : Answers) (chans : List Chan) :
    (ks : List Rung) → Decidable (Retractable answers chans ks)
  | [] => inferInstanceAs (Decidable True)
  | _ :: ks =>
    have := Retractable.decidable answers chans ks
    inferInstanceAs (Decidable (_ → _ ∧ _))

/-- What a change of status does to the channels of a pipeline. -/
inductive Pipeline.Leaves (p q : Pipeline) : Prop where
  | kept (entries : q.entries = p.entries) (status : q.status = .null → p.status = .null)
  | emptied (entries : q.entries = []) (status : q.status = .null)

theorem Rung.above_ne (k : Rung) : k.above ≠ .null := by
  cases k <;> exact nofun

theorem PipelineStatus.ofNat?_ne_null {n : Nat} (positive : n ≠ 0) : PipelineStatus.ofNat? n ≠ some .null := by
  intro null
  rw [PipelineStatus.ofNat?.eq_def] at null
  split at null
  · exact positive rfl
  all_goals cases null

namespace Pipeline

variable {p q : Pipeline} {k : Rung} {answers : Answers}

theorem walkUp_negative {prev before : Option Chan} {chans : List Chan} {err : Int}
    (failed : (walkUp k answers prev chans).2 = .failed err before) : err < 0 := by
  induction chans generalizing prev with
  | nil => cases prev <;> cases failed
  | cons chan chans ih =>
    by_cases fails : chan.fails k answers
    · obtain ⟨err', negative, -, stops⟩ := @walkUp_fails k answers chan prev chans fails
      rw [stops] at failed
      cases failed
      exact negative
    · rw [walkUp_passes fails] at failed
      exact ih failed

/-- Where a step up gets to, whatever the drivers answer. -/
theorem climb_ends :
    (p.climb k answers).2 = 0 ∧ (p.climb k answers).1.status = k.above ∧ (p.climb k answers).1.entries = p.entries ∨
      (p.climb k answers).2 < 0 ∧ (p.climb k answers).1.status = k.below ∧
        ((p.climb k answers).1.entries = p.entries ∨ (p.climb k answers).1.entries = [] ∧ k = .connection) := by
  rw [climb]
  split
  · exact .inl ⟨rfl, rfl, rfl⟩
  · rename_i err prev failed
    exact .inr ⟨walkUp_negative failed, fall_status prev, fall_entries prev⟩

theorem rise_ends :
    (p.rise answers k).2 = 0 ∧ (p.rise answers k).1.status = k.above ∧ (p.rise answers k).1.entries = p.entries ∨
      (p.rise answers k).2 < 0 ∧ (p.rise answers k).1.status = k.below ∧
        ((p.rise answers k).1.entries = p.entries ∨ (p.rise answers k).1.entries = [] ∧ k = .connection) := by
  cases k with
  | connection => exact climb_ends
  | opening => exact @climb_ends { p with mtu := p.negotiateMtu } .opening answers
  | flow => exact climb_ends

theorem below_connection (connection : k = .connection) : k.below = .null := by
  rw [connection]
  rfl

/-- What the steps up leave, and how they end. -/
theorem rises_leaves {low high : PipelineStatus} {ks : List Rung} (ladder : Ladder low ks high) (here : p.status = low) :
    p.Leaves (rises answers ks (p, 0)).1 ∧
      ((rises answers ks (p, 0)).2 = 0 ∧ (rises answers ks (p, 0)).1.status = high ∨ (rises answers ks (p, 0)).2 < 0) := by
  induction ladder generalizing p with
  | nil => exact ⟨.kept rfl id, .inl ⟨rfl, here⟩⟩
  | @cons k ks high ladder ih =>
    rw [rises_cons]
    obtain ⟨err, status, entries⟩ | ⟨negative, status, entries⟩ := @rise_ends p k answers
    · have went : p.rise answers k = ((p.rise answers k).1, 0) := by rw [← err]
      rw [went]
      obtain ⟨leaves, ends⟩ := ih status
      refine ⟨?_, ends⟩
      obtain ⟨same, null⟩ | ⟨none, null⟩ := leaves
      · exact .kept (same.trans entries) fun last => absurd (status.symm.trans (null last)) (Rung.above_ne k)
      · exact .emptied none null
    · have went : p.rise answers k = ((p.rise answers k).1, (p.rise answers k).2) := rfl
      rw [went, rises_failed negative]
      refine ⟨?_, .inr negative⟩
      obtain same | ⟨none, connection⟩ := entries
      · exact .kept same fun null => here.trans (status.symm.trans null)
      · exact .emptied none (status.trans (below_connection connection))

theorem falls_leaves {low high : PipelineStatus} {ks : List Rung} (ladder : Ladder low ks high) (here : p.status = high) :
    p.Leaves (falls ks.reverse p) ∧ (falls ks.reverse p).status = low := by
  induction ladder generalizing p with
  | nil => exact ⟨.kept rfl id, here⟩
  | @cons k ks high ladder ih =>
    obtain ⟨leaves, status⟩ := ih here
    have last : falls (k :: ks).reverse p = (falls ks.reverse p).fall none k := by
      rw [falls, List.reverse_cons, List.foldl_append]
      rfl
    rw [last]
    refine ⟨?_, fall_status none⟩
    obtain same | ⟨empty, connection⟩ := @fall_entries (falls ks.reverse p) k none
    · obtain ⟨entries, null⟩ | ⟨empty, null⟩ := leaves
      · cases k with
        | connection => exact .emptied rfl rfl
        | opening => exact .kept (same.trans entries) (fun null => by cases null)
        | flow => exact .kept (same.trans entries) (fun null => by cases null)
      · exact absurd (status.symm.trans null) (Rung.above_ne k)
    · exact .emptied empty ((fall_status none).trans (below_connection connection))

/-- A change of status keeps the channels, or it lets all of them go and the
status is NULL. -/
theorem changeStatus_leaves (status : PipelineStatus) : p.Leaves (p.changeStatus status answers).1 := by
  rw [changeStatus_eq]
  split
  · rename_i up
    exact (rises_leaves (between_ladder up) rfl).1
  · rename_i down
    exact (falls_leaves (between_ladder (Nat.le_of_not_le down)) rfl).1

/-- The answer of a change of status is an error, or the status is the one asked
for. -/
theorem changeStatus_ends (status : PipelineStatus) :
    (p.changeStatus status answers).2 = 0 ∧ (p.changeStatus status answers).1.status = status ∨
      (p.changeStatus status answers).2 < 0 := by
  rw [changeStatus_eq]
  split
  · rename_i up
    exact (rises_leaves (between_ladder up) rfl).2
  · rename_i down
    exact .inl ⟨rfl, (falls_leaves (between_ladder (Nat.le_of_not_le down)) rfl).2⟩

theorem changeStatus_null : (p.changeStatus .null answers).1.status = .null ∧ (p.changeStatus .null answers).2 = 0 := by
  obtain ⟨here, entries, mtu, trace⟩ := p
  cases here <;> exact ⟨rfl, rfl⟩

/-- A walk in which no turn fails goes through. -/
theorem rise_fine (fine : ∀ chan ∈ p.entries, ¬ chan.fails k answers) :
    (p.rise answers k).2 = 0 ∧ (p.rise answers k).1.status = k.above ∧ (p.rise answers k).1.entries = p.entries := by
  have through : (walkUp k answers none p.entries).2 = .done := by
    obtain ⟨-, ends⟩ := @walkUp_append k answers none [] p.entries fine
    rw [List.append_nil] at ends
    rw [ends]
    cases p.entries.getLast?.or none <;> rfl
  cases k with
  | connection =>
    rw [rise, nullToConnected, climb, through]
    exact ⟨rfl, rfl, rfl⟩
  | opening =>
    rw [rise, connectedToOpen, climb]
    rw [through]
    exact ⟨rfl, rfl, rfl⟩
  | flow =>
    rw [rise, openToFlowing, climb, through]
    exact ⟨rfl, rfl, rfl⟩

theorem rises_fine {ks : List Rung} (fine : ∀ h ∈ ks, ∀ chan ∈ p.entries, ¬ chan.fails h answers) :
    (rises answers ks (p, 0)).2 = 0 := by
  induction ks generalizing p with
  | nil => rfl
  | cons k ks ih =>
    obtain ⟨here, later⟩ := List.forall_mem_cons.mp fine
    obtain ⟨err, -, entries⟩ := rise_fine here
    have went : p.rise answers k = ((p.rise answers k).1, 0) := by rw [← err]
    rw [rises_cons, went]
    exact ih (entries.symm ▸ later)

/-- Steps up that fail leave nothing in effect, where nothing was before. -/
theorem rises_retracts {low high : PipelineStatus} {ks : List Rung} (ladder : Ladder low ks high) (here : p.status = low)
    (tracks : p.Tracks) (climbable : Climbable answers p.entries ks) (retractable : Retractable answers p.entries ks)
    (nothing : ∀ key, p.standing key = false) (failed : (rises answers ks (p, 0)).2 < 0) (key : Key) :
    (rises answers ks (p, 0)).1.standing key = false := by
  induction ladder generalizing p with
  | nil => exact nothing key
  | @cons k ks high ladder ih =>
    obtain ⟨recoverable, later⟩ := climbable
    obtain ⟨calls, climbed, -⟩ := rise_recoverable tracks here recoverable
    rw [rises_cons] at failed ⊢
    obtain ⟨err, status, entries, fine, -⟩ | ⟨negative, status, -⟩ := climbed.ends
    · have went : p.rise answers k = ((p.rise answers k).1, 0) := by rw [← err]
      rw [went] at failed ⊢
      obtain ⟨bare | smooth, retractable⟩ := retractable fine
      · refine ih status climbed.tracks (entries.symm ▸ later fine) (entries.symm ▸ retractable) (fun key => ?_) failed
        rw [← Bool.not_eq_true, standing_step status here (.inl entries.symm), nothing key, entries, bare]
        exact not_or.mpr ⟨Bool.false_ne_true, List.not_mem_nil⟩
      · have fine := rises_fine (entries.symm ▸ smooth)
        omega
    · have went : p.rise answers k = ((p.rise answers k).1, (p.rise answers k).2) := rfl
      rw [went, rises_failed negative]
      have entries : (p.rise answers k).1.entries = p.entries ∨ (p.rise answers k).1.status = .null := by
        obtain ⟨err, -, -⟩ | ⟨-, -, same | ⟨-, connection⟩⟩ := @rise_ends p k answers
        · exact absurd (err ▸ negative) (Int.lt_irrefl 0)
        · exact .inl same
        · exact .inr (status.trans (below_connection connection))
      dsimp only
      rw [standing_same (status.trans here.symm) entries]
      exact nothing key

end Pipeline

namespace Kernel

/-- Each channel of these pipelines is in one of them, once, and says so. -/
structure Consistent (k : Kernel) (pipes : List Pipe) : Prop where
  chans : (k.chans.map (·.2.id)).Nodup
  paired : ∀ c ∈ k.chans, c.2.Paired
  distinct : (pipes.map Pipe.ptr).Nodup
  fresh : ∀ pipe ∈ pipes, pipe.ptr < k.next
  member : ∀ c p, k.pipeline_of c = some p ↔ ∃ pipe ∈ pipes, pipe.ptr = p ∧ c ∈ pipe.members
  once : ∀ pipe ∈ pipes, pipe.members.Nodup
  owned : ∀ pipe ∈ pipes, ∀ chan ∈ pipe.body.entries, chan ∈ k.chans.map Prod.snd
  counted : ∀ c, k.chan_refs c = ((k.chans.any (·.2.id = c)).toNat : Int) + ((k.pipeline_of c).isSome.toNat : Int)

/-- A pipeline a request works on, with the others: `spare` counts the references
that no channel holds. -/
structure Staged (others : List Pipe) (s : Kernel × Pipe) (spare : Int) : Prop where
  consistent : Consistent s.1 (s.2 :: others)
  refs : s.2.refs = s.2.body.entries.length + spare

variable {k : Kernel} {pipe q : Pipe} {pipes others : List Pipe} {s : Kernel × Pipe} {spare : Int} {chan : Chan}
  {answers : Answers} {attrs : List Attr}

theorem Consistent.perm (consistent : Consistent k pipes) (same : pipes.Perm others) : Consistent k others where
  chans := consistent.chans
  paired := consistent.paired
  distinct := (same.map Pipe.ptr).nodup_iff.mp consistent.distinct
  fresh := fun pipe member => consistent.fresh pipe (same.mem_iff.mpr member)
  member := by
    intro c p
    rw [consistent.member]
    exact exists_congr fun pipe => and_congr_left' same.mem_iff
  once := fun pipe member => consistent.once pipe (same.mem_iff.mpr member)
  owned := fun pipe member => consistent.owned pipe (same.mem_iff.mpr member)
  counted := consistent.counted

/-- The same channels in the pipeline at the head. -/
theorem Consistent.replace (consistent : Consistent k (pipe :: others)) (ptr : q.ptr = pipe.ptr)
    (entries : q.body.entries = pipe.body.entries) : Consistent k (q :: others) := by
  have members : q.members = pipe.members := congrArg (List.map Chan.id) entries
  refine ⟨consistent.chans, consistent.paired, ?_, ?_, ?_, ?_, ?_, consistent.counted⟩
  · rw [List.map_cons, ptr]
    exact consistent.distinct
  · rw [List.forall_mem_cons, ptr]
    exact List.forall_mem_cons.mp consistent.fresh
  · intro c p
    rw [consistent.member, List.exists_mem_cons_iff, List.exists_mem_cons_iff, ptr, members]
  · rw [List.forall_mem_cons, members]
    exact List.forall_mem_cons.mp consistent.once
  · rw [List.forall_mem_cons, entries]
    exact List.forall_mem_cons.mp consistent.owned

/-- No other pipeline has a channel of the one at the head. -/
theorem Consistent.apart (consistent : Consistent k (pipe :: others)) {other : Pipe} (there : other ∈ others) {c : Nat}
    (member : c ∈ pipe.members) : c ∉ other.members := by
  intro also
  have here := (consistent.member c pipe.ptr).mpr ⟨pipe, List.mem_cons_self, rfl, member⟩
  have there' := (consistent.member c other.ptr).mpr ⟨other, List.mem_cons_of_mem _ there, rfl, also⟩
  have same : pipe.ptr = other.ptr := Option.some.inj (here.symm.trans there')
  exact (List.nodup_cons.mp consistent.distinct).1 (same ▸ List.mem_map_of_mem there)

/-- A pipeline without channels can be left out. -/
theorem Consistent.retire (consistent : Consistent k (pipe :: others)) (empty : pipe.body.entries = []) :
    Consistent k others := by
  refine ⟨consistent.chans, consistent.paired, (List.nodup_cons.mp consistent.distinct).2,
    (List.forall_mem_cons.mp consistent.fresh).2, ?_, (List.forall_mem_cons.mp consistent.once).2,
    (List.forall_mem_cons.mp consistent.owned).2, consistent.counted⟩
  intro c p
  rw [consistent.member, List.exists_mem_cons_iff]
  have none : c ∉ pipe.members := by
    rw [Pipe.members, empty]
    exact List.not_mem_nil
  exact or_iff_right fun here => none here.2

/-- A new pipeline, of a pointer not handed out yet. -/
theorem Consistent.create (consistent : Consistent k pipes) :
    Consistent { k with next := k.next + 1 } ({ ptr := k.next } :: pipes) := by
  refine ⟨consistent.chans, consistent.paired, ?_, ?_, ?_, ?_, ?_, consistent.counted⟩
  · refine List.nodup_cons.mpr ⟨fun there => ?_, consistent.distinct⟩
    obtain ⟨pipe, member, same⟩ := List.mem_map.mp there
    exact Nat.lt_irrefl _ (same ▸ consistent.fresh pipe member)
  · exact List.forall_mem_cons.mpr
      ⟨Nat.lt_succ_self _, fun pipe member => Nat.lt_succ_of_lt (consistent.fresh pipe member)⟩
  · intro c p
    rw [List.exists_mem_cons_iff]
    exact (consistent.member c p).trans (or_iff_right fun here => List.not_mem_nil here.2).symm
  · exact List.forall_mem_cons.mpr ⟨List.nodup_nil, consistent.once⟩
  · exact List.forall_mem_cons.mpr ⟨fun _ => nofun, consistent.owned⟩

/-- The parts of the kernel that no pipeline under way changes. -/
def rest (k : Kernel) : List (Nat × Chan) × Nat × List Pipe × List Pipe × Nat × Nat :=
  (k.chans, k.chan_cur_id, k.pipelines, k.loose, k.cur_id, k.next)

/-- All turns of the loop that takes channels out. -/
theorem detach_all (chans : List Chan) (s : Kernel × Pipe) :
    chans.foldl detach s =
      ({ s.1 with
          pipeline_of := fun c => if c ∈ chans.map Chan.id then none else s.1.pipeline_of c
          chan_refs := fun c => s.1.chan_refs c - ((chans.map Chan.id).count c : Int) },
        { s.2 with refs := s.2.refs - chans.length }) := by
  induction chans generalizing s with
  | nil => simp
  | cons chan chans ih =>
    rw [List.foldl_cons, ih]
    have owner : (fun c => if c ∈ chans.map Chan.id then none else Function.update s.1.pipeline_of chan.id none c) =
        fun c => if c ∈ (chan :: chans).map Chan.id then none else s.1.pipeline_of c := by
      funext c
      by_cases here : c = chan.id
      · simp [here]
      · simp [here]
    have count : (fun c => Function.update s.1.chan_refs chan.id (s.1.chan_refs chan.id - 1) c -
        ((chans.map Chan.id).count c : Int)) =
        fun c => s.1.chan_refs c - (((chan :: chans).map Chan.id).count c : Int) := by
      funext c
      by_cases here : c = chan.id
      · simp [here]
        omega
      · simp [here, Ne.symm here]
    have refs : s.2.refs - 1 - (chans.length : Int) = s.2.refs - ((chan :: chans).length : Int) := by
      rw [List.length_cons]
      omega
    simp only [detach, Pipe.put, owner, count, refs]

/-- Every channel of the pipeline at the head taken out. -/
theorem Consistent.detached {p : Pipe} (consistent : Consistent k (pipe :: others)) (ptr : q.ptr = pipe.ptr)
    (empty : q.body.entries = []) : Consistent (pipe.body.entries.foldl detach (k, p)).1 (q :: others) := by
  rw [detach_all]
  have members : q.members = [] := by rw [Pipe.members, empty, List.map_nil]
  refine ⟨consistent.chans, consistent.paired, ?_, ?_, ?_, ?_, ?_, ?_⟩
  · rw [List.map_cons, ptr]
    exact consistent.distinct
  · rw [List.forall_mem_cons, ptr]
    exact List.forall_mem_cons.mp consistent.fresh
  · intro c p
    rw [List.exists_mem_cons_iff, members, or_iff_right fun here => List.not_mem_nil here.2]
    change (if c ∈ pipe.members then none else k.pipeline_of c) = some p ↔ _
    split
    · rename_i member
      refine iff_of_false nofun ?_
      rintro ⟨other, there, -, also⟩
      exact consistent.apart there member also
    · rename_i out
      rw [consistent.member, List.exists_mem_cons_iff]
      exact or_iff_right fun here => out here.2
  · rw [List.forall_mem_cons, members]
    exact ⟨List.nodup_nil, (List.forall_mem_cons.mp consistent.once).2⟩
  · rw [List.forall_mem_cons, empty]
    exact ⟨fun _ => nofun, (List.forall_mem_cons.mp consistent.owned).2⟩
  · intro c
    have counted := consistent.counted c
    change k.chan_refs c - (pipe.members.count c : Int) =
      _ + ((if c ∈ pipe.members then none else k.pipeline_of c).isSome.toNat : Int)
    by_cases member : c ∈ pipe.members
    · have owner := (consistent.member c pipe.ptr).mpr ⟨pipe, List.mem_cons_self, rfl, member⟩
      have once := List.count_eq_one_of_mem (consistent.once pipe List.mem_cons_self) member
      rw [owner] at counted
      rw [once, if_pos member, counted]
      simp
    · rw [List.count_eq_zero_of_not_mem member, if_neg member, counted]
      simp

/-- A free channel put into the pipeline at the head. -/
theorem Staged.attach (staged : Staged others (k, pipe) spare) (known : chan ∈ k.chans.map Prod.snd)
    (free : k.pipeline_of chan.id = none) : Staged others (k.attach pipe chan) spare := by
  have consistent := staged.consistent
  have out : ∀ other ∈ pipe :: others, chan.id ∉ other.members := by
    intro other there member
    rw [(consistent.member chan.id other.ptr).mpr ⟨other, there, rfl, member⟩] at free
    cases free
  have members : (k.attach pipe chan).2.members = pipe.members ++ [chan.id] := List.map_append
  refine ⟨⟨consistent.chans, consistent.paired, consistent.distinct,
    List.forall_mem_cons.mpr (List.forall_mem_cons.mp consistent.fresh), ?_, ?_, ?_, ?_⟩, ?_⟩
  · intro c p
    rw [List.exists_mem_cons_iff, members]
    change Function.update k.pipeline_of chan.id (some pipe.ptr) c = some p ↔ pipe.ptr = p ∧ _ ∨ _
    by_cases here : c = chan.id
    · rw [here, Function.update_self, Option.some_inj]
      refine ⟨fun same => .inl ⟨same, by simp⟩, ?_⟩
      rintro (⟨same, -⟩ | ⟨other, there, -, member⟩)
      · exact same
      · exact absurd member (out other (List.mem_cons_of_mem _ there))
    · rw [Function.update_of_ne here, consistent.member, List.exists_mem_cons_iff]
      simp [here]
  · rw [List.forall_mem_cons, members]
    refine ⟨?_, (List.forall_mem_cons.mp consistent.once).2⟩
    rw [← List.concat_eq_append]
    exact (List.nodup_concat _ _).mpr ⟨out pipe List.mem_cons_self, consistent.once pipe List.mem_cons_self⟩
  · refine List.forall_mem_cons.mpr ⟨?_, (List.forall_mem_cons.mp consistent.owned).2⟩
    exact List.forall_mem_append.mpr
      ⟨consistent.owned pipe List.mem_cons_self, List.forall_mem_singleton.mpr known⟩
  · intro c
    have counted := consistent.counted c
    change k.chan_refs c = ((k.chans.any (·.2.id = c)).toNat : Int) + ((k.pipeline_of c).isSome.toNat : Int) at counted
    change Function.update k.chan_refs chan.id (k.chan_refs chan.id + 1) c = ((k.chans.any (·.2.id = c)).toNat : Int) +
      ((Function.update k.pipeline_of chan.id (some pipe.ptr) c).isSome.toNat : Int)
    by_cases here : c = chan.id
    · subst here
      rw [Function.update_self, Function.update_self, counted, free]
      simp
    · rw [Function.update_of_ne here, Function.update_of_ne here, counted]
  · have refs := staged.refs
    change pipe.refs + 1 = ((pipe.body.entries ++ [chan]).length : Int) + spare
    rw [List.length_append, List.length_singleton]
    dsimp only at refs
    omega

theorem changeTo_cases (status : PipelineStatus) :
    (pipe.body.changeStatus status answers).1.entries = pipe.body.entries ∧
        (k.changeTo pipe status answers).1 = (k, { pipe with body := (pipe.body.changeStatus status answers).1 }) ∨
      (pipe.body.changeStatus status answers).1.entries = [] ∧
        (k.changeTo pipe status answers).1 =
          pipe.body.entries.foldl detach (k, { pipe with body := (pipe.body.changeStatus status answers).1 }) := by
  rw [changeTo]
  obtain ⟨entries, -⟩ | ⟨empty, -⟩ := @Pipeline.changeStatus_leaves pipe.body answers status
  · refine .inl ⟨entries, ?_⟩
    rw [entries, List.filter_eq_nil_iff.mpr fun c member => by simp [member]]
    rfl
  · refine .inr ⟨empty, ?_⟩
    rw [empty, List.filter_eq_self.mpr fun c _ => by simp]

theorem changeTo_rest (status : PipelineStatus) : (k.changeTo pipe status answers).1.1.rest = k.rest := by
  rw [changeTo, detach_all]
  rfl

theorem changeTo_pipe (status : PipelineStatus) :
    (k.changeTo pipe status answers).1.2.ptr = pipe.ptr ∧ (k.changeTo pipe status answers).1.2.id = pipe.id ∧
      (k.changeTo pipe status answers).1.2.body = (pipe.body.changeStatus status answers).1 := by
  rw [changeTo, detach_all]
  exact ⟨rfl, rfl, rfl⟩

theorem Staged.changeTo (staged : Staged others s spare) (status : PipelineStatus) :
    Staged others (s.1.changeTo s.2 status answers).1 spare := by
  have refs := staged.refs
  obtain ⟨entries, same⟩ | ⟨empty, left⟩ := @changeTo_cases s.1 s.2 answers status
  · rw [same]
    refine ⟨staged.consistent.replace rfl entries, ?_⟩
    dsimp only
    rw [entries, refs]
  · rw [left]
    refine ⟨staged.consistent.detached ?_ ?_, ?_⟩
    · rw [detach_all]
    · rw [detach_all]
      exact empty
    · rw [detach_all]
      dsimp only
      rw [empty, refs, List.length_nil]
      omega

/-- Taken to NULL, a pipeline has no channels left. -/
theorem changeTo_null (silent : s.2.body.status = .null → s.2.body.entries = []) :
    (s.1.changeTo s.2 .null answers).1.2.body.entries = [] ∧ (s.1.changeTo s.2 .null answers).1.2.body.status = .null := by
  rw [(changeTo_pipe .null).2.2]
  obtain ⟨null, -⟩ := @Pipeline.changeStatus_null s.2.body answers
  refine ⟨?_, null⟩
  obtain ⟨entries, before⟩ | ⟨empty, -⟩ := @Pipeline.changeStatus_leaves s.2.body answers .null
  · rw [entries, silent (before null)]
  · exact empty

theorem toNull_rest : (toNull s answers).1.rest = s.1.rest := by
  rw [toNull]
  split
  · exact changeTo_rest .null
  · rfl

theorem Staged.toNull (staged : Staged others s spare) : Staged others (toNull s answers) spare := by
  rw [Kernel.toNull]
  split
  · exact staged.changeTo .null
  · exact staged

theorem toNull_null (silent : s.2.body.status = .null → s.2.body.entries = []) :
    (toNull s answers).2.body.entries = [] ∧ (toNull s answers).2.body.status = .null := by
  rw [toNull]
  split
  · exact changeTo_null silent
  · rename_i null
    exact ⟨silent (not_not.mp null), not_not.mp null⟩

theorem toNull_trace (up : s.2.body.status ≠ .null) :
    (toNull s answers).2.body.trace = (s.2.body.changeStatus .null answers).1.trace := by
  rw [toNull, if_pos up, (changeTo_pipe .null).2.2]

theorem abandon_rest : (abandon s).1.rest = s.1.rest := by
  rw [abandon, detach_all]
  rfl

theorem abandon_trace : (abandon s).2.body.trace = s.2.body.trace := by
  rw [abandon, detach_all]

theorem Staged.abandon (staged : Staged others s spare) : Staged others (abandon s) (spare - 1) := by
  have refs := staged.refs
  refine ⟨staged.consistent.detached ?_ rfl, ?_⟩
  · rw [Kernel.abandon, detach_all]
    rfl
  · rw [Kernel.abandon, detach_all]
    change s.2.refs - (s.2.body.entries.length : Int) - 1 = (([] : List Chan).length : Int) + (spare - 1)
    rw [refs, List.length_nil]
    omega

/-- The channels that the attributes name. -/
def named (k : Kernel) (attrs : List Attr) : Option (List Chan) :=
  (attrs.filter Attr.isChanId).mapM fun attr => k.chan attr.value

/-- The status that the attributes ask for: the last one counts. -/
def requested (status : Nat) (attrs : List Attr) : Nat :=
  attrs.foldl (fun status attr => if attr.isStatus then attr.value else status) status

/-- The attributes up to the first one that is refused put free channels into the
pipeline. -/
structure Parsed (k : Kernel) (pipe : Pipe) (s : Kernel × Pipe) (chans : List Chan) : Prop where
  rest : s.1.rest = k.rest
  body : s.2.body = { pipe.body with entries := pipe.body.entries ++ chans }
  free : ∀ chan ∈ chans, k.pipeline_of chan.id = none

theorem Parsed.stopped : Parsed k pipe (k, pipe) [] :=
  ⟨rfl, by rw [List.append_nil], fun _ => nofun⟩

/-- A channel put into the pipeline before the others. -/
theorem Parsed.attach {chans : List Chan} (free : k.pipeline_of chan.id = none)
    (parsed : Parsed (k.attach pipe chan).1 (k.attach pipe chan).2 s chans) : Parsed k pipe s (chan :: chans) := by
  refine ⟨parsed.rest, ?_, List.forall_mem_cons.mpr ⟨free, fun other member => ?_⟩⟩
  · rw [parsed.body]
    change { pipe.body with entries := pipe.body.entries ++ [chan] ++ chans } = _
    rw [List.append_assoc]
    rfl
  · have later : Function.update k.pipeline_of chan.id (some pipe.ptr) other.id = none := parsed.free other member
    by_cases here : other.id = chan.id
    · rw [here]
      exact free
    · rwa [Function.update_of_ne here] at later

theorem chan_known {id : Nat} (found : k.chan id = some chan) : chan ∈ k.chans.map Prod.snd := by
  obtain ⟨before, after, all, -⟩ := List.lookup_eq_some_iff.mp found
  rw [all]
  simp

theorem parse_spec (staged : Staged others (k, pipe) spare) (null : pipe.body.status = .null) (status : Nat)
    (attrs : List Attr) : Staged others (k.parse pipe status attrs).1 spare ∧
      ∃ chans, Parsed k pipe (k.parse pipe status attrs).1 chans ∧
        ((∃ err < 0, (k.parse pipe status attrs).2 = .error err) ∨
          (k.parse pipe status attrs).2 = .ok (requested status attrs) ∧ k.named attrs = some chans ∧
            ∀ attr ∈ attrs, attr.isStatus ∨ attr.isChanId) := by
  induction attrs generalizing k pipe status with
  | nil => exact ⟨staged, [], .stopped, .inr ⟨rfl, rfl, fun _ => nofun⟩⟩
  | cons attr attrs ih =>
    by_cases statusAttr : attr.isStatus
    · obtain ⟨staged', chans, parsed, ends⟩ := ih staged null attr.value
      have other : attr.isChanId = false := by
        rw [Attr.isStatus, decide_eq_true_eq] at statusAttr
        rw [Attr.isChanId, statusAttr]
        rfl
      rw [parse, parseAttr, if_pos statusAttr]
      refine ⟨staged', chans, parsed, ends.imp_right fun ⟨ok, names, known⟩ => ?_⟩
      refine ⟨?_, ?_, List.forall_mem_cons.mpr ⟨.inl statusAttr, known⟩⟩
      · rw [ok, requested, requested, List.foldl_cons, if_pos statusAttr]
      · rw [← names, named, named, List.filter_cons_of_neg (by rw [other]; exact Bool.false_ne_true)]
    · rw [parse, parseAttr, if_neg statusAttr]
      by_cases chanAttr : attr.isChanId
      · rw [if_pos chanAttr, if_neg (not_not.mpr null)]
        cases found : k.chan attr.value with
        | none => exact ⟨staged, [], .stopped, .inl ⟨_, by decide, rfl⟩⟩
        | some chan =>
          dsimp only
          by_cases busy : (k.pipeline_of chan.id).isSome
          · rw [if_pos busy]
            exact ⟨staged, [], .stopped, .inl ⟨_, by decide, rfl⟩⟩
          · have free := busy
            rw [if_neg busy]
            rw [Bool.not_eq_true, Option.isSome_eq_false_iff, Option.isNone_iff_eq_none] at free
            obtain ⟨staged', chans, parsed, ends⟩ := ih (staged.attach (chan_known found) free) null status
            refine ⟨staged', chan :: chans, parsed.attach free, ends.imp_right fun ⟨ok, names, known⟩ => ?_⟩
            refine ⟨?_, ?_, List.forall_mem_cons.mpr ⟨.inr chanAttr, known⟩⟩
            · refine ok.trans ?_
              rw [requested, requested, List.foldl_cons, if_neg statusAttr]
            · have later : k.named attrs = some chans := names
              rw [named] at later
              rw [named, List.filter_cons_of_pos chanAttr, List.mapM_cons, found, later]
              rfl
      · rw [if_neg chanAttr]
        exact ⟨staged, [], .stopped, .inl ⟨_, by decide, rfl⟩⟩

/-- The registry between two requests. -/
structure Sound (k : Kernel) : Prop where
  consistent : Consistent k k.pipelines
  held : ∀ pipe ∈ k.pipelines, pipe.refs = pipe.body.entries.length + 1
  silent : ∀ pipe ∈ k.pipelines, pipe.body.status = .null → pipe.body.entries = []
  ids : (k.pipelines.map Pipe.id).Nodup
  positive : ∀ pipe ∈ k.pipelines, 0 < pipe.id
  loose : k.loose = []

theorem following_pos (cur_id : Nat) : 0 < following cur_id := by
  rw [following]
  split
  · exact Nat.one_pos
  · exact Nat.succ_pos _

theorem newId_free {taken : Nat → Bool} {turns cur_id id : Nat} (new : newId taken turns cur_id = some id) :
    taken id = false ∧ 0 < id := by
  induction turns generalizing cur_id with
  | zero => cases new
  | succ turns ih =>
    rw [newId] at new
    split at new
    · exact ih new
    · rename_i free
      cases new
      exact ⟨Bool.eq_false_iff.mpr free, following_pos cur_id⟩

/-- What a request can ask of the channels it names: nothing, if it is refused
before any of them is connected. -/
def accepted (k : Kernel) (attrs : List Attr) : Option (List Chan) :=
  (k.named attrs).filter fun chans =>
    (chans.map Chan.id).Nodup ∧ (∀ chan ∈ chans, k.pipeline_of chan.id = none) ∧
      ∀ attr ∈ attrs, attr.isStatus ∨ attr.isChanId

/-- The status of the pipeline a request creates: CONNECTED when none or NULL was
asked for. -/
def wanted (attrs : List Attr) : Option PipelineStatus :=
  PipelineStatus.ofNat? (if requested 0 attrs = 0 then 1 else requested 0 attrs)

/-- The events that no known defect turns on: drivers provide their callbacks in
pairs, and a request that is not refused asks for one of the four statuses, by
steps that can be undone. -/
def Meets (k : Kernel) : Event → Prop
  | .register chan _ => chan.Paired
  | .new attrs _ answers _ => (k.accepted attrs).elim True fun chans => (wanted attrs).elim False fun status =>
      Pipeline.Climbable answers chans (Rung.between .null status) ∧ Retractable answers chans (Rung.between .null status)
  | _ => True

/-- What `ks_pipeline_create_from_nlmsg` comes to. -/
inductive Created (k : Kernel) (attrs : List Attr) (answers : Answers) (s : Kernel × Pipe) (err : Int) : Prop where
  | refused (negative : err < 0) (staged : Staged k.pipelines s 0) (entries : s.2.body.entries = [])
    (trace : s.2.body.trace = [])
  | failed {chans : List Chan} {status : PipelineStatus} (accepts : k.accepted attrs = some chans)
    (wants : wanted attrs = some status) (negative : err < 0) (staged : Staged k.pipelines s 0)
    (entries : s.2.body.entries = [])
    (fails : (({ entries := chans } : Pipeline).changeStatus status answers).2 < 0)
    (trace : s.2.body.trace = (({ entries := chans } : Pipeline).changeStatus status answers).1.trace)
  | made {chans : List Chan} {status : PipelineStatus} (accepts : k.accepted attrs = some chans)
    (wants : wanted attrs = some status) (zero : err = 0) (staged : Staged k.pipelines s 1)
    (reached : (({ entries := chans } : Pipeline).changeStatus status answers).1.status = status)
    (body : s.2.body = (({ entries := chans } : Pipeline).changeStatus status answers).1)

theorem create_spec (sound : Sound k) (defined : ∀ chans, k.accepted attrs = some chans → (wanted attrs).isSome) :
    (k.create attrs answers).1.1.rest = { k with next := k.next + 1 }.rest ∧
      Created k attrs answers (k.create attrs answers).1 (k.create attrs answers).2 := by
  have staged : Staged k.pipelines ({ k with next := k.next + 1 }, { ptr := k.next }) 1 := ⟨sound.consistent.create, rfl⟩
  obtain ⟨staged, chans, parsed, ends⟩ := parse_spec staged rfl 0 attrs
  rw [create]
  generalize { k with next := k.next + 1 }.parse { ptr := k.next } 0 attrs = result at *
  obtain ⟨s, outcome⟩ := result
  have body : s.2.body = { entries := chans } := parsed.body
  obtain ⟨err, negative, rfl⟩ | ⟨rfl, names, known⟩ := ends
  · refine ⟨abandon_rest.trans parsed.rest, .refused negative staged.abandon rfl ?_⟩
    exact abandon_trace.trans (congrArg Pipeline.trace body)
  · have nodup : (chans.map Chan.id).Nodup := by
      have once := staged.consistent.once s.2 List.mem_cons_self
      rwa [Pipe.members, body] at once
    have accepts : k.accepted attrs = some chans := by
      have names : k.named attrs = some chans := names
      rw [accepted, names, Option.filter_some, if_pos]
      exact decide_eq_true ⟨nodup, parsed.free, known⟩
    obtain ⟨status, wants⟩ := Option.isSome_iff_exists.mp (defined chans accepts)
    have changed : s.1.change s.2 (if requested 0 attrs = 0 then 1 else requested 0 attrs) answers =
        s.1.changeTo s.2 status answers := by
      rw [wanted] at wants
      rw [change, wants]
    rw [created, changed]
    have err : (s.1.changeTo s.2 status answers).2 = (({ entries := chans } : Pipeline).changeStatus status answers).2 := by
      rw [← body]
      rfl
    have after := (@changeTo_pipe s.1 s.2 answers status).2.2
    rw [body] at after
    split
    · rename_i negative
      refine ⟨abandon_rest.trans ((changeTo_rest status).trans parsed.rest), ?_⟩
      refine .failed accepts wants negative (staged.changeTo status).abandon rfl (err ▸ negative) ?_
      exact abandon_trace.trans (congrArg Pipeline.trace after)
    · rename_i fine
      obtain ⟨-, reached⟩ | negative := @Pipeline.changeStatus_ends { entries := chans } answers status
      · exact ⟨(changeTo_rest status).trans parsed.rest,
          .made accepts wants rfl (staged.changeTo status) reached after⟩
      · exact absurd (err ▸ negative) fine

/-- The registry is as it was before the request. -/
structure Restored (k k' : Kernel) : Prop where
  chans : k'.chans = k.chans
  pipelines : k'.pipelines = k.pipelines
  loose : k'.loose = k.loose
  consistent : Consistent k' k.pipelines

/-- Every callback that took has been taken back. -/
def Quiet (calls : List Callback) : Prop := Orderly rests (fun _ => false) (calls.map Callback.call) fun _ => false

/-- A request for a new pipeline has all of its effect or none: it leaves the
lists and every channel as they were, with nothing in effect that it asked the
drivers for, or there is one more pipeline, of the status asked for. -/
inductive AllOrNothing (k : Kernel) (attrs : List Attr) (r : Answered) : Prop where
  | nothing (negative : r.err < 0) (pipelines : r.kernel.pipelines = k.pipelines) (chans : r.kernel.chans = k.chans)
    (loose : r.kernel.loose = k.loose) (owner : r.kernel.pipeline_of = k.pipeline_of)
    (refs : r.kernel.chan_refs = k.chan_refs) (quiet : Quiet r.calls)
  | all {pipe : Pipe} (zero : r.err = 0) (pipelines : r.kernel.pipelines = k.pipelines ++ [pipe])
    (status : wanted attrs = some pipe.body.status) (entries : k.named attrs = some pipe.body.entries)

theorem quiet_of_tracks {p : Pipeline} (tracks : p.Tracks) (nothing : ∀ key, p.standing key = false) : Quiet p.trace := by
  have orderly := tracks.orderly
  rwa [funext nothing] at orderly

theorem accepted_some {chans : List Chan} (accepts : k.accepted attrs = some chans) :
    k.named attrs = some chans ∧ (chans.map Chan.id).Nodup ∧ ∀ chan ∈ chans, k.pipeline_of chan.id = none := by
  obtain ⟨names, free⟩ := Option.filter_eq_some_iff.mp accepts
  have ⟨nodup, free, _⟩ := of_decide_eq_true free
  exact ⟨names, nodup, free⟩

theorem named_known {chans : List Chan} (names : k.named attrs = some chans) :
    ∀ chan ∈ chans, chan ∈ k.chans.map Prod.snd := by
  rw [named] at names
  generalize attrs.filter Attr.isChanId = attrs at names
  induction attrs generalizing chans with
  | nil =>
    rw [List.mapM_nil] at names
    cases names
    exact fun _ => nofun
  | cons attr attrs ih =>
    rw [List.mapM_cons] at names
    obtain ⟨chan, found, names⟩ := Option.bind_eq_some_iff.mp names
    obtain ⟨chans, later, same⟩ := Option.bind_eq_some_iff.mp names
    cases same
    exact List.forall_mem_cons.mpr ⟨chan_known found, ih later⟩

theorem accepted_linked (sound : Sound k) {chans : List Chan} (accepts : k.accepted attrs = some chans) : Linked chans := by
  obtain ⟨names, nodup, -⟩ := accepted_some accepts
  refine ⟨nodup, fun chan member => ?_⟩
  obtain ⟨⟨id, _⟩, known, rfl⟩ := List.mem_map.mp (named_known names chan member)
  exact sound.consistent.paired _ known

theorem wanted_ne_null : wanted attrs ≠ some .null := by
  rw [wanted]
  split
  · exact nofun
  · rename_i positive
    exact PipelineStatus.ofNat?_ne_null positive

/-- A pipeline that never got up leaves nothing in effect. -/
theorem failed_quiet {chans : List Chan} {status : PipelineStatus} (linked : Linked chans)
    (climbable : Pipeline.Climbable answers chans (Rung.between .null status))
    (retractable : Retractable answers chans (Rung.between .null status))
    (failed : (({ entries := chans } : Pipeline).changeStatus status answers).2 < 0) :
    Quiet (({ entries := chans } : Pipeline).changeStatus status answers).1.trace := by
  have up : PipelineStatus.null.rank ≤ status.rank := Nat.zero_le _
  have tracks := (@Pipeline.changeStatus_risen { entries := chans } ⟨status, answers⟩ (Pipeline.tracks_start linked) up
    climbable).tracks
  refine quiet_of_tracks tracks ?_
  have whole := Pipeline.changeStatus_eq { entries := chans } status answers
  rw [if_pos up] at whole
  rw [whole] at failed tracks ⊢
  refine Pipeline.rises_retracts (Pipeline.between_ladder up) rfl (Pipeline.tracks_start linked) climbable retractable ?_ failed
  rintro ⟨h, w⟩
  exact Pipeline.standing_free (Nat.lt_of_le_of_lt (Nat.zero_le _) (Rung.below_lt h)) w

/-- One that got up and is taken down again leaves nothing either. -/
theorem undone_quiet {chans : List Chan} {status : PipelineStatus} (linked : Linked chans)
    (climbable : Pipeline.Climbable answers chans (Rung.between .null status)) (some : status ≠ .null)
    (reached : (({ entries := chans } : Pipeline).changeStatus status answers).1.status = status) :
    Quiet ((({ entries := chans } : Pipeline).changeStatus status answers).1.changeStatus .null answers).1.trace := by
  have up : PipelineStatus.null.rank ≤ status.rank := Nat.zero_le _
  have tracks := (@Pipeline.changeStatus_risen { entries := chans } ⟨status, answers⟩ (Pipeline.tracks_start linked) up
    climbable).tracks
  have down : PipelineStatus.null.rank < (({ entries := chans } : Pipeline).changeStatus status answers).1.status.rank := by
    rw [reached]
    refine Nat.pos_of_ne_zero fun zero => some (PipelineStatus.rank_inj zero)
  obtain ⟨tracks, null, -, -⟩ := @Pipeline.changeStatus_fallen _ ⟨.null, answers⟩ tracks down
  refine quiet_of_tracks tracks ?_
  rintro ⟨h, w⟩
  refine Pipeline.standing_free ?_ w
  rw [null]
  exact Nat.lt_of_le_of_lt (Nat.zero_le _) (Rung.below_lt h)

theorem drop_none (none : pipe.refs = 0) : k.drop pipe = k := by
  rw [drop, if_pos none]

/-- The same registry, whatever a request has counted. -/
theorem Consistent.of_same {k' : Kernel} (consistent : Consistent k pipes) (chans : k'.chans = k.chans)
    (owner : k'.pipeline_of = k.pipeline_of) (refs : k'.chan_refs = k.chan_refs) (next : k'.next = k.next) :
    Consistent k' pipes := by
  refine ⟨?_, ?_, consistent.distinct, ?_, ?_, consistent.once, ?_, ?_⟩
  · rw [chans]
    exact consistent.chans
  · rw [chans]
    exact consistent.paired
  · rw [next]
    exact consistent.fresh
  · rw [owner]
    exact consistent.member
  · rw [chans]
    exact consistent.owned
  · rw [chans, owner, refs]
    exact consistent.counted

theorem rest_eq {k' : Kernel} (same : k'.rest = k.rest) : k'.chans = k.chans ∧ k'.chan_cur_id = k.chan_cur_id ∧
    k'.pipelines = k.pipelines ∧ k'.loose = k.loose ∧ k'.cur_id = k.cur_id ∧ k'.next = k.next := by
  simpa only [rest, Prod.mk.injEq] using same

theorem Restored.sound {k' : Kernel} (restored : Restored k k') (sound : Sound k) : Sound k' := by
  refine ⟨?_, ?_, ?_, ?_, ?_, restored.loose.trans sound.loose⟩
  · rw [restored.pipelines]
    exact restored.consistent
  · rw [restored.pipelines]
    exact sound.held
  · rw [restored.pipelines]
    exact sound.silent
  · rw [restored.pipelines]
    exact sound.ids
  · rw [restored.pipelines]
    exact sound.positive

theorem Restored.owner {k' : Kernel} (restored : Restored k k') (sound : Sound k) : k'.pipeline_of = k.pipeline_of := by
  funext c
  refine Option.ext fun p => ?_
  rw [restored.consistent.member, sound.consistent.member]

theorem Restored.nothing {r : Answered} (restored : Restored k r.kernel) (negative : r.err < 0) (quiet : Quiet r.calls)
    (sound : Sound k) : AllOrNothing k attrs r ∧ Sound r.kernel := by
  have owner := restored.owner sound
  refine ⟨.nothing negative restored.pipelines restored.chans restored.loose owner ?_ quiet, restored.sound sound⟩
  funext c
  rw [restored.consistent.counted, sound.consistent.counted, restored.chans, owner]

/-- A request under way that has given up its pipeline. -/
theorem Staged.restored (staged : Staged k.pipelines s 0)
    (empty : s.2.body.entries = []) (chans : s.1.chans = k.chans) (pipelines : s.1.pipelines = k.pipelines)
    (loose : s.1.loose = k.loose) : Restored k (s.1.drop s.2) := by
  have refs : s.2.refs = 0 := by
    rw [staged.refs, empty]
    rfl
  rw [drop_none refs]
  exact ⟨chans, pipelines, loose, staged.consistent.retire empty⟩

theorem Staged.put (staged : Staged others s spare) : Staged others (s.1, s.2.put) (spare - 1) := by
  have refs := staged.refs
  refine ⟨staged.consistent.replace rfl rfl, ?_⟩
  change s.2.refs - 1 = (s.2.body.entries.length : Int) + (spare - 1)
  omega

/-- A pipeline that is put on the list. -/
theorem Staged.registered {k' : Kernel} {id : Nat} (staged : Staged k.pipelines s 1) (sound : Sound k)
    (chans : k'.chans = s.1.chans) (owner : k'.pipeline_of = s.1.pipeline_of) (refs : k'.chan_refs = s.1.chan_refs)
    (next : k'.next = s.1.next) (loose : k'.loose = k.loose) (up : s.2.body.status ≠ .null) (positive : 0 < id)
    (free : (k.pipelines.any (·.id = id)) = false)
    (pipelines : k'.pipelines = k.pipelines ++ [{ s.2 with id := id }.get.put]) : Sound k' := by
  have last : ({ s.2 with id := id }.get.put).refs = s.2.refs := by
    change s.2.refs + 1 - 1 = s.2.refs
    omega
  refine ⟨?_, ?_, ?_, ?_, ?_, loose.trans sound.loose⟩
  · rw [pipelines]
    have listed : Consistent k' ({ s.2 with id := id }.get.put :: k.pipelines) :=
      (staged.consistent.of_same chans owner refs next).replace rfl rfl
    exact listed.perm (List.perm_append_singleton _ _).symm
  · rw [pipelines]
    refine List.forall_mem_append.mpr ⟨sound.held, List.forall_mem_singleton.mpr ?_⟩
    rw [last, staged.refs]
    rfl
  · rw [pipelines]
    exact List.forall_mem_append.mpr ⟨sound.silent, List.forall_mem_singleton.mpr fun null => absurd null up⟩
  · rw [pipelines, List.map_append]
    refine List.nodup_append'.mpr ⟨sound.ids, List.nodup_singleton _, ?_⟩
    intro other member same
    obtain ⟨pipe, there, rfl⟩ := List.mem_map.mp member
    rw [List.any_eq_false] at free
    exact free pipe there (decide_eq_true (List.mem_singleton.mp same))
  · rw [pipelines]
    exact List.forall_mem_append.mpr ⟨sound.positive, List.forall_mem_singleton.mpr positive⟩

/-- A pipeline made, and put on the list or given up. -/
theorem made_spec (sound : Sound k) {chans : List Chan} {status : PipelineStatus} {added : Int} {r : Answered} {id : Nat}
    (accepts : k.accepted attrs = some chans) (wants : wanted attrs = some status)
    (climbable : Pipeline.Climbable answers chans (Rung.between .null status)) (staged : Staged k.pipelines s 1)
    (reached : (({ entries := chans } : Pipeline).changeStatus status answers).1.status = status)
    (body : s.2.body = (({ entries := chans } : Pipeline).changeStatus status answers).1)
    (rest : s.1.rest = { k with next := k.next + 1 }.rest) (positive : 0 < id)
    (free : (k.pipelines.any (·.id = id)) = false)
    (same : (if added < 0 then
        ⟨(toNull ({ s.1 with cur_id := id }, { s.2 with id := id }.get.put) answers).1.drop
          (toNull ({ s.1 with cur_id := id }, { s.2 with id := id }.get.put) answers).2.put, added,
          (toNull ({ s.1 with cur_id := id }, { s.2 with id := id }.get.put) answers).2.body.trace⟩
      else ⟨{ s.1 with cur_id := id, pipelines := s.1.pipelines ++ [{ s.2 with id := id }.get.put] }, 0, s.2.body.trace⟩) =
      r) : AllOrNothing k attrs r ∧ Sound r.kernel := by
  obtain ⟨same_chans, -, pipelines, loose, -, -⟩ := rest_eq rest
  have some : status ≠ .null := fun null => wanted_ne_null (null ▸ wants)
  have here : s.2.body.status = status := by rw [body, reached]
  have up : s.2.body.status ≠ .null := by rwa [here]
  split at same
  · rename_i negative
    subst same
    have staged' : Staged k.pipelines ({ s.1 with cur_id := id }, { s.2 with id := id }.get.put) 1 := by
      have counted : Consistent { s.1 with cur_id := id } (s.2 :: k.pipelines) :=
        staged.consistent.of_same rfl rfl rfl rfl
      refine ⟨counted.replace rfl rfl, ?_⟩
      have refs := staged.refs
      change s.2.refs + 1 - 1 = (s.2.body.entries.length : Int) + 1
      omega
    obtain ⟨empty, -⟩ := @toNull_null ({ s.1 with cur_id := id }, { s.2 with id := id }.get.put) answers
      fun null => absurd null up
    obtain ⟨chans', -, pipelines', loose', -, -⟩ := rest_eq (@toNull_rest
      ({ s.1 with cur_id := id }, { s.2 with id := id }.get.put) answers)
    have restored := staged'.toNull.put.restored empty (chans'.trans same_chans)
      (pipelines'.trans pipelines) (loose'.trans loose)
    have quiet := undone_quiet (accepted_linked sound accepts) climbable some reached
    rw [← body] at quiet
    have trace := @toNull_trace ({ s.1 with cur_id := id }, { s.2 with id := id }.get.put) answers up
    exact restored.nothing negative (Eq.mpr (congrArg Quiet trace) quiet) sound
  · subst same
    refine ⟨@AllOrNothing.all _ _ _ { s.2 with id := id }.get.put rfl ?_ ?_ ?_, ?_⟩
    · dsimp only
      rw [pipelines]
    · rw [wants]
      exact congrArg _ here.symm
    · rw [(accepted_some accepts).1]
      refine congrArg _ ?_
      change chans = s.2.body.entries
      rw [body]
      obtain ⟨entries, -⟩ | ⟨-, null⟩ := @Pipeline.changeStatus_leaves { entries := chans } answers status
      · exact entries.symm
      · exact absurd (body ▸ null) up
    · refine staged.registered sound rfl rfl rfl rfl loose up positive free ?_
      dsimp only
      rw [pipelines]

theorem cmdNew_spec (sound : Sound k) {alloc : Bool} {added : Int} {r : Answered}
    (meets : k.Meets (.new attrs alloc answers added)) (answered : k.cmdNew attrs alloc answers added = some r) :
    AllOrNothing k attrs r ∧ Sound r.kernel := by
  have defined : ∀ chans, k.accepted attrs = some chans → (wanted attrs).isSome := by
    intro chans accepts
    rw [Meets, accepts, Option.elim_some] at meets
    cases wants : wanted attrs with
    | none => rw [wants] at meets; exact meets.elim
    | some status => rfl
  rw [cmdNew] at answered
  split at answered
  · cases answered
    have restored : Restored k k := ⟨rfl, rfl, rfl, sound.consistent⟩
    have negative : -ENOMEM < 0 := by decide
    exact restored.nothing negative Orderly.nil sound
  · obtain ⟨rest, created⟩ := @create_spec k answers attrs sound defined
    rw [register] at answered
    dsimp only at answered
    generalize k.create attrs answers = result at *
    obtain ⟨s, err⟩ := result
    obtain ⟨chans, -, pipelines, loose, -, -⟩ := rest_eq rest
    cases created with
    | refused negative staged entries trace =>
      rw [if_pos negative] at answered
      cases answered
      have restored := staged.restored entries chans pipelines loose
      refine restored.nothing negative ?_ sound
      rw [trace]
      exact Orderly.nil
    | failed accepts wants negative staged entries fails trace =>
      rw [if_pos negative] at answered
      cases answered
      have restored := staged.restored entries chans pipelines loose
      refine restored.nothing negative ?_ sound
      rw [Meets, accepts, wants] at meets
      dsimp only
      rw [trace]
      exact failed_quiet (accepted_linked sound accepts) meets.1 meets.2 fails
    | made accepts wants zero staged reached body =>
      rw [if_neg (by dsimp only; omega)] at answered
      obtain ⟨id, new, same⟩ := Option.map_eq_some_iff.mp answered
      obtain ⟨free, positive⟩ := newId_free new
      rw [Meets, accepts, wants] at meets
      dsimp only at pipelines free
      rw [pipelines] at free
      exact made_spec sound accepts wants meets.1 staged reached body rest positive free same

section listed

variable {before after : List Pipe}

theorem ptr_apart (distinct : ((before ++ pipe :: after).map Pipe.ptr).Nodup) :
    (∀ other ∈ before, other.ptr ≠ pipe.ptr) ∧ ∀ other ∈ after, other.ptr ≠ pipe.ptr := by
  rw [List.map_append, List.map_cons] at distinct
  obtain ⟨-, tail, apart⟩ := List.nodup_append'.mp distinct
  refine ⟨fun other member same => ?_, fun other member same => ?_⟩
  · exact apart (List.mem_map_of_mem member) (same ▸ List.mem_cons_self)
  · exact (List.nodup_cons.mp tail).1 (same ▸ List.mem_map_of_mem member)

/-- A pipeline of the list, found by a request. -/
theorem Sound.staged (sound : Sound k) (listed : k.pipelines = before ++ pipe :: after) :
    Staged (before ++ after) (k, pipe.get) 2 := by
  have consistent := sound.consistent
  rw [listed] at consistent
  have found : Consistent k (pipe :: (before ++ after)) := consistent.perm List.perm_middle
  refine ⟨found.replace rfl rfl, ?_⟩
  have held := sound.held pipe (listed ▸ List.mem_append_right before List.mem_cons_self)
  change pipe.refs + 1 = (pipe.body.entries.length : Int) + 2
  omega

theorem store_listed (listed : k.pipelines = before ++ pipe :: after) (ptr : q.ptr = pipe.ptr)
    (distinct : ((before ++ pipe :: after).map Pipe.ptr).Nodup) : (k.store q).pipelines = before ++ q :: after := by
  obtain ⟨left, right⟩ := ptr_apart distinct
  have kept : ∀ l : List Pipe, (∀ other ∈ l, other.ptr ≠ pipe.ptr) →
      l.map (fun other => if other.ptr = q.ptr then q else other) = l := by
    intro l apart
    refine (List.map_congr_left fun other member => ?_).trans (List.map_id l)
    exact if_neg (ptr ▸ apart other member)
  change k.pipelines.map _ = _
  rw [listed, List.map_append, List.map_cons, if_pos ptr.symm, kept before left, kept after right]

theorem filter_listed (distinct : ((before ++ pipe :: after).map Pipe.ptr).Nodup) :
    (before ++ pipe :: after).filter (·.ptr ≠ pipe.ptr) = before ++ after := by
  obtain ⟨left, right⟩ := ptr_apart distinct
  rw [List.filter_append, List.filter_cons_of_neg (by simp)]
  congr 1
  · exact List.filter_eq_self.mpr fun other member => decide_eq_true (left other member)
  · exact List.filter_eq_self.mpr fun other member => decide_eq_true (right other member)

/-- A pipeline of the list that a request has changed. -/
theorem Sound.store (sound : Sound k) (listed : k.pipelines = before ++ pipe :: after)
    (staged : Staged (before ++ after) s 1) (rest : s.1.rest = k.rest) (ptr : s.2.ptr = pipe.ptr) (id : s.2.id = pipe.id)
    (silent : s.2.body.status = .null → s.2.body.entries = []) : Sound (s.1.store s.2) := by
  obtain ⟨-, -, pipelines, loose, -, -⟩ := rest_eq rest
  have distinct := sound.consistent.distinct
  have same : (s.1.store s.2).pipelines = before ++ s.2 :: after :=
    store_listed (pipelines.trans listed) ptr (listed ▸ distinct)
  have old : ∀ {P : Pipe → Prop}, (∀ other ∈ k.pipelines, P other) → P s.2 → ∀ other ∈ before ++ s.2 :: after, P other := by
    intro P all here
    rw [listed] at all
    refine List.forall_mem_append.mpr ⟨fun other member => all other (List.mem_append_left _ member), ?_⟩
    refine List.forall_mem_cons.mpr ⟨here, fun other member => all other ?_⟩
    exact List.mem_append_right _ (List.mem_cons_of_mem _ member)
  refine ⟨?_, ?_, ?_, ?_, ?_, loose.trans sound.loose⟩
  · rw [same]
    exact (staged.consistent.perm List.perm_middle.symm).of_same rfl rfl rfl rfl
  · rw [same]
    exact old sound.held staged.refs
  · rw [same]
    exact old sound.silent silent
  · have ids := sound.ids
    rw [listed, List.map_append, List.map_cons, ← id] at ids
    rwa [same, List.map_append, List.map_cons]
  · rw [same]
    refine old sound.positive (id ▸ sound.positive pipe ?_)
    rw [listed]
    exact List.mem_append_right _ List.mem_cons_self

/-- A pipeline taken off the list, and what is left without it. -/
theorem Sound.unregister (sound : Sound k) (listed : k.pipelines = before ++ pipe :: after)
    (staged : Staged (before ++ after) s 2) (rest : s.1.rest = k.rest) (ptr : s.2.ptr = pipe.ptr)
    (silent : s.2.body.status = .null → s.2.body.entries = []) :
    Sound ((unregisterPipeline s answers).1.drop (unregisterPipeline s answers).2.put) ∧
      ((unregisterPipeline s answers).1.drop (unregisterPipeline s answers).2.put).chans = k.chans ∧
      ((unregisterPipeline s answers).1.drop (unregisterPipeline s answers).2.put).pipelines = before ++ after := by
  obtain ⟨chans, -, pipelines, loose, -, -⟩ := rest_eq ((@changeTo_rest s.1 s.2 answers .null).trans rest)
  obtain ⟨empty, -⟩ := @changeTo_null s answers silent
  have left := @Staged.changeTo _ _ _ answers staged .null
  have refs : (unregisterPipeline s answers).2.put.refs = 0 := by
    have counted := left.refs
    rw [empty] at counted
    change (s.1.changeTo s.2 .null answers).1.2.refs - 1 - 1 = 0
    rw [counted]
    rfl
  have distinct := sound.consistent.distinct
  rw [listed] at distinct
  have same : (unregisterPipeline s answers).1.pipelines = before ++ after := by
    change (s.1.changeTo s.2 .null answers).1.1.pipelines.filter _ = _
    rw [pipelines, listed, (@changeTo_pipe s.1 s.2 answers .null).1, ptr]
    exact filter_listed distinct
  have fewer : ∀ {P : Pipe → Prop}, (∀ other ∈ k.pipelines, P other) → ∀ other ∈ before ++ after, P other := by
    intro P all other member
    refine all other (listed ▸ ?_)
    exact (List.Sublist.append_left (List.sublist_cons_self _ _) _).mem member
  rw [drop_none refs]
  refine ⟨⟨?_, ?_, ?_, ?_, ?_, loose.trans sound.loose⟩, chans, same⟩
  · rw [same]
    exact (left.consistent.retire empty).of_same rfl rfl rfl rfl
  · rw [same]
    exact fewer sound.held
  · rw [same]
    exact fewer sound.silent
  · rw [same]
    refine List.Nodup.sublist ?_ sound.ids
    rw [listed]
    exact (List.Sublist.append_left (List.sublist_cons_self _ _) _).map _
  · rw [same]
    exact fewer sound.positive

end listed

theorem toNull_ptr : (toNull s answers).2.ptr = s.2.ptr := by
  rw [toNull]
  split
  · exact (changeTo_pipe .null).1
  · rfl

theorem found_listed {P : Pipe → Bool} (found : k.pipelines.find? P = some pipe) :
    ∃ before after, k.pipelines = before ++ pipe :: after :=
  List.append_of_mem (List.mem_of_find?_eq_some found)

theorem byNlid_listed (found : k.pipelineByNlid attrs = some pipe) : ∃ before after, k.pipelines = before ++ pipe :: after := by
  obtain ⟨attr, -, here⟩ := Option.bind_eq_some_iff.mp found
  exact found_listed here

theorem cmdDel_sound (sound : Sound k) (attrs : List Attr) (answers : Answers) : Sound (k.cmdDel attrs answers).kernel := by
  rw [cmdDel, delete.eq_def]
  cases found : k.pipelineByNlid attrs with
  | none => exact sound
  | some pipe =>
    obtain ⟨before, after, listed⟩ := byNlid_listed found
    have silent := sound.silent pipe (listed ▸ List.mem_append_right _ List.mem_cons_self)
    obtain ⟨empty, -⟩ := @toNull_null (k, pipe.get) answers silent
    have staged := @Staged.toNull _ _ _ answers (sound.staged listed)
    exact (sound.unregister listed staged toNull_rest toNull_ptr fun _ => empty).1

theorem change_sound (sound : Sound k) {before after : List Pipe} (listed : k.pipelines = before ++ pipe :: after)
    (status : Nat) : Sound ((k.change pipe.get status answers).1.1.store (k.change pipe.get status answers).1.2.put) := by
  have silent := sound.silent pipe (listed ▸ List.mem_append_right _ List.mem_cons_self)
  have staged := sound.staged listed
  rw [change]
  cases PipelineStatus.ofNat? status with
  | none => exact sound.store listed staged.put rfl rfl rfl silent
  | some status =>
    obtain ⟨ptr, id, body⟩ := @changeTo_pipe k pipe.get answers status
    refine sound.store listed (staged.changeTo status).put (changeTo_rest status) ptr id fun null => ?_
    have null : (k.changeTo pipe.get status answers).1.2.body.status = .null := null
    change (k.changeTo pipe.get status answers).1.2.body.entries = []
    rw [body] at null ⊢
    obtain ⟨entries, before⟩ | ⟨empty, -⟩ := @Pipeline.changeStatus_leaves pipe.get.body answers status
    · exact entries.trans (silent (before null))
    · exact empty

theorem cmdSet_sound (sound : Sound k) {r : Answered} (answered : k.cmdSet attrs answers = some r) : Sound r.kernel := by
  rw [cmdSet] at answered
  cases found : k.pipelineByNlid attrs with
  | none =>
    rw [found] at answered
    cases answered
    exact sound
  | some pipe =>
    rw [found] at answered
    obtain ⟨before, after, listed⟩ := byNlid_listed found
    dsimp only at answered
    cases outcome : updated pipe 0 attrs with
    | error halt =>
      rw [outcome] at answered
      cases halt with
      | bug => cases answered
      | error err =>
        cases answered
        have silent := sound.silent pipe (listed ▸ List.mem_append_right _ List.mem_cons_self)
        exact sound.store listed (sound.staged listed).put rfl rfl rfl silent
    | ok status =>
      rw [outcome] at answered
      cases answered
      exact change_sound sound listed status

theorem free_unlisted (consistent : Consistent k k.pipelines) {c : Nat} (free : k.pipeline_of c = none) :
    ∀ pipe ∈ k.pipelines, c ∉ pipe.members := by
  intro pipe there member
  rw [(consistent.member c pipe.ptr).mpr ⟨pipe, there, rfl, member⟩] at free
  cases free

/-- A channel that no pipeline has is taken off the list. -/
theorem Sound.removeChan (sound : Sound k) {c : Nat} (known : k.chans.any (·.2.id = c)) (free : k.pipeline_of c = none) :
    Sound (k.removeChan c) := by
  have consistent := sound.consistent
  refine ⟨⟨?_, ?_, consistent.distinct, consistent.fresh, consistent.member, consistent.once, ?_, ?_⟩,
    sound.held, sound.silent, sound.ids, sound.positive, sound.loose⟩
  · exact consistent.chans.sublist (List.filter_sublist.map _)
  · exact fun chan member => consistent.paired chan (List.mem_of_mem_filter member)
  · intro pipe there chan member
    obtain ⟨known, listed, rfl⟩ := List.mem_map.mp (consistent.owned pipe there chan member)
    refine List.mem_map.mpr ⟨known, List.mem_filter.mpr ⟨listed, decide_eq_true fun same => ?_⟩, rfl⟩
    exact free_unlisted consistent free pipe there (same ▸ List.mem_map_of_mem member)
  · intro d
    have counted := consistent.counted d
    change Function.update k.chan_refs c (k.chan_refs c - 1) d =
      (((k.chans.filter (·.2.id ≠ c)).any (·.2.id = d)).toNat : Int) + ((k.pipeline_of d).isSome.toNat : Int)
    by_cases here : d = c
    · subst here
      have gone : (k.chans.filter (·.2.id ≠ d)).any (·.2.id = d) = false := by simp
      rw [Function.update_self, counted, known, free, gone]
      rfl
    · have still : (k.chans.filter (·.2.id ≠ c)).any (·.2.id = d) = k.chans.any (·.2.id = d) := by
        rw [List.any_filter]
        congr 1
        funext chan
        by_cases that : chan.2.id = d
        · simp [that, here]
        · simp [that]
      rw [Function.update_of_ne here, counted, still]

theorem unregisterChan_sound (sound : Sound k) {ptr : Nat} {k' : Kernel} (took : k.unregisterChan ptr answers = some k') :
    Sound k' := by
  rw [unregisterChan] at took
  split at took
  · cases took
  rename_i known
  rw [not_not] at known
  cases owner : k.pipeline_of ptr with
  | none =>
    rw [owner] at took
    cases took
    exact sound.removeChan known owner
  | some p =>
    rw [owner] at took
    obtain ⟨pipe, found, same⟩ := Option.map_eq_some_iff.mp took
    obtain ⟨before, after, listed⟩ := found_listed found
    have here := List.find?_some found
    rw [decide_eq_true_eq] at here
    have staged := sound.staged listed
    have silent := sound.silent pipe (listed ▸ List.mem_append_right _ List.mem_cons_self)
    obtain ⟨left, chans, pipelines⟩ := @Sound.unregister _ _ _ answers _ _ sound listed staged rfl rfl silent
    subst same
    refine left.removeChan (chans ▸ known) ?_
    -- what had the channel is gone
    cases still : ((unregisterPipeline (k, pipe.get) answers).1.drop (unregisterPipeline (k, pipe.get) answers).2.put).pipeline_of ptr with
    | none => rfl
    | some q =>
      obtain ⟨other, there, -, member⟩ := (left.consistent.member ptr q).mp still
      rw [pipelines] at there
      have apart := ptr_apart (listed ▸ sound.consistent.distinct)
      have listed' : other ∈ k.pipelines := by
        rw [listed]
        exact (List.Sublist.append_left (List.sublist_cons_self _ _) _).mem there
      have owner' := (sound.consistent.member ptr other.ptr).mpr ⟨other, listed', rfl, member⟩
      have same : other.ptr = pipe.ptr := (Option.some.inj (owner'.symm.trans owner)).trans here.symm
      obtain left | right := List.mem_append.mp there
      · exact absurd same (apart.1 other left)
      · exact absurd same (apart.2 other right)

theorem registerChan_sound (sound : Sound k) {added : Int} {k' : Kernel} (paired : chan.Paired)
    (took : k.registerChan chan added = some k') : Sound k' := by
  rw [registerChan] at took
  split at took
  · cases took
  rename_i fresh
  obtain ⟨unknown, free⟩ := not_or.mp fresh
  rw [Bool.not_eq_true] at unknown free
  obtain ⟨id, -, same⟩ := Option.map_eq_some_iff.mp took
  have consistent := sound.consistent
  split at same
  · subst same
    exact ⟨consistent.of_same rfl rfl rfl rfl, sound.held, sound.silent, sound.ids, sound.positive, sound.loose⟩
  · subst same
    refine ⟨⟨?_, ?_, consistent.distinct, consistent.fresh, consistent.member, consistent.once, ?_, ?_⟩,
      sound.held, sound.silent, sound.ids, sound.positive, sound.loose⟩
    · rw [List.map_append]
      refine List.nodup_append'.mpr ⟨consistent.chans, List.nodup_singleton _, ?_⟩
      intro c member same
      obtain ⟨known, there, rfl⟩ := List.mem_map.mp member
      rw [List.any_eq_false] at unknown
      exact unknown known there (decide_eq_true (List.mem_singleton.mp same))
    · exact List.forall_mem_append.mpr ⟨consistent.paired, List.forall_mem_singleton.mpr paired⟩
    · intro pipe there chan member
      rw [List.map_append]
      exact List.mem_append_left _ (consistent.owned pipe there chan member)
    · intro c
      have counted := consistent.counted c
      change Function.update k.chan_refs chan.id (k.chan_refs chan.id + 1) c =
        (((k.chans ++ [(id, chan)]).any (·.2.id = c)).toNat : Int) + ((k.pipeline_of c).isSome.toNat : Int)
      rw [List.any_append]
      by_cases here : c = chan.id
      · subst here
        rw [Function.update_self, counted, unknown, free]
        simp
      · rw [Function.update_of_ne here, counted]
        simp [Ne.symm here]

theorem step_sound {e : Event} {k' : Kernel} (sound : Sound k) (meets : k.Meets e) (took : k.step e = some k') : Sound k' := by
  cases e with
  | register chan added => exact registerChan_sound sound meets took
  | unregister ptr answers => exact unregisterChan_sound sound took
  | new attrs alloc answers added =>
    obtain ⟨r, answered, rfl⟩ := Option.map_eq_some_iff.mp took
    exact (cmdNew_spec sound meets answered).2
  | set attrs answers =>
    obtain ⟨r, answered, rfl⟩ := Option.map_eq_some_iff.mp took
    exact cmdSet_sound sound answered
  | del attrs answers =>
    cases took
    exact cmdDel_sound sound attrs answers

theorem sound_init : Sound {} :=
  ⟨⟨List.nodup_nil, fun _ => nofun, List.nodup_nil, fun _ => nofun, fun _ _ => ⟨nofun, fun ⟨_, there, _⟩ => nomatch there⟩,
    fun _ => nofun, fun _ => nofun, fun _ => rfl⟩, fun _ => nofun, fun _ => nofun, List.nodup_nil, fun _ => nofun, rfl⟩

/-- Channels and pipelines agree about who is where, the pipelines have ids of
their own, and every reference is accounted for. -/
structure Tidy (k : Kernel) : Prop where
  member : ∀ c p, k.pipeline_of c = some p ↔ ∃ pipe ∈ k.pipelines, pipe.ptr = p ∧ c ∈ pipe.members
  once : ∀ pipe ∈ k.pipelines, pipe.members.Nodup
  apart : ∀ pipe ∈ k.pipelines, ∀ other ∈ k.pipelines, ∀ c ∈ pipe.members, c ∈ other.members → pipe.ptr = other.ptr
  distinct : (k.pipelines.map Pipe.ptr).Nodup
  positive : ∀ pipe ∈ k.pipelines, 0 < pipe.id
  ids : (k.pipelines.map Pipe.id).Nodup
  refs : ∀ pipe ∈ k.pipelines, pipe.refs = pipe.body.entries.length + 1
  loose : k.loose = []
  chan_refs : ∀ c, k.chan_refs c = ((k.chans.any (·.2.id = c)).toNat : Int) + ((k.pipeline_of c).isSome.toNat : Int)

theorem Sound.tidy (sound : Sound k) : Tidy k := by
  have consistent := sound.consistent
  refine ⟨consistent.member, consistent.once, ?_, consistent.distinct, sound.positive, sound.ids, sound.held, sound.loose,
    consistent.counted⟩
  intro pipe here other there c member also
  have owner := (consistent.member c pipe.ptr).mpr ⟨pipe, here, rfl, member⟩
  have owner' := (consistent.member c other.ptr).mpr ⟨other, there, rfl, also⟩
  exact Option.some.inj (owner.symm.trans owner')

/-- Whatever the clients ask for and the drivers answer, the registry is tidy
and a new pipeline comes whole or not at all. -/
theorem membership_is_consistent_of_run {es : List Event} (run : Run step Meets {} es k) :
    Tidy k ∧ ∀ attrs alloc answers added r, k.Meets (.new attrs alloc answers added) →
      k.cmdNew attrs alloc answers added = some r → AllOrNothing k attrs r := by
  have sound := run.invariant Sound step_sound sound_init
  exact ⟨sound.tidy, fun _ _ _ _ _ meets answered => (cmdNew_spec sound meets answered).1⟩

instance Meets.given {α : Type} {b : Prop} {p : α → Prop} [Decidable b] [∀ a, Decidable (p a)] :
    (o : Option α) → Decidable (o.elim b p)
  | none => inferInstanceAs (Decidable b)
  | some a => inferInstanceAs (Decidable (p a))

instance (ops : Ops) : Decidable ops.Paired :=
  decidable_of_iff (ops.connect = ops.disconnect ∧ ops.open = ops.close ∧ ops.start = ops.stop)
    ⟨fun ⟨connection, opening, flow⟩ k => by cases k <;> assumption, fun all => ⟨all .connection, all .opening, all .flow⟩⟩

instance (chan : Chan) : Decidable chan.Paired :=
  decidable_of_iff (chan.ops.Paired ∧ chan.from.Paired ∧ chan.to.Paired)
    ⟨fun ⟨ops, before, behind⟩ => ⟨ops, before, behind⟩, fun paired => ⟨paired.ops, paired.from, paired.to⟩⟩

instance Meets.decidable (k : Kernel) : (e : Event) → Decidable (k.Meets e)
  | .register chan _ => inferInstanceAs (Decidable chan.Paired)
  | .unregister .. => inferInstanceAs (Decidable True)
  | .new attrs _ answers _ => inferInstanceAs (Decidable ((k.accepted attrs).elim True fun chans =>
      (wanted attrs).elim False fun status =>
        Pipeline.Climbable answers chans (Rung.between .null status) ∧
          Retractable answers chans (Rung.between .null status)))
  | .set .. => inferInstanceAs (Decidable True)
  | .del .. => inferInstanceAs (Decidable True)

/-- Two channels that their drivers follow through all rungs. -/
def channels : List Event :=
  [.register ⟨1, Pipeline.full, Pipeline.full, Pipeline.full, -1⟩ 0,
    .register ⟨2, Pipeline.full, Pipeline.full, Pipeline.full, -1⟩ 0]

/-- One channel, and no status: the pipeline is CONNECTED. -/
def oneChannel (id : Nat) : List Attr := [⟨4, id⟩]

/-- The second request names a channel of the first one. -/
theorem busy_channel_stays_where_it_is : ∃ k : Kernel, k.pipelines.map Pipe.members = [[1]] ∧ Tidy k ∧
    ∀ r, k.cmdNew [⟨4, 2⟩, ⟨4, 1⟩] true (fun _ _ => 0) 0 = some r → AllOrNothing k [⟨4, 2⟩, ⟨4, 1⟩] r := by
  have reached : (follow step Meets {} (channels ++ [.new (oneChannel 1) true (fun _ _ => 0) 0])).map
      (fun k => (k.pipelines.map Pipe.members, decide (k.Meets (.new [⟨4, 2⟩, ⟨4, 1⟩] true (fun _ _ => 0) 0)))) =
        some ([[1]], true) := by
    decide +kernel
  obtain ⟨k, reached, same⟩ := Option.map_eq_some_iff.mp reached
  obtain ⟨members, meets⟩ := Prod.mk.inj same
  have run := follow_run _ _ _ _ reached
  obtain ⟨tidy, whole⟩ := membership_is_consistent_of_run run
  exact ⟨k, members, tidy, fun r => whole _ _ _ _ r (of_decide_eq_true meets)⟩

/-- A channel that is only ever connected, and one behind it that refuses to be
opened. -/
def mixed : List Event :=
  [.register ⟨1, { connect := true, disconnect := true }, {}, {}, -1⟩ 0, .register ⟨2, Pipeline.full, {}, {}, -1⟩ 0]

def refusesOpen : Answers := fun k w => if k = .opening ∧ w = .chan 2 then -5 else 0

/-- A pipeline that cannot be opened is given up without being disconnected. -/
theorem refused_open_leaves_the_channels_connected :
    ¬ ∀ (es : List Event) (k : Kernel), Run step Any {} es k →
      Tidy k ∧ ∀ attrs alloc answers added r, k.cmdNew attrs alloc answers added = some r → AllOrNothing k attrs r := by
  intro always
  have reached : (follow step Any {} mixed).bind
      (fun k => (k.cmdNew [⟨4, 1⟩, ⟨4, 2⟩, ⟨3, 2⟩] true refusesOpen 0).map fun r =>
        (r.err, raised (.connection, .chan 1) (r.calls.map Callback.call),
          lowered (.connection, .chan 1) (r.calls.map Callback.call))) = some (-5, 1, 0) := by
    decide +kernel
  obtain ⟨k, reached, answered⟩ := Option.bind_eq_some_iff.mp reached
  obtain ⟨r, answered, same⟩ := Option.map_eq_some_iff.mp answered
  obtain ⟨err, ups, downs⟩ : r.err = -5 ∧ raised (.connection, .chan 1) (r.calls.map Callback.call) = 1 ∧
      lowered (.connection, .chan 1) (r.calls.map Callback.call) = 0 := by
    simpa only [Prod.mk.injEq] using same
  obtain ⟨-, whole⟩ := always _ k (follow_run _ _ _ _ reached)
  cases whole _ _ _ _ r answered with
  | nothing _ _ _ _ _ _ quiet =>
    have balance := Orderly.balance quiet (.connection, .chan 1)
    rw [ups, downs] at balance
    cases balance
  | all zero => exact absurd (zero.symm.trans err) (by decide)

end Kernel
end Vstuff.Kstreamer
