import Vstuff.Lib.RefCount
import Vstuff.Libkstreamer.Tables
import Mathlib.Algebra.BigOperators.Group.Finset.Basic

/-! The channels and pipelines the library knows, by the references to them: each reference
is counted, whatever messages about the topology come in. -/
namespace Vstuff.Libkstreamer.Balance
open RefCount Transition Kstreamer
set_option linter.all false

/-- What is counted, by its address. -/
inductive Obj where
  | chan (c : Nat)
  | pipeline (p : Nat)
  deriving Repr, DecidableEq

/-- struct ks_chan -/
structure Chan extends Features.Chan where
  pipeline : Option Nat := none

/-- struct ks_pipeline -/
structure Pipeline where
  id : Nat := 0
  status : Nat := 0
  path : Option (List UInt8) := none
  chans : List Nat := []

/-- The channels and pipelines in memory, and the hash tables of a connection; an entry of
`pipelines` has the number of its bucket. -/
structure Topology where
  refs : Refs Obj
  chan : Nat → Chan := fun _ => {}
  pipeline : Nat → Pipeline := fun _ => {}
  chans : List Nat := []
  pipelines : List (Nat × Nat) := []
  next : Nat := 0

/-- A message about the topology, with whether there is memory for what it announces and which
nodes and features are known. -/
structure Update where
  nlmsg_type : Nat
  msg : Message
  memory : Bool := true
  nodes : Nat → Bool := fun _ => true
  features : Nat → Bool := fun _ => true

namespace Topology

def keep (t : Topology) (o : Obj) : Except Fault Topology := do
  let refs ← t.refs.keep o
  .ok { t with refs }

def drop (t : Topology) (o : Obj) : Except Fault Topology := do
  let refs ← t.refs.drop o
  .ok { t with refs }

def get (t : Topology) (o : Obj) : Except Fault Topology := do
  let refs ← t.refs.get o
  .ok { t with refs }

/-- `ks_chan_put`, and what `ks_pipeline_put` does first. -/
def put (t : Topology) (o : Obj) : Except Fault Topology := do
  let refs ← t.refs.put o
  .ok { t with refs }

/-- A pipeline that nobody refers to puts its channels. -/
def pipelineFree (t : Topology) (p : Nat) : Except Fault Topology :=
  if t.refs.refcnt (.pipeline p) = 0 then (t.pipeline p).chans.foldlM (fun t c => t.drop (.chan c)) t else .ok t

/-- `ks_pipeline_put` -/
def pipelinePut (t : Topology) (p : Nat) : Except Fault Topology := do
  let t ← t.put (.pipeline p)
  t.pipelineFree p

/-- `ks_pipeline_put` on the reference of a hash table. -/
def pipelineDrop (t : Topology) (p : Nat) : Except Fault Topology := do
  let t ← t.drop (.pipeline p)
  t.pipelineFree p

def setChan (t : Topology) (c : Nat) (f : Chan → Chan) : Topology := { t with chan := Function.update t.chan c (f (t.chan c)) }

def setPipeline (t : Topology) (p : Nat) (f : Pipeline → Pipeline) : Topology :=
  { t with pipeline := Function.update t.pipeline p (f (t.pipeline p)) }

/-- The channel in the table with the id. -/
def chanById (t : Topology) (id : Nat) : Option Nat := t.chans.find? fun c => (t.chan c).id = id

/-- `_ks_chan_get_by_id` -/
def chanGetById (t : Topology) (id : Nat) : Except Fault (Option Nat × Topology) :=
  match t.chanById id with
  | none => .ok (none, t)
  | some c => do
    let t ← t.get (.chan c)
    .ok (some c, t)

/-- PIPELINE_HASHSIZE is 255. -/
def pipelineHash (id : Nat) : Nat := id &&& 254

/-- The pipeline in the bucket of an id that has it. -/
def pipelineById (t : Topology) (id : Nat) : Option Nat :=
  (t.pipelines.find? fun entry => entry.1 = pipelineHash id && (t.pipeline entry.2).id = id).map Prod.snd

/-- `_ks_pipeline_get_by_id` -/
def pipelineGetById (t : Topology) (id : Nat) : Except Fault (Option Nat × Topology) :=
  match t.pipelineById id with
  | none => .ok (none, t)
  | some p => do
    let t ← t.get (.pipeline p)
    .ok (some p, t)

/-- A turn of the loop of `ks_pipeline_update_from_nlmsg`. -/
def updateAttr (p : Nat) (s : Topology × Nat) (attr : Attr) : Except Fault (Topology × Nat) :=
  if attr.type = 1 then .ok (s.1.setPipeline p ({ · with id := attr.word }), s.2)
  else if attr.type = 3 then .ok (s.1.setPipeline p ({ · with status := attr.word }), s.2)
  else if attr.type = 2 then .ok (s.1.setPipeline p ({ · with path := some (attr.data.takeWhile (· ≠ 0)) }), s.2)
  else if attr.type = 4 then do
    let (found, t) ← s.1.chanGetById attr.word
    match found with
    | none => .ok (t, s.2)
    | some c =>
      -- not consistent with the one sent: the three messages leave the switch with the reference
      if (t.pipeline p).chans.length ≤ s.2 then .ok (t, s.2)
      else if (t.pipeline p).chans[s.2]? ≠ some c then .ok (t, s.2)
      else if (t.chan c).pipeline.isSome then .ok (t, s.2)
      else do
        let t ← (t.setChan c ({ · with pipeline := some p })).put (.chan c)
        .ok (t, s.2 + 1)
  else .ok s

/-- `ks_pipeline_update_from_nlmsg` -/
def pipelineUpdateFromNlmsg (t : Topology) (p : Nat) (msg : Message) : Except Fault Topology := do
  let (t, _) ← msg.attrs.foldlM (updateAttr p) (t, 0)
  .ok t

/-- A turn of the loop of `ks_pipeline_create_from_nlmsg`; nothing is said of a 33rd channel. -/
def createAttr (p : Nat) (t : Topology) (attr : Attr) : Except Fault Topology :=
  if attr.type = 1 then .ok (t.setPipeline p ({ · with id := attr.word }))
  else if attr.type = 3 then .ok (t.setPipeline p ({ · with status := attr.word }))
  else if attr.type = 2 then .ok (t.setPipeline p ({ · with path := some (attr.data.takeWhile (· ≠ 0)) }))
  else if attr.type = 4 then do
    let (found, t) ← t.chanGetById attr.word
    match found with
    | none => .ok t
    | some c =>
      if Tables.chansSize ≤ (t.pipeline p).chans.length then .error .stopped
      else do
        let t ← t.keep (.chan c)
        let t := t.setPipeline p fun pipeline => { pipeline with chans := pipeline.chans ++ [c] }
        (t.setChan c ({ · with pipeline := some p })).put (.chan c)
  else .ok t

/-- `ks_pipeline_alloc` -/
def pipelineAlloc (t : Topology) : Topology :=
  { t with
    refs := t.refs.alloc (.pipeline t.next)
    pipeline := Function.update t.pipeline t.next {}
    next := t.next + 1 }

/-- `ks_pipeline_create_from_nlmsg`; without memory, ks_pipeline_add gets a null pointer. -/
def pipelineCreateFromNlmsg (t : Topology) (u : Update) : Except Fault (Nat × Topology) :=
  if ¬u.memory then .error .stopped
  else do
    let t' ← u.msg.attrs.foldlM (createAttr t.next) t.pipelineAlloc
    .ok (t.next, t')

/-- `ks_pipeline_add` -/
def pipelineAdd (t : Topology) (p : Nat) : Except Fault Topology := do
  let t ← t.keep (.pipeline p)
  .ok { t with pipelines := (pipelineHash (t.pipeline p).id, p) :: t.pipelines }

/-- `ks_pipeline_del` -/
def pipelineDel (t : Topology) (p : Nat) : Except Fault Topology :=
  let t := { t with pipelines := t.pipelines.eraseP (·.2 = p) }
  let t := (t.pipeline p).chans.foldl (fun t c => t.setChan c ({ · with pipeline := none })) t
  t.pipelineDrop p

/-- `ks_pipeline_handle_topology_update` -/
def pipelineHandle (t : Topology) (u : Update) : Except Fault Topology :=
  if u.nlmsg_type = KS_NETLINK_PIPELINE_NEW then do
    let (found, t) ← t.pipelineGetById (Tables.nlhToId u.msg)
    match found with
    | some p => t.pipelinePut p
    | none => do
      let (p, t) ← t.pipelineCreateFromNlmsg u
      let t ← t.pipelineAdd p
      t.pipelinePut p
  else if u.nlmsg_type = KS_NETLINK_PIPELINE_DEL then do
    let (found, t) ← t.pipelineGetById (Tables.nlhToId u.msg)
    match found with
    | none => .ok t
    | some p => do
      let t ← t.pipelineDel p
      t.pipelinePut p
  else if u.nlmsg_type = KS_NETLINK_PIPELINE_SET then do
    let (found, t) ← t.pipelineGetById (Tables.nlhToId u.msg)
    match found with
    | none => .ok t
    | some p => do
      let t ← t.pipelineUpdateFromNlmsg p u.msg
      t.pipelinePut p
  else .ok t

/-- `ks_chan_add` -/
def chanAdd (t : Topology) (c : Nat) : Except Fault Topology := do
  let t ← t.keep (.chan c)
  .ok { t with chans := c :: t.chans }

/-- `ks_chan_del` -/
def chanDel (t : Topology) (c : Nat) : Except Fault Topology := { t with chans := t.chans.erase c }.drop (.chan c)

/-- `ks_chan_handle_topology_update`. A channel that is not made is a null pointer for ks_chan_add; an
assertion stops, and nothing is said of what follows a value written behind its payload. -/
def chanHandle (t : Topology) (u : Update) : Except Fault Topology :=
  if u.nlmsg_type = KS_NETLINK_CHAN_NEW then
    if ¬u.memory then .error .stopped
    else
      match Features.chanCreateFromNlmsg u.nodes u.features u.msg with
      | none => .error .stopped
      | some chan => do
        let c := t.next
        let t := { t with
          refs := t.refs.alloc (.chan c), chan := Function.update t.chan c { toChan := chan }, next := c + 1 }
        let t ← t.chanAdd c
        t.put (.chan c)
  else if u.nlmsg_type = KS_NETLINK_CHAN_DEL then do
    let (found, t) ← t.chanGetById (Tables.nlhToId u.msg)
    match found with
    | none => .ok t
    | some c => do
      let t ← t.chanDel c
      t.put (.chan c)
  else if u.nlmsg_type = KS_NETLINK_CHAN_SET then do
    let (found, t) ← t.chanGetById (Tables.nlhToId u.msg)
    match found with
    | none => .ok t
    | some c =>
      match Features.chanUpdateFromNlmsg (t.chan c).toChan u.msg with
      | none | some (_, true) => .error .stopped
      | some (chan, false) => (t.setChan c ({ · with toChan := chan })).put (.chan c)
  else .ok t

/-- `ks_topology_update`, by which the protocol thread follows the topology; the other messages
are about features and nodes. -/
def topologyUpdate (t : Topology) (u : Update) : Except Fault Topology :=
  if u.nlmsg_type ∈ [KS_NETLINK_CHAN_NEW, KS_NETLINK_CHAN_DEL, KS_NETLINK_CHAN_SET] then t.chanHandle u
  else if u.nlmsg_type ∈ [KS_NETLINK_PIPELINE_NEW, KS_NETLINK_PIPELINE_DEL, KS_NETLINK_PIPELINE_SET] then t.pipelineHandle u
  else .ok t

/-- `ks_pipeline_flush` -/
def pipelineFlush (t : Topology) : Except Fault Topology :=
  t.pipelines.foldlM (fun t entry => { t with pipelines := t.pipelines.erase entry }.pipelineDrop entry.2) t

/-- `ks_chan_flush` -/
def chanFlush (t : Topology) : Except Fault Topology :=
  t.chans.foldlM (fun t c => { t with chans := t.chans.erase c }.drop (.chan c)) t

/-! ## Who has the references -/

/-- The pipelines that somebody refers to. -/
def live (t : Topology) : Finset Nat := (Finset.range t.next).filter fun p => 0 < t.refs.refcnt (.pipeline p)

/-- Each reference is counted: the ones of the program, those of the tables, and those of the
pipelines. -/
structure Sound (mine : List Obj) (t : Topology) : Prop where
  chans : ∀ c, mine.count (.chan c) + t.chans.count c + ∑ p ∈ t.live, (t.pipeline p).chans.count c ≤
    t.refs.refcnt (.chan c)
  pipelines : ∀ p, mine.count (.pipeline p) + (t.pipelines.map Prod.snd).count p ≤ t.refs.refcnt (.pipeline p)
  fresh : ∀ n, t.next ≤ n → t.refs.refcnt (.chan n) = 0 ∧ t.refs.refcnt (.pipeline n) = 0

/-- Nothing but the counts differs. -/
structure Same (t t' : Topology) : Prop where
  chan : t'.chan = t.chan
  pipeline : t'.pipeline = t.pipeline
  chans : t'.chans = t.chans
  pipelines : t'.pipelines = t.pipelines
  next : t'.next = t.next

section Rules
variable {mine : List Obj} {t t' : Topology} {o : Obj} {c p : Nat}

theorem Same.refl : Same t t := ⟨rfl, rfl, rfl, rfl, rfl⟩

theorem same_refs (refs : Refs Obj) : Same t { t with refs } := ⟨rfl, rfl, rfl, rfl, rfl⟩

theorem Same.trans {u : Topology} (first : Same t t') (second : Same t' u) : Same t u :=
  ⟨second.chan.trans first.chan, second.pipeline.trans first.pipeline, second.chans.trans first.chans,
    second.pipelines.trans first.pipelines, second.next.trans first.next⟩

theorem mem_live : p ∈ t.live ↔ p < t.next ∧ 0 < t.refs.refcnt (.pipeline p) := by
  rw [live, Finset.mem_filter, Finset.mem_range]

theorem Sound.below (sound : Sound mine t) (alive : 0 < t.refs.refcnt (.pipeline p)) : p ∈ t.live := by
  refine mem_live.mpr ⟨?_, alive⟩
  by_contra above
  have := (sound.fresh p (by omega)).2
  omega

/-- The program refers to what it has a reference to. -/
theorem Sound.alive (sound : Sound mine t) (has : o ∈ mine) : 0 < t.refs.refcnt o := by
  have counted := List.count_pos_iff.mpr has
  cases o with
  | chan c =>
    have := sound.chans c
    omega
  | pipeline p =>
    have := sound.pipelines p
    omega

theorem Sound.alive_chan (sound : Sound mine t) (listed : c ∈ t.chans) : 0 < t.refs.refcnt (.chan c) := by
  have counted := List.count_pos_iff.mpr listed
  have := sound.chans c
  omega

theorem Sound.alive_pipeline (sound : Sound mine t) {entry : Nat × Nat} (listed : entry ∈ t.pipelines) :
    0 < t.refs.refcnt (.pipeline entry.2) := by
  have counted := List.count_pos_iff.mpr (List.mem_map_of_mem (f := Prod.snd) listed)
  have := sound.pipelines entry.2
  omega

/-- One more reference for the program. -/
theorem Sound.incr (sound : Sound mine t) (alive : 0 < t.refs.refcnt o) (due : Obj → Int) :
    Sound (o :: mine) { t with refs := { refcnt := Function.update t.refs.refcnt o (t.refs.refcnt o + 1), due } } := by
  have same : live { t with refs := { refcnt := Function.update t.refs.refcnt o (t.refs.refcnt o + 1), due } } = t.live := by
    ext q
    simp only [mem_live]
    by_cases here : Obj.pipeline q = o
    · subst here
      simp [Function.update_self, alive]
    · simp [Function.update_of_ne here]
  refine ⟨fun d => ?_, fun q => ?_, fun n above => ?_⟩
  · rw [same]
    have held := sound.chans d
    by_cases here : Obj.chan d = o
    · subst here
      simp only [Function.update_self, List.count_cons_self]
      omega
    · simp only [Function.update_of_ne here, List.count_cons_of_ne (Ne.symm here)]
      exact held
  · have held := sound.pipelines q
    by_cases here : Obj.pipeline q = o
    · subst here
      simp only [Function.update_self, List.count_cons_self]
      omega
    · simp only [Function.update_of_ne here, List.count_cons_of_ne (Ne.symm here)]
      exact held
  · obtain ⟨chan, pipeline⟩ := sound.fresh n above
    have not_chan : Obj.chan n ≠ o := fun here => by subst here; omega
    have not_pipeline : Obj.pipeline n ≠ o := fun here => by subst here; omega
    simp only [Function.update_of_ne not_chan, Function.update_of_ne not_pipeline]
    exact ⟨chan, pipeline⟩

/-- One less, for a channel. -/
theorem Sound.decr (sound : Sound (.chan c :: mine) t) (due : Obj → Int) :
    Sound mine
      { t with refs := { refcnt := Function.update t.refs.refcnt (.chan c) (t.refs.refcnt (.chan c) - 1), due } } := by
  have same : live { t with refs := { refcnt := Function.update t.refs.refcnt (.chan c) (t.refs.refcnt (.chan c) - 1), due } } =
      t.live := by
    ext q
    simp [mem_live]
  refine ⟨fun d => ?_, fun q => ?_, fun n above => ?_⟩
  · rw [same]
    have held := sound.chans d
    by_cases here : d = c
    · subst here
      simp only [Function.update_self]
      rw [List.count_cons_self] at held
      omega
    · have other : Obj.chan d ≠ .chan c := fun same => here (Obj.chan.inj same)
      simp only [Function.update_of_ne other]
      rw [List.count_cons_of_ne (Ne.symm other)] at held
      exact held
  · have held := sound.pipelines q
    rw [List.count_cons_of_ne (by simp)] at held
    simpa using held
  · obtain ⟨chan, pipeline⟩ := sound.fresh n above
    refine ⟨?_, by simpa using pipeline⟩
    by_cases here : n = c
    · subst here
      simp [chan]
    · simpa [here] using chan

theorem Sound.keep (sound : Sound mine t) (alive : 0 < t.refs.refcnt o) :
    ∃ t', t.keep o = .ok t' ∧ Sound (o :: mine) t' ∧ t'.refs.due = t.refs.due ∧ Same t t' :=
  ⟨_, by rw [Topology.keep, Refs.keep_eq alive]; rfl, sound.incr alive _, rfl, same_refs _⟩

theorem Sound.get (sound : Sound mine t) (alive : 0 < t.refs.refcnt o) :
    ∃ t', t.get o = .ok t' ∧ Sound (o :: mine) t' ∧
      t'.refs.due = Function.update t.refs.due o (t.refs.due o + 1) ∧ Same t t' :=
  ⟨_, by rw [Topology.get, Refs.get_eq alive]; rfl, sound.incr alive _, rfl, same_refs _⟩

theorem Sound.drop (sound : Sound (.chan c :: mine) t) :
    ∃ t', t.drop (.chan c) = .ok t' ∧ Sound mine t' ∧ t'.refs.due = t.refs.due ∧ Same t t' :=
  ⟨_, by rw [Topology.drop, Refs.drop_eq (sound.alive List.mem_cons_self)]; rfl, sound.decr _, rfl, same_refs _⟩

theorem Sound.put (sound : Sound (.chan c :: mine) t) :
    ∃ t', t.put (.chan c) = .ok t' ∧ Sound mine t' ∧
      t'.refs.due = Function.update t.refs.due (.chan c) (t.refs.due (.chan c) - 1) ∧ Same t t' :=
  ⟨_, by rw [Topology.put, Refs.put_eq (sound.alive List.mem_cons_self)]; rfl, sound.decr _, rfl, same_refs _⟩

/-- Several references to channels are put. -/
theorem Sound.drops (cs : List Nat) : ∀ {t : Topology}, Sound (cs.map Obj.chan ++ mine) t →
    ∃ t', cs.foldlM (fun t c => t.drop (.chan c)) t = .ok t' ∧ Sound mine t' ∧ t'.refs.due = t.refs.due ∧ Same t t' := by
  induction cs with
  | nil => exact fun sound => ⟨_, rfl, sound, rfl, .refl⟩
  | cons c cs ih =>
    intro t sound
    have sound : Sound (.chan c :: (cs.map Obj.chan ++ mine)) t := sound
    obtain ⟨t', dropped, sound, due, same⟩ := sound.drop
    obtain ⟨t'', rest, sound, due', same'⟩ := ih sound
    refine ⟨t'', ?_, sound, due'.trans due, same.trans same'⟩
    rw [List.foldlM_cons, dropped]
    exact rest

/-- The last reference to a pipeline puts its channels. -/
theorem Sound.free (sound : Sound (.pipeline p :: mine) t) (due : Obj → Int) :
    ∃ t', { t with refs := { refcnt := Function.update t.refs.refcnt (.pipeline p) (t.refs.refcnt (.pipeline p) - 1), due } }.pipelineFree
        p = .ok t' ∧ Sound mine t' ∧ t'.refs.due = due ∧ Same t t' := by
  have alive := sound.alive List.mem_cons_self
  have there := sound.below alive
  set t₁ : Topology :=
    { t with refs := { refcnt := Function.update t.refs.refcnt (.pipeline p) (t.refs.refcnt (.pipeline p) - 1), due } } with eq
  have refcnt_chan (c : Nat) : t₁.refs.refcnt (.chan c) = t.refs.refcnt (.chan c) := by simp [eq]
  have refcnt_other {q : Nat} (other : q ≠ p) : t₁.refs.refcnt (.pipeline q) = t.refs.refcnt (.pipeline q) := by
    simp [eq, other]
  have refcnt_self : t₁.refs.refcnt (.pipeline p) = t.refs.refcnt (.pipeline p) - 1 := by simp [eq]
  have pipelines (q : Nat) : mine.count (.pipeline q) + (t₁.pipelines.map Prod.snd).count q ≤ t₁.refs.refcnt (.pipeline q) := by
    have held := sound.pipelines q
    by_cases here : q = p
    · subst here
      rw [List.count_cons_self] at held
      rw [refcnt_self]
      change _ + (t.pipelines.map Prod.snd).count q ≤ _
      omega
    · rw [List.count_cons_of_ne (fun same => here (Obj.pipeline.inj same).symm)] at held
      rw [refcnt_other here]
      exact held
  have fresh (n : Nat) (above : t₁.next ≤ n) : t₁.refs.refcnt (.chan n) = 0 ∧ t₁.refs.refcnt (.pipeline n) = 0 := by
    obtain ⟨chan, pipeline⟩ := sound.fresh n above
    refine ⟨by rw [refcnt_chan, chan], ?_⟩
    rw [refcnt_other (fun here => by subst here; omega), pipeline]
  unfold pipelineFree
  by_cases last : t.refs.refcnt (.pipeline p) = 1
  · rw [if_pos (by rw [refcnt_self, last])]
    have gone : t₁.live = t.live.erase p := by
      ext q
      rw [mem_live, Finset.mem_erase, mem_live]
      by_cases here : q = p
      · subst here
        rw [refcnt_self]
        omega
      · rw [refcnt_other here]
        exact ⟨fun both => ⟨here, both⟩, And.right⟩
    have owned : Sound ((t.pipeline p).chans.map Obj.chan ++ mine) t₁ := by
      refine ⟨fun c => ?_, fun q => ?_, fresh⟩
      · have held := sound.chans c
        rw [List.count_cons_of_ne (by simp), ← Finset.add_sum_erase _ _ there] at held
        rw [gone, refcnt_chan, List.count_append, List.count_map_of_injective _ _ (fun _ _ => Obj.chan.inj)]
        change _ + t.chans.count c + ∑ q ∈ t.live.erase p, (t.pipeline q).chans.count c ≤ _
        omega
      · rw [List.count_append, List.count_eq_zero_of_not_mem (by simp), Nat.zero_add]
        exact pipelines q
    obtain ⟨t', dropped, sound, due', same⟩ := Sound.drops _ owned
    exact ⟨t', dropped, sound, due', same.chan, same.pipeline, same.chans, same.pipelines, same.next⟩
  · rw [if_neg (by rw [refcnt_self]; omega)]
    have kept : t₁.live = t.live := by
      ext q
      rw [mem_live, mem_live]
      by_cases here : q = p
      · subst here
        rw [refcnt_self]
        change _ < t.next ∧ _ ↔ _
        omega
      · rw [refcnt_other here]
    refine ⟨t₁, rfl, ⟨fun c => ?_, pipelines, fresh⟩, rfl, same_refs _⟩
    have held := sound.chans c
    rw [List.count_cons_of_ne (by simp)] at held
    rw [kept, refcnt_chan]
    exact held

theorem Sound.pipelinePut (sound : Sound (.pipeline p :: mine) t) :
    ∃ t', t.pipelinePut p = .ok t' ∧ Sound mine t' ∧
      t'.refs.due = Function.update t.refs.due (.pipeline p) (t.refs.due (.pipeline p) - 1) ∧ Same t t' := by
  obtain ⟨t', freed, rest⟩ := sound.free (Function.update t.refs.due (.pipeline p) (t.refs.due (.pipeline p) - 1))
  refine ⟨t', ?_, rest⟩
  rw [Topology.pipelinePut, Topology.put, Refs.put_eq (sound.alive List.mem_cons_self)]
  exact freed

theorem Sound.pipelineDrop (sound : Sound (.pipeline p :: mine) t) :
    ∃ t', t.pipelineDrop p = .ok t' ∧ Sound mine t' ∧ t'.refs.due = t.refs.due ∧ Same t t' := by
  obtain ⟨t', freed, rest⟩ := sound.free t.refs.due
  refine ⟨t', ?_, rest⟩
  rw [Topology.pipelineDrop, Topology.drop, Refs.drop_eq (sound.alive List.mem_cons_self)]
  exact freed

/-- The counts and who has references decide. -/
theorem Sound.of_eq (sound : Sound mine t) (refs : t'.refs.refcnt = t.refs.refcnt)
    (owned : ∀ p, (t'.pipeline p).chans = (t.pipeline p).chans) (chans : t'.chans = t.chans)
    (pipelines : t'.pipelines = t.pipelines) (next : t'.next = t.next) : Sound mine t' := by
  have same : t'.live = t.live := by
    unfold live
    rw [next, refs]
  refine ⟨fun c => ?_, fun p => ?_, fun n above => ?_⟩
  · rw [same, chans, refs]
    simp only [owned]
    exact sound.chans c
  · rw [pipelines, refs]
    exact sound.pipelines p
  · rw [refs]
    exact sound.fresh n (by rwa [← next])

/-- The references of the program are counted on top of the others. -/
theorem Sound.shared (sound : Sound mine t) : Sound [] t := by
  refine ⟨fun c => ?_, fun p => ?_, sound.fresh⟩
  · have := sound.chans c
    rw [List.count_nil]
    omega
  · have := sound.pipelines p
    rw [List.count_nil]
    omega

theorem Sound.setChan (sound : Sound mine t) (c : Nat) (f : Chan → Chan) : Sound mine (t.setChan c f) :=
  sound.of_eq rfl (fun _ => rfl) rfl rfl rfl

theorem Sound.setPipeline (sound : Sound mine t) (p : Nat) {f : Pipeline → Pipeline}
    (same : ∀ pipeline, (f pipeline).chans = pipeline.chans) : Sound mine (t.setPipeline p f) := by
  refine sound.of_eq rfl (fun q => ?_) rfl rfl rfl
  by_cases here : q = p
  · subst here
    simp only [Topology.setPipeline, Function.update_self, same]
  · simp only [Topology.setPipeline, Function.update_of_ne here]

/-- A pipeline takes a reference to a channel. -/
theorem Sound.store (sound : Sound (.chan c :: mine) t) (there : p ∈ t.live) :
    Sound mine (t.setPipeline p fun pipeline => { pipeline with chans := pipeline.chans ++ [c] }) := by
  refine ⟨fun d => ?_, fun q => ?_, sound.fresh⟩
  · have held := sound.chans d
    rw [← Finset.add_sum_erase _ _ there] at held
    change _ + t.chans.count d + ∑ q ∈ t.live,
      ((Function.update t.pipeline p { t.pipeline p with chans := (t.pipeline p).chans ++ [c] }) q).chans.count d ≤
        t.refs.refcnt (.chan d)
    rw [← Finset.add_sum_erase _ _ there, Function.update_self, Finset.sum_congr rfl fun q other => by
      rw [Function.update_of_ne (Finset.ne_of_mem_erase other)]]
    rw [List.count_append]
    by_cases here : d = c
    · subst here
      rw [List.count_cons_self] at held
      rw [List.count_singleton_self]
      omega
    · rw [List.count_cons_of_ne (fun same => here (Obj.chan.inj same).symm)] at held
      have none : [c].count d = 0 := List.count_eq_zero_of_not_mem (by simpa using here)
      omega
  · have held := sound.pipelines q
    rw [List.count_cons_of_ne (by simp)] at held
    exact held

/-- The table takes a reference to a channel. -/
theorem Sound.listed (sound : Sound (.chan c :: mine) t) : Sound mine { t with chans := c :: t.chans } := by
  refine ⟨fun d => ?_, fun q => ?_, sound.fresh⟩
  · have held := sound.chans d
    change _ + (c :: t.chans).count d + ∑ p ∈ t.live, (t.pipeline p).chans.count d ≤ t.refs.refcnt (.chan d)
    by_cases here : d = c
    · subst here
      rw [List.count_cons_self] at held ⊢
      omega
    · rw [List.count_cons_of_ne (fun same => here (Obj.chan.inj same).symm)] at held
      rw [List.count_cons_of_ne (Ne.symm here)]
      exact held
  · have held := sound.pipelines q
    rw [List.count_cons_of_ne (by simp)] at held
    exact held

/-- The table gives its reference to the program. -/
theorem Sound.unlisted (sound : Sound mine t) (there : c ∈ t.chans) :
    Sound (.chan c :: mine) { t with chans := t.chans.erase c } := by
  refine ⟨fun d => ?_, fun q => ?_, sound.fresh⟩
  · have held := sound.chans d
    change (Obj.chan c :: mine).count (.chan d) + (t.chans.erase c).count d + ∑ p ∈ t.live, (t.pipeline p).chans.count d ≤
      t.refs.refcnt (.chan d)
    by_cases here : d = c
    · subst here
      have counted := List.count_pos_iff.mpr there
      rw [List.count_cons_self, List.count_erase_self]
      omega
    · rw [List.count_cons_of_ne (fun same => here (Obj.chan.inj same).symm), List.count_erase_of_ne here]
      exact held
  · rw [List.count_cons_of_ne (by simp)]
    exact sound.pipelines q

theorem Sound.pipelineListed (sound : Sound (.pipeline p :: mine) t) (bucket : Nat) :
    Sound mine { t with pipelines := (bucket, p) :: t.pipelines } := by
  refine ⟨fun d => ?_, fun q => ?_, sound.fresh⟩
  · have held := sound.chans d
    rw [List.count_cons_of_ne (by simp)] at held
    exact held
  · have held := sound.pipelines q
    change _ + (p :: t.pipelines.map Prod.snd).count q ≤ t.refs.refcnt (.pipeline q)
    by_cases here : q = p
    · subst here
      rw [List.count_cons_self] at held ⊢
      omega
    · rw [List.count_cons_of_ne (fun same => here (Obj.pipeline.inj same).symm)] at held
      rw [List.count_cons_of_ne (Ne.symm here)]
      exact held

/-- The table of pipelines gives the reference of an entry that is taken out to the program. -/
theorem Sound.pipelineUnlisted (sound : Sound mine t) (rest : List (Nat × Nat))
    (out : (t.pipelines.map Prod.snd).Perm (p :: rest.map Prod.snd)) :
    Sound (.pipeline p :: mine) { t with pipelines := rest } := by
  refine ⟨fun d => ?_, fun q => ?_, sound.fresh⟩
  · rw [List.count_cons_of_ne (by simp)]
    exact sound.chans d
  · have held := sound.pipelines q
    rw [out.count_eq] at held
    change _ + (rest.map Prod.snd).count q ≤ t.refs.refcnt (.pipeline q)
    by_cases here : q = p
    · subst here
      rw [List.count_cons_self] at held ⊢
      omega
    · rw [List.count_cons_of_ne (Ne.symm here)] at held
      rw [List.count_cons_of_ne (fun same => here (Obj.pipeline.inj same).symm)]
      exact held

/-! ## The handlers -/

theorem Sound.chanGetById (sound : Sound mine t) {id : Nat} (found : t.chanById id = some c) :
    ∃ t', t.chanGetById id = .ok (some c, t') ∧ Sound (.chan c :: mine) t' ∧
      t'.refs.due = Function.update t.refs.due (.chan c) (t.refs.due (.chan c) + 1) ∧ Same t t' := by
  obtain ⟨t', got, rest⟩ := sound.get (sound.alive_chan (List.mem_of_find?_eq_some found))
  refine ⟨t', ?_, rest⟩
  rw [Topology.chanGetById, found]
  change (t.get (.chan c) >>= fun t => .ok (some c, t)) = _
  rw [got]
  rfl

theorem chanGetById_none {id : Nat} (unknown : t.chanById id = none) : t.chanGetById id = .ok (none, t) := by
  rw [chanGetById, unknown]

theorem pipelineById_mem {id : Nat} (found : t.pipelineById id = some p) : ∃ entry ∈ t.pipelines, entry.2 = p := by
  obtain ⟨entry, first, rfl⟩ := Option.map_eq_some_iff.mp found
  exact ⟨entry, List.mem_of_find?_eq_some first, rfl⟩

theorem Sound.pipelineGetById (sound : Sound mine t) {id : Nat} (found : t.pipelineById id = some p) :
    ∃ t', t.pipelineGetById id = .ok (some p, t') ∧ Sound (.pipeline p :: mine) t' ∧
      t'.refs.due = Function.update t.refs.due (.pipeline p) (t.refs.due (.pipeline p) + 1) ∧ Same t t' := by
  obtain ⟨entry, member, rfl⟩ := pipelineById_mem found
  obtain ⟨t', got, rest⟩ := sound.get (sound.alive_pipeline member)
  refine ⟨t', ?_, rest⟩
  rw [Topology.pipelineGetById, found]
  change (t.get (.pipeline entry.2) >>= fun t => .ok (some entry.2, t)) = _
  rw [got]
  rfl

theorem pipelineGetById_none {id : Nat} (unknown : t.pipelineById id = none) : t.pipelineGetById id = .ok (none, t) := by
  rw [pipelineGetById, unknown]

/-- A reference that is taken and put back. -/
theorem due_back (due : Obj → Int) (o : Obj) :
    Function.update (Function.update due o (due o + 1)) o (Function.update due o (due o + 1) o - 1) = due := by
  rw [Function.update_self, Function.update_idem, Int.add_sub_cancel, Function.update_eq_self]

/-- The channels that a message names and the library knows. -/
def named (t : Topology) (attrs : List Attr) : List Nat :=
  (attrs.filter (·.type = 4)).filterMap fun attr => t.chanById attr.word

/-- The channels a message names are those of the pipeline from an index on, and none of them has a
pipeline or is named twice. -/
structure Consistent (t : Topology) (p cnt : Nat) (attrs : List Attr) : Prop where
  sent : t.named attrs <+: (t.pipeline p).chans.drop cnt
  once : (t.named attrs).Nodup
  unused : ∀ c ∈ t.named attrs, (t.chan c).pipeline = none

theorem named_congr (chans : t'.chans = t.chans) (ids : ∀ c, (t'.chan c).id = (t.chan c).id) (attrs : List Attr) :
    t'.named attrs = t.named attrs := by
  have same : t'.chanById = t.chanById := by
    funext id
    unfold chanById
    rw [chans]
    simp only [ids]
  unfold named
  rw [same]

theorem Consistent.congr {cnt : Nat} {attrs : List Attr} (consistent : Consistent t p cnt attrs) (chans : t'.chans = t.chans)
    (chan : t'.chan = t.chan) (same : (t'.pipeline p).chans = (t.pipeline p).chans) : Consistent t' p cnt attrs := by
  have equal := named_congr chans (fun c => by rw [chan]) attrs
  refine ⟨?_, ?_, ?_⟩
  · rw [equal, same]
    exact consistent.sent
  · rw [equal]
    exact consistent.once
  · rw [equal, chan]
    exact consistent.unused

theorem consistent_congr_iff {cnt : Nat} {attrs : List Attr} (chans : t'.chans = t.chans)
    (chan : t'.chan = t.chan) (same : (t'.pipeline p).chans = (t.pipeline p).chans) :
    Consistent t' p cnt attrs ↔ Consistent t p cnt attrs :=
  ⟨fun consistent => consistent.congr chans.symm chan.symm same.symm, fun consistent => consistent.congr chans chan same⟩

theorem consistent_skip_iff {cnt : Nat} {attr : Attr} {attrs : List Attr} (skip : t.named (attr :: attrs) = t.named attrs) :
    Consistent t p cnt (attr :: attrs) ↔ Consistent t p cnt attrs := by
  constructor
  · rintro ⟨sent, once, unused⟩
    rw [skip] at sent once unused
    exact ⟨sent, once, unused⟩
  · rintro ⟨sent, once, unused⟩
    rw [← skip] at sent once unused
    exact ⟨sent, once, unused⟩

/-- The next channel named is the next of the pipeline, and gets it. -/
theorem consistent_cons_iff {cnt : Nat} {attr : Attr} {attrs : List Attr} (type : attr.type = 4)
    (found : t.chanById attr.word = some c) :
    Consistent t p cnt (attr :: attrs) ↔
      ((t.pipeline p).chans[cnt]? = some c ∧ (t.chan c).pipeline = none) ∧
        Consistent (t.setChan c ({ · with pipeline := some p })) p (cnt + 1) attrs := by
  have names : t.named (attr :: attrs) = c :: t.named attrs := by
    unfold named
    rw [List.filter_cons_of_pos (by simpa using type), List.filterMap_cons, found]
  have names' : (t.setChan c ({ · with pipeline := some p })).named attrs = t.named attrs := by
    refine named_congr (show (t.setChan c _).chans = t.chans from rfl) (fun d => ?_) attrs
    by_cases here : d = c
    · subst here
      simp [setChan]
    · simp [setChan, here]
  have others : (∀ d ∈ t.named attrs, ((t.setChan c ({ · with pipeline := some p })).chan d).pipeline = none) ↔
      c ∉ t.named attrs ∧ ∀ d ∈ t.named attrs, (t.chan d).pipeline = none := by
    constructor
    · intro unused
      have apart : c ∉ t.named attrs := by
        intro again
        have := unused c again
        simp [setChan] at this
      refine ⟨apart, fun d member => ?_⟩
      have := unused d member
      have other : d ≠ c := fun same => apart (same ▸ member)
      simpa [setChan, other] using this
    · rintro ⟨apart, unused⟩ d member
      have other : d ≠ c := fun same => apart (same ▸ member)
      simpa [setChan, other] using unused d member
  have prefixed : c :: t.named attrs <+: (t.pipeline p).chans.drop cnt ↔
      (t.pipeline p).chans[cnt]? = some c ∧ t.named attrs <+: (t.pipeline p).chans.drop (cnt + 1) := by
    by_cases more : cnt < (t.pipeline p).chans.length
    · rw [List.drop_eq_getElem_cons more, List.cons_prefix_cons, List.getElem?_eq_getElem more, Option.some.injEq, eq_comm]
    · rw [List.drop_eq_nil_of_le (by omega), List.getElem?_eq_none (by omega)]
      simp
  constructor
  · rintro ⟨sent, once, unused⟩
    rw [names] at sent once unused
    obtain ⟨apart, once⟩ := List.nodup_cons.mp once
    obtain ⟨here, rest⟩ := prefixed.mp sent
    refine ⟨⟨here, unused c List.mem_cons_self⟩, ?_, ?_, ?_⟩
    · rw [names']
      exact rest
    · rw [names']
      exact once
    · rw [names']
      exact others.mpr ⟨apart, fun d member => unused d (List.mem_cons_of_mem _ member)⟩
  · rintro ⟨⟨here, free⟩, sent, once, unused⟩
    rw [names'] at sent once unused
    obtain ⟨apart, unused⟩ := others.mp unused
    refine ⟨?_, ?_, ?_⟩
    · rw [names]
      exact prefixed.mpr ⟨here, sent⟩
    · rw [names]
      exact List.nodup_cons.mpr ⟨apart, once⟩
    · rw [names]
      intro d member
      rcases List.mem_cons.mp member with rfl | member
      · exact free
      · exact unused d member

/-- One turn over an attribute that names no channel the library knows. -/
theorem Sound.updateAttr_skip (sound : Sound mine t) (p cnt : Nat) {attr : Attr}
    (unnamed : attr.type = 4 → t.chanById attr.word = none) :
    ∃ t', updateAttr p (t, cnt) attr = .ok (t', cnt) ∧ Sound mine t' ∧ t'.refs.due = t.refs.due ∧
      t'.chans = t.chans ∧ t'.chan = t.chan ∧ (t'.pipeline p).chans = (t.pipeline p).chans := by
  have set (f : Pipeline → Pipeline) (keeps : ∀ pipeline, (f pipeline).chans = pipeline.chans) :
      Sound mine (t.setPipeline p f) ∧ ((t.setPipeline p f).pipeline p).chans = (t.pipeline p).chans :=
    ⟨sound.setPipeline p keeps, by simp only [Topology.setPipeline, Function.update_self, keeps]⟩
  unfold updateAttr
  by_cases id : attr.type = 1
  · rw [if_pos id]
    obtain ⟨sound, same⟩ := set ({ · with id := attr.word }) fun _ => rfl
    exact ⟨_, rfl, sound, rfl, rfl, rfl, same⟩
  by_cases status : attr.type = 3
  · rw [if_neg id, if_pos status]
    obtain ⟨sound, same⟩ := set ({ · with status := attr.word }) fun _ => rfl
    exact ⟨_, rfl, sound, rfl, rfl, rfl, same⟩
  by_cases path : attr.type = 2
  · rw [if_neg id, if_neg status, if_pos path]
    obtain ⟨sound, same⟩ := set ({ · with path := some (attr.data.takeWhile (· ≠ 0)) }) fun _ => rfl
    exact ⟨_, rfl, sound, rfl, rfl, rfl, same⟩
  by_cases chan : attr.type = 4
  · rw [if_neg id, if_neg status, if_neg path, if_pos chan, chanGetById_none (unnamed chan)]
    exact ⟨t, rfl, sound, rfl, rfl, rfl, rfl⟩
  · rw [if_neg id, if_neg status, if_neg path, if_neg chan]
    exact ⟨t, rfl, sound, rfl, rfl, rfl, rfl⟩

/-- One turn over an attribute that names one. -/
theorem Sound.updateAttr_chan (sound : Sound mine t) (p cnt : Nat) {attr : Attr} (type : attr.type = 4)
    (found : t.chanById attr.word = some c) :
    (((t.pipeline p).chans[cnt]? = some c ∧ (t.chan c).pipeline = none) ∧
      ∃ t', updateAttr p (t, cnt) attr = .ok (t', cnt + 1) ∧ Sound mine t' ∧ t'.refs.due = t.refs.due ∧
        Same (t.setChan c ({ · with pipeline := some p })) t') ∨
    (¬((t.pipeline p).chans[cnt]? = some c ∧ (t.chan c).pipeline = none) ∧
      ∃ t', updateAttr p (t, cnt) attr = .ok (t', cnt) ∧ Sound mine t' ∧
        t'.refs.due = Function.update t.refs.due (.chan c) (t.refs.due (.chan c) + 1) ∧ Same t t') := by
  obtain ⟨t₁, got, sound₁, due, same⟩ := sound.chanGetById found
  have start : updateAttr p (t, cnt) attr =
      if (t₁.pipeline p).chans.length ≤ cnt then .ok (t₁, cnt)
      else if (t₁.pipeline p).chans[cnt]? ≠ some c then .ok (t₁, cnt)
      else if (t₁.chan c).pipeline.isSome then .ok (t₁, cnt)
      else (t₁.setChan c ({ · with pipeline := some p })).put (.chan c) >>= fun t => .ok (t, cnt + 1) := by
    unfold updateAttr
    rw [if_neg (by omega), if_neg (by omega), if_neg (by omega), if_pos type, got]
    rfl
  rw [start, same.pipeline, same.chan]
  have less : Sound mine t₁ := by
    refine ⟨fun d => ?_, fun q => ?_, sound₁.fresh⟩
    · have := sound₁.chans d
      have := List.count_le_count_cons (a := .chan d) (b := .chan c) (l := mine)
      omega
    · have := sound₁.pipelines q
      rw [List.count_cons_of_ne (by simp)] at this
      exact this
  by_cases fits : (t.pipeline p).chans[cnt]? = some c ∧ (t.chan c).pipeline = none
  · obtain ⟨next, unused⟩ := fits
    refine .inl ⟨⟨next, unused⟩, ?_⟩
    have within : ¬(t.pipeline p).chans.length ≤ cnt := by
      intro beyond
      rw [List.getElem?_eq_none beyond] at next
      cases next
    obtain ⟨t', put, sound', due', same'⟩ := (sound₁.setChan c ({ · with pipeline := some p })).put
    refine ⟨t', ?_, sound', ?_, ?_⟩
    · rw [if_neg within, if_neg (not_not.mpr next), unused, if_neg (by simp), put]
      rfl
    · rw [due']
      change Function.update t₁.refs.due (.chan c) (t₁.refs.due (.chan c) - 1) = _
      rw [due, due_back]
    · exact ⟨by rw [same'.chan, Topology.setChan, Topology.setChan, same.chan], same'.pipeline.trans same.pipeline,
        same'.chans.trans same.chans, same'.pipelines.trans same.pipelines, same'.next.trans same.next⟩
  · refine .inr ⟨fits, t₁, ?_, less, due, same⟩
    split_ifs with beyond other busy
    · rfl
    · rfl
    · rfl
    · refine absurd ⟨not_not.mp other, ?_⟩ fits
      simpa using busy

/-- The loop keeps exactly the references that it has taken for inconsistent channels. -/
theorem Sound.updateAttrs (p : Nat) (attrs : List Attr) : ∀ {t : Topology} (cnt : Nat), Sound mine t →
    ∃ t' cnt', attrs.foldlM (updateAttr p) (t, cnt) = .ok (t', cnt') ∧ Sound mine t' ∧
      (∀ o, t.refs.due o ≤ t'.refs.due o) ∧ (t'.refs.due = t.refs.due ↔ Consistent t p cnt attrs) := by
  induction attrs with
  | nil =>
    intro t cnt sound
    refine ⟨t, cnt, rfl, sound, fun _ => le_rfl, iff_of_true rfl ⟨?_, ?_, ?_⟩⟩
    · exact List.nil_prefix
    · exact List.nodup_nil
    · simp [named]
  | cons attr attrs ih =>
    intro t cnt sound
    by_cases names : attr.type = 4 ∧ (t.chanById attr.word).isSome
    · obtain ⟨type, some⟩ := names
      obtain ⟨c, found⟩ := Option.isSome_iff_exists.mp some
      obtain ⟨fits, t₁, turn, sound₁, due, same⟩ | ⟨leaves, t₁, turn, sound₁, due, same⟩ :=
        sound.updateAttr_chan p cnt type found
      · obtain ⟨t', cnt', rest, sound', more, exact⟩ := ih (cnt + 1) sound₁
        refine ⟨t', cnt', ?_, sound', due ▸ more, ?_⟩
        · rw [List.foldlM_cons, turn]
          exact rest
        · rw [← due, exact, consistent_cons_iff type found, and_iff_right fits]
          exact consistent_congr_iff same.chans same.chan (by rw [same.pipeline])
      · obtain ⟨t', cnt', rest, sound', more, -⟩ := ih cnt sound₁
        have up (o : Obj) : t.refs.due o ≤ t₁.refs.due o := by
          rw [due]
          by_cases here : o = .chan c
          · subst here
            rw [Function.update_self]
            omega
          · rw [Function.update_of_ne here]
        refine ⟨t', cnt', ?_, sound', fun o => (up o).trans (more o), ?_⟩
        · rw [List.foldlM_cons, turn]
          exact rest
        · refine iff_of_false (fun balanced => ?_) fun consistent => ?_
          · have := more (.chan c)
            rw [balanced, due, Function.update_self] at this
            omega
          · exact leaves ((consistent_cons_iff type found).mp consistent).1
    · have unnamed : attr.type = 4 → t.chanById attr.word = none := by
        intro type
        cases found : t.chanById attr.word with
        | none => rfl
        | some c => exact absurd ⟨type, by rw [found]; rfl⟩ names
      obtain ⟨t₁, turn, sound₁, due, chans, chan, same⟩ := sound.updateAttr_skip p cnt unnamed
      obtain ⟨t', cnt', rest, sound', more, exact⟩ := ih cnt sound₁
      have skip : t.named (attr :: attrs) = t.named attrs := by
        unfold named
        by_cases type : attr.type = 4
        · rw [List.filter_cons_of_pos (by simpa using type), List.filterMap_cons, unnamed type]
        · rw [List.filter_cons_of_neg (by simpa using type)]
      refine ⟨t', cnt', ?_, sound', due ▸ more, ?_⟩
      · rw [List.foldlM_cons, turn]
        exact rest
      · rw [← due, exact, consistent_skip_iff skip]
        exact consistent_congr_iff chans chan same

/-- `ks_pipeline_update_from_nlmsg` puts back what it takes if the channels are consistent. -/
theorem Sound.pipelineUpdateFromNlmsg (sound : Sound mine t) (p : Nat) (msg : Message) :
    ∃ t', t.pipelineUpdateFromNlmsg p msg = .ok t' ∧ Sound mine t' ∧ (∀ o, t.refs.due o ≤ t'.refs.due o) ∧
      (t'.refs.due = t.refs.due ↔ Consistent t p 0 msg.attrs) := by
  obtain ⟨t', cnt', run, rest⟩ := Sound.updateAttrs p msg.attrs 0 sound
  refine ⟨t', ?_, rest⟩
  rw [Topology.pipelineUpdateFromNlmsg, run]
  rfl

theorem Sound.chanAlloc (sound : Sound mine t) (chan : Chan) :
    Sound (.chan t.next :: mine)
      { t with
        refs := t.refs.alloc (.chan t.next), chan := Function.update t.chan t.next chan, next := t.next + 1 } := by
  obtain ⟨-, pipeline⟩ := sound.fresh t.next (Nat.le_refl _)
  have same : live { t with
      refs := t.refs.alloc (.chan t.next), chan := Function.update t.chan t.next chan, next := t.next + 1 } = t.live := by
    ext q
    simp only [mem_live, Refs.alloc, ne_eq, reduceCtorEq, not_false_eq_true, Function.update_of_ne]
    refine ⟨fun ⟨below, alive⟩ => ⟨?_, alive⟩, fun ⟨below, alive⟩ => ⟨by omega, alive⟩⟩
    by_contra above
    obtain rfl : q = t.next := by omega
    omega
  refine ⟨fun d => ?_, fun q => ?_, fun n above => ?_⟩
  · rw [same]
    have held := sound.chans d
    by_cases here : d = t.next
    · subst here
      obtain ⟨chan, -⟩ := sound.fresh t.next (Nat.le_refl _)
      simp only [Refs.alloc, Function.update_self, List.count_cons_self]
      omega
    · have other : Obj.chan d ≠ .chan t.next := fun same => here (Obj.chan.inj same)
      simp only [Refs.alloc, Function.update_of_ne other, List.count_cons_of_ne (Ne.symm other)]
      exact held
  · rw [List.count_cons_of_ne (by simp)]
    simpa [Refs.alloc] using sound.pipelines q
  · obtain ⟨chan, pipeline⟩ := sound.fresh n (Nat.le_of_succ_le above)
    have other : Obj.chan n ≠ .chan t.next := by
      intro same
      have := Obj.chan.inj same
      change t.next + 1 ≤ n at above
      omega
    simp only [Refs.alloc, Function.update_of_ne other, ne_eq, reduceCtorEq, not_false_eq_true, Function.update_of_ne]
    exact ⟨chan, pipeline⟩

theorem Sound.pipelineAlloc (sound : Sound mine t) : Sound (.pipeline t.next :: mine) t.pipelineAlloc := by
  obtain ⟨-, none⟩ := sound.fresh t.next (Nat.le_refl _)
  have new : t.next ∉ t.live := fun there => absurd (mem_live.mp there).1 (Nat.lt_irrefl _)
  have other {q : Nat} (here : q ≠ t.next) : Obj.pipeline q ≠ .pipeline t.next := fun same => here (Obj.pipeline.inj same)
  have more : t.pipelineAlloc.live = insert t.next t.live := by
    ext q
    rw [mem_live, Finset.mem_insert, mem_live]
    by_cases here : q = t.next
    · subst here
      simp [Topology.pipelineAlloc, Refs.alloc]
    · simp only [Topology.pipelineAlloc, Refs.alloc, Function.update_of_ne (other here), here, false_or]
      omega
  refine ⟨fun d => ?_, fun q => ?_, fun n above => ?_⟩
  · have held := sound.chans d
    have owned : ∑ p ∈ t.live, (t.pipelineAlloc.pipeline p).chans.count d = ∑ p ∈ t.live, (t.pipeline p).chans.count d := by
      refine Finset.sum_congr rfl fun p there => ?_
      rw [Topology.pipelineAlloc]
      simp only [Function.update_of_ne (show p ≠ t.next from fun same => new (same ▸ there))]
    rw [more, Finset.sum_insert new, owned, List.count_cons_of_ne (by simp)]
    simpa [Topology.pipelineAlloc, Refs.alloc] using held
  · have held := sound.pipelines q
    by_cases here : q = t.next
    · subst here
      simp only [Topology.pipelineAlloc, Refs.alloc, Function.update_self, List.count_cons_self]
      omega
    · simp only [Topology.pipelineAlloc, Refs.alloc, Function.update_of_ne (other here),
        List.count_cons_of_ne (Ne.symm (other here))]
      exact held
  · change t.next + 1 ≤ n at above
    obtain ⟨chan, pipeline⟩ := sound.fresh n (by omega)
    simp only [Topology.pipelineAlloc, Refs.alloc, ne_eq, reduceCtorEq, not_false_eq_true, Function.update_of_ne]
    rw [Function.update_of_ne (other (by omega))]
    exact ⟨chan, pipeline⟩

/-- A turn over an attribute of a new pipeline. -/
theorem Sound.createAttr (sound : Sound mine t) (has : .pipeline p ∈ mine) (attr : Attr) :
    Safe (fun t' => Sound mine t' ∧ t'.refs.due = t.refs.due) (createAttr p t attr) := by
  unfold Topology.createAttr
  split_ifs with id status path chan
  · exact ⟨sound.setPipeline p fun _ => rfl, rfl⟩
  · exact ⟨sound.setPipeline p fun _ => rfl, rfl⟩
  · exact ⟨sound.setPipeline p fun _ => rfl, rfl⟩
  · cases found : t.chanById attr.word with
    | none =>
      rw [chanGetById_none found]
      exact ⟨sound, rfl⟩
    | some c =>
      obtain ⟨t₁, got, sound₁, due, same⟩ := sound.chanGetById found
      rw [got]
      change Safe _ (if Tables.chansSize ≤ (t₁.pipeline p).chans.length then .error .stopped else _)
      split_ifs with full
      · rfl
      · obtain ⟨t₂, kept, sound₂, due₂, same₂⟩ := sound₁.keep (sound₁.alive List.mem_cons_self)
        have there : p ∈ t₂.live :=
          sound₂.below (sound₂.alive (List.mem_cons_of_mem _ (List.mem_cons_of_mem _ has)))
        obtain ⟨t₃, put, sound₃, due₃, -⟩ := ((sound₂.store there).setChan c ({ · with pipeline := some p })).put
        rw [kept]
        change Safe _ (Topology.put _ (.chan c))
        rw [put]
        refine ⟨sound₃, ?_⟩
        rw [due₃]
        change Function.update t₂.refs.due (.chan c) (t₂.refs.due (.chan c) - 1) = _
        rw [due₂, due, due_back]
  · exact ⟨sound, rfl⟩

theorem Sound.pipelineCreateFromNlmsg (sound : Sound mine t) (u : Update) :
    Safe (fun made => Sound (.pipeline made.1 :: mine) made.2 ∧
        made.2.refs.due = Function.update t.refs.due (.pipeline made.1) (t.refs.due (.pipeline made.1) + 1))
      (t.pipelineCreateFromNlmsg u) := by
  unfold Topology.pipelineCreateFromNlmsg
  split_ifs with memory
  · rw [safe_bind_iff]
    refine (Safe.foldlM
      (fun t' => Sound (.pipeline t.next :: mine) t' ∧ t'.refs.due = t.pipelineAlloc.refs.due)
      (fun t' attr held => ?_) u.msg.attrs t.pipelineAlloc ⟨sound.pipelineAlloc, rfl⟩).mono fun t' _ held => held
    exact (held.1.createAttr List.mem_cons_self attr).mono fun _ _ next => ⟨next.1, next.2.trans held.2⟩
  · rfl

theorem Sound.pipelineAdd (sound : Sound mine t) (alive : 0 < t.refs.refcnt (.pipeline p)) :
    ∃ t', t.pipelineAdd p = .ok t' ∧ Sound mine t' ∧ t'.refs.due = t.refs.due := by
  obtain ⟨t₁, kept, sound₁, due, -⟩ := sound.keep alive
  refine ⟨{ t₁ with pipelines := (pipelineHash (t₁.pipeline p).id, p) :: t₁.pipelines }, ?_, sound₁.pipelineListed _, due⟩
  rw [Topology.pipelineAdd, kept]
  rfl

theorem Sound.pipelineDel (sound : Sound mine t) (listed : ∃ entry ∈ t.pipelines, entry.2 = p) :
    ∃ t', t.pipelineDel p = .ok t' ∧ Sound mine t' ∧ t'.refs.due = t.refs.due := by
  have out : (t.pipelines.map Prod.snd).Perm (p :: (t.pipelines.eraseP (·.2 = p)).map Prod.snd) := by
    obtain ⟨entry, member, same⟩ := listed
    obtain ⟨first, before, after, -, is_p, split, rest⟩ :=
      List.exists_of_eraseP (p := fun entry : Nat × Nat => decide (entry.2 = p)) member (by simpa using same)
    rw [rest, split, List.map_append, List.map_cons, List.map_append, of_decide_eq_true is_p]
    exact List.perm_middle
  have sound₁ := sound.pipelineUnlisted _ out
  have cleared (cs : List Nat) : ∀ {t : Topology}, Sound (.pipeline p :: mine) t →
      Sound (.pipeline p :: mine) (cs.foldl (fun t c => t.setChan c ({ · with pipeline := none })) t) ∧
        (cs.foldl (fun t c => t.setChan c ({ · with pipeline := none })) t).refs.due = t.refs.due := by
    induction cs with
    | nil => exact fun sound => ⟨sound, rfl⟩
    | cons c cs ih => exact fun sound => ih (sound.setChan c _)
  obtain ⟨sound₂, due₂⟩ := cleared (t.pipeline p).chans sound₁
  obtain ⟨t', dropped, sound', due, -⟩ := sound₂.pipelineDrop
  exact ⟨t', dropped, sound', due.trans due₂⟩

/-- The message puts back the channels it takes. -/
def Settles (t : Topology) (u : Update) : Prop :=
  u.nlmsg_type = KS_NETLINK_PIPELINE_SET →
    ∀ p, t.pipelineById (Tables.nlhToId u.msg) = some p → Consistent t p 0 u.msg.attrs

/-- What a handler of messages does to the references. -/
structure Handled (mine : List Obj) (t : Topology) (settles : Prop) (t' : Topology) : Prop where
  sound : Sound mine t'
  more : ∀ o, t.refs.due o ≤ t'.refs.due o
  exact : t'.refs.due = t.refs.due ↔ settles

theorem Handled.of_due {settles : Prop} (sound : Sound mine t') (due : t'.refs.due = t.refs.due) (holds : settles) :
    Handled mine t settles t' :=
  ⟨sound, fun o => by rw [due], iff_of_true due holds⟩

/-- `ks_pipeline_handle_topology_update` -/
theorem Sound.pipelineHandle (sound : Sound mine t) (u : Update) :
    Safe (Handled mine t (Settles t u)) (t.pipelineHandle u) := by
  unfold Topology.pipelineHandle
  have types : KS_NETLINK_PIPELINE_NEW ≠ KS_NETLINK_PIPELINE_SET ∧ KS_NETLINK_PIPELINE_DEL ≠ KS_NETLINK_PIPELINE_SET := by
    decide
  split_ifs with new del set
  · have settles : Settles t u := fun set => absurd (new.symm.trans set) types.1
    cases found : t.pipelineById (Tables.nlhToId u.msg) with
    | none =>
      rw [pipelineGetById_none found]
      change Safe _ (t.pipelineCreateFromNlmsg u >>= fun made => made.2.pipelineAdd made.1 >>= fun t => t.pipelinePut made.1)
      rw [safe_bind_iff]
      refine (sound.pipelineCreateFromNlmsg u).mono fun made _ ⟨sound₁, due₁⟩ => ?_
      obtain ⟨t₂, added, sound₂, due₂⟩ := sound₁.pipelineAdd (sound₁.alive List.mem_cons_self)
      obtain ⟨t₃, put, sound₃, due₃, -⟩ := sound₂.pipelinePut
      rw [added]
      change Safe _ (t₂.pipelinePut made.1)
      rw [put]
      exact .of_due sound₃ (by rw [due₃, due₂, due₁, due_back]) settles
    | some p =>
      obtain ⟨t₁, got, sound₁, due₁, -⟩ := sound.pipelineGetById found
      obtain ⟨t₂, put, sound₂, due₂, -⟩ := sound₁.pipelinePut
      rw [got]
      change Safe _ (t₁.pipelinePut p)
      rw [put]
      exact .of_due sound₂ (by rw [due₂, due₁, due_back]) settles
  · have settles : Settles t u := fun set => absurd (del.symm.trans set) types.2
    cases found : t.pipelineById (Tables.nlhToId u.msg) with
    | none =>
      rw [pipelineGetById_none found]
      exact Handled.of_due sound rfl settles
    | some p =>
      obtain ⟨t₁, got, sound₁, due₁, same₁⟩ := sound.pipelineGetById found
      obtain ⟨t₂, deleted, sound₂, due₂⟩ := sound₁.pipelineDel (p := p) (by
        rw [same₁.pipelines]
        exact pipelineById_mem found)
      obtain ⟨t₃, put, sound₃, due₃, -⟩ := sound₂.pipelinePut
      rw [got]
      change Safe _ (t₁.pipelineDel p >>= fun t => t.pipelinePut p)
      rw [deleted]
      change Safe _ (t₂.pipelinePut p)
      rw [put]
      exact .of_due sound₃ (by rw [due₃, due₂, due₁, due_back]) settles
  · cases found : t.pipelineById (Tables.nlhToId u.msg) with
    | none =>
      rw [pipelineGetById_none found]
      exact Handled.of_due sound rfl fun _ p other => by rw [found] at other; cases other
    | some p =>
      obtain ⟨t₁, got, sound₁, due₁, same₁⟩ := sound.pipelineGetById found
      obtain ⟨t₂, updated, sound₂, more, exact₂⟩ := sound₁.pipelineUpdateFromNlmsg p u.msg
      obtain ⟨t₃, put, sound₃, due₃, -⟩ := sound₂.pipelinePut
      rw [got]
      change Safe _ (t₁.pipelineUpdateFromNlmsg p u.msg >>= fun t => t.pipelinePut p)
      rw [updated]
      change Safe _ (t₂.pipelinePut p)
      rw [put]
      have shift (o : Obj) : t₃.refs.due o - t.refs.due o = t₂.refs.due o - t₁.refs.due o := by
        rw [due₃, due₁]
        by_cases here : o = .pipeline p
        · subst here
          simp only [Function.update_self]
          omega
        · simp only [Function.update_of_ne here]
      refine ⟨sound₃, fun o => ?_, ?_⟩
      · have := more o
        have := shift o
        omega
      · have settles : Settles t u ↔ Consistent t p 0 u.msg.attrs := by
          constructor
          · exact fun settles => settles set p found
          · intro consistent _ q same
            rw [found] at same
            cases same
            exact consistent
        rw [settles, ← consistent_congr_iff same₁.chans same₁.chan (congrArg Pipeline.chans (congrFun same₁.pipeline p)),
          ← exact₂]
        constructor
        · intro equal
          funext o
          have := shift o
          rw [equal] at this
          omega
        · intro equal
          funext o
          have := shift o
          rw [equal] at this
          omega
  · exact Handled.of_due sound rfl fun same => absurd same set

theorem Sound.chanAdd (sound : Sound mine t) (alive : 0 < t.refs.refcnt (.chan c)) :
    ∃ t', t.chanAdd c = .ok t' ∧ Sound mine t' ∧ t'.refs.due = t.refs.due := by
  obtain ⟨t₁, kept, sound₁, due, -⟩ := sound.keep alive
  refine ⟨{ t₁ with chans := c :: t₁.chans }, ?_, sound₁.listed, due⟩
  rw [Topology.chanAdd, kept]
  rfl

/-- `ks_chan_handle_topology_update` -/
theorem Sound.chanHandle (sound : Sound mine t) (u : Update) :
    Safe (fun t' => Sound mine t' ∧ t'.refs.due = t.refs.due) (t.chanHandle u) := by
  unfold Topology.chanHandle
  split_ifs with new memory del set
  · cases Features.chanCreateFromNlmsg u.nodes u.features u.msg with
    | none => rfl
    | some chan =>
      have sound₁ := sound.chanAlloc { toChan := chan }
      obtain ⟨t₂, added, sound₂, due₂⟩ := sound₁.chanAdd (sound₁.alive List.mem_cons_self)
      obtain ⟨t₃, put, sound₃, due₃, -⟩ := sound₂.put
      change Safe _ (Topology.chanAdd
        { t with
          refs := t.refs.alloc (.chan t.next)
          chan := Function.update t.chan t.next { toChan := chan }
          next := t.next + 1 } t.next >>= fun t' => t'.put (.chan t.next))
      rw [added]
      change Safe _ (t₂.put (.chan t.next))
      rw [put]
      refine ⟨sound₃, ?_⟩
      rw [due₃, due₂]
      exact due_back _ _
  · rfl
  · cases found : t.chanById (Tables.nlhToId u.msg) with
    | none =>
      rw [chanGetById_none found]
      exact ⟨sound, rfl⟩
    | some c =>
      obtain ⟨t₁, got, sound₁, due₁, same₁⟩ := sound.chanGetById found
      have there : c ∈ t₁.chans := by
        rw [same₁.chans]
        exact List.mem_of_find?_eq_some found
      obtain ⟨t₂, dropped, sound₂, due₂, -⟩ := (sound₁.unlisted there).drop
      obtain ⟨t₃, put, sound₃, due₃, -⟩ := sound₂.put
      rw [got]
      change Safe _ (Topology.drop { t₁ with chans := t₁.chans.erase c } (.chan c) >>= fun t => t.put (.chan c))
      rw [dropped]
      change Safe _ (t₂.put (.chan c))
      rw [put]
      refine ⟨sound₃, ?_⟩
      rw [due₃, due₂]
      change Function.update t₁.refs.due _ (t₁.refs.due _ - 1) = _
      rw [due₁, due_back]
  · cases found : t.chanById (Tables.nlhToId u.msg) with
    | none =>
      rw [chanGetById_none found]
      exact ⟨sound, rfl⟩
    | some c =>
      obtain ⟨t₁, got, sound₁, due₁, -⟩ := sound.chanGetById found
      rw [got]
      change Safe _ (match Features.chanUpdateFromNlmsg (t₁.chan c).toChan u.msg with
        | none | some (_, true) => _
        | some (chan, false) => _)
      split
      · rfl
      · rfl
      · obtain ⟨t₂, put, sound₂, due₂, -⟩ := (sound₁.setChan c _).put
        rw [put]
        refine ⟨sound₂, ?_⟩
        rw [due₂]
        change Function.update t₁.refs.due _ (t₁.refs.due _ - 1) = _
        rw [due₁, due_back]
  · exact ⟨sound, rfl⟩

/-- The protocol thread keeps the references counted. -/
theorem Sound.topologyUpdate (sound : Sound mine t) (u : Update) : Safe (Sound mine) (t.topologyUpdate u) := by
  unfold Topology.topologyUpdate
  split_ifs
  · exact (sound.chanHandle u).mono fun _ _ handled => handled.1
  · exact (sound.pipelineHandle u).mono fun _ _ handled => handled.sound
  · exact sound

/-- The references of the table of pipelines are put. -/
theorem Sound.pipelineFlush (sound : Sound mine t) :
    ∃ t', t.pipelineFlush = .ok t' ∧ Sound mine t' ∧ t'.refs.due = t.refs.due := by
  unfold Topology.pipelineFlush
  have all (entries : List (Nat × Nat)) : ∀ {t : Topology}, Sound mine t → t.pipelines = entries →
      ∃ t', entries.foldlM (fun t entry => { t with pipelines := t.pipelines.erase entry }.pipelineDrop entry.2) t = .ok t' ∧
        Sound mine t' ∧ t'.refs.due = t.refs.due := by
    induction entries with
    | nil => exact fun sound _ => ⟨_, rfl, sound, rfl⟩
    | cons entry entries ih =>
      intro t sound listed
      have out : t.pipelines.erase entry = entries := by rw [listed, List.erase_cons_head]
      have sound₁ := sound.pipelineUnlisted (p := entry.2) (t.pipelines.erase entry) (by rw [out, listed]; rfl)
      obtain ⟨t₂, dropped, sound₂, due, same⟩ := sound₁.pipelineDrop
      obtain ⟨t', rest, sound', due'⟩ := ih sound₂ (same.pipelines.trans out)
      refine ⟨t', ?_, sound', due'.trans due⟩
      rw [List.foldlM_cons, dropped]
      exact rest
  exact all _ sound rfl

/-- The references of the table of channels are put. -/
theorem Sound.chanFlush (sound : Sound mine t) :
    ∃ t', t.chanFlush = .ok t' ∧ Sound mine t' ∧ t'.refs.due = t.refs.due := by
  unfold Topology.chanFlush
  have all (cs : List Nat) : ∀ {t : Topology}, Sound mine t → t.chans = cs →
      ∃ t', cs.foldlM (fun t c => { t with chans := t.chans.erase c }.drop (.chan c)) t = .ok t' ∧
        Sound mine t' ∧ t'.refs.due = t.refs.due := by
    induction cs with
    | nil => exact fun sound _ => ⟨_, rfl, sound, rfl⟩
    | cons c cs ih =>
      intro t sound listed
      have out : t.chans.erase c = cs := by rw [listed, List.erase_cons_head]
      obtain ⟨t₂, dropped, sound₂, due, same⟩ := (sound.unlisted (c := c) (by rw [listed]; exact List.mem_cons_self)).drop
      obtain ⟨t', rest, sound', due'⟩ := ih sound₂ (same.chans.trans out)
      refine ⟨t', ?_, sound', due'.trans due⟩
      rw [List.foldlM_cons, dropped]
      exact rest
  exact all _ sound rfl

end Rules

end Topology

end Vstuff.Libkstreamer.Balance
