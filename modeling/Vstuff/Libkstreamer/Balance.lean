import Vstuff.Libkstreamer.References

/-! The references to requests, channels and pipelines that the calls of the library
take and put back, for whatever the kernel answers and however they leave. -/
namespace Vstuff.Libkstreamer.Balance
open RefCount Transition Kstreamer
set_option linter.all false

/-! ## The calls -/

/-- The requests of the callers. -/
structure Reqs where
  refs : Refs Nat
  next : Nat := 0

/-- What the calls change. -/
structure State where
  reqs : Reqs
  topology : Topology

/-- A topology in which each reference is counted. -/
structure Library (mine : List Obj) extends Topology where
  sound : toTopology.Sound mine

/-- How a request is answered: `left` is how many references the connection and the timer of the request
still have when the caller goes on, and the other threads leave the topology with each reference
counted, those of the caller too. -/
structure Answer (mine : List Obj) where
  err : Int
  left : Nat
  payload : List Update
  topology : Library mine

/-- How a request fares: whether there is memory for it and for its buffer, and the answer. -/
structure Outcome (mine : List Obj) where
  memory : Bool
  skb : Bool := true
  answer : Answer mine

/-- How the requests of `ks_update_topology` fare; `unlocked` is about the one on the way out. -/
structure Outcomes where
  lock : Outcome []
  feature : Outcome []
  node : Outcome []
  chan : Outcome []
  pipeline : Outcome []
  unlock : Outcome []
  unlocked : Outcome []

variable {mine : List Obj}

namespace State

/-- `ks_req_alloc` -/
def reqAlloc (s : State) : Nat × State :=
  (s.reqs.next, { s with reqs := { refs := s.reqs.refs.alloc s.reqs.next, next := s.reqs.next + 1 } })

/-- `ks_req_put` -/
def reqPut (s : State) (req : Nat) : Except Fault State := do
  let refs ← s.reqs.refs.put req
  .ok { s with reqs := { s.reqs with refs } }

/-- `ks_conn_queue_request` -/
def queueRequest (s : State) (req : Nat) : Except Fault State := do
  let refs ← s.reqs.refs.keep req
  .ok { s with reqs := { s.reqs with refs } }

/-- The topology that other threads leave; what they take and put is not the caller's. -/
def resumed (s : State) (answer : Answer mine) : Topology :=
  { answer.topology.toTopology with refs := { answer.topology.refs with due := s.topology.refs.due } }

/-- `ks_req_wait`: meanwhile the connection puts the reference it has queued, and others have their turn. -/
def reqWait (s : State) (req : Nat) (answer : Answer mine) : State where
  reqs := { s.reqs with
    refs := { s.reqs.refs with
      refcnt := Function.update s.reqs.refs.refcnt req (s.reqs.refs.refcnt req - 1 + answer.left) } }
  topology := s.resumed answer

/-- `ks_conn_remote_topology_lock` and `ks_conn_remote_topology_unlock` -/
def remoteTopology (s : State) (o : Outcome mine) : Except Fault (Int × State) :=
  if ¬o.memory then .ok (-ENOMEM, s)
  else do
    let (req, s) := s.reqAlloc
    let s ← s.queueRequest req
    let s := s.reqWait req o.answer
    if o.answer.err < 0 then do
      let s ← s.reqPut req
      .ok (o.answer.err, s)
    else do
      let s ← s.reqPut req
      .ok (0, s)

/-- The room that is left behind attributes, if `ks_netlink_put_attr` finds it for each. -/
def putAttrs (tailroom : Nat) (lens : List Nat) : Option Nat :=
  lens.foldlM (fun room len => if room < align (4 + len) then none else some (room - align (4 + len))) tailroom

/-- What `ks_pipeline_update`, `ks_pipeline_destroy` and `ks_chan_update` do: a request with attributes of
some lengths. -/
def request (s : State) (lens : List Nat) (o : Outcome mine) : Except Fault (Int × State) :=
  if ¬o.memory then .ok (-ENOMEM, s)
  else do
    let (req, s) := s.reqAlloc
    if ¬o.skb then do
      let s ← s.reqPut req
      .ok (-ENOMEM, s)
    else if (putAttrs 4096 lens).isNone then do
      let s ← s.reqPut req
      .ok (-ENOBUFS, s)
    else do
      let s ← s.queueRequest req
      let s := s.reqWait req o.answer
      if o.answer.err < 0 then do
        let s ← s.reqPut req
        -- err_skb_alloc
        let s ← s.reqPut req
        .ok (o.answer.err, s)
      else do
        let s ← s.reqPut req
        .ok (0, s)

/-- `ks_pipeline_update` -/
def pipelineUpdate (s : State) (o : Outcome mine) : Except Fault (Int × State) := s.request [4, 4] o

/-- `ks_pipeline_destroy` -/
def pipelineDestroy (s : State) (o : Outcome mine) : Except Fault (Int × State) := s.request [4] o

/-- `ks_chan_update` -/
def chanUpdate (s : State) (c : Nat) (o : Outcome mine) : Except Fault (Int × State) :=
  s.request (4 :: (s.topology.chan c).features.map Features.FeatureValue.len) o

/-- `ks_pipeline_create`; a response that is not there is a null pointer. -/
def pipelineCreate (s : State) (p : Nat) (o : Outcome mine) : Except Fault (Int × State) :=
  if ¬o.memory then .ok (-ENOMEM, s)
  else do
    let (req, s) := s.reqAlloc
    if ¬o.skb then do
      let s ← s.reqPut req
      .ok (-ENOMEM, s)
    else if (putAttrs 4096 (4 :: (s.topology.pipeline p).chans.map fun _ => 4)).isNone then do
      let s ← s.reqPut req
      .ok (-ENOBUFS, s)
    else do
      let s ← s.queueRequest req
      let s := s.reqWait req o.answer
      if o.answer.err < 0 then do
        let s ← s.reqPut req
        .ok (o.answer.err, s)
      else
        match o.answer.payload with
        | [] => .error .stopped
        | u :: _ => do
          let topology ← s.topology.pipelineUpdateFromNlmsg p u.msg
          let topology ← topology.pipelineAdd p
          let s ← { s with topology }.reqPut req
          .ok (0, s)

/-- The labels at the end of `ks_update_topology`, from the first request that is put on. -/
def unwind (s : State) (reqs : List Nat) (err : Int) (unlocked : Outcome []) : Except Fault (Int × State) := do
  let s ← reqs.foldlM reqPut s
  let (_, s) ← s.remoteTopology unlocked
  .ok (err, s)

/-- From "Wait and process pipelines" on; `all` are the requests that the last label starts with. -/
def processPipelines (s : State) (o : Outcomes) (all : List Nat) (pipeline : Nat) : Except Fault (Int × State) := do
  let s := s.reqWait pipeline o.pipeline.answer
  if o.pipeline.answer.err < 0 then do
    let s ← s.reqPut pipeline
    s.unwind all o.pipeline.answer.err o.unlocked
  else do
    let topology ← o.pipeline.answer.payload.foldlM Topology.pipelineHandle s.topology
    let s ← { s with topology }.reqPut pipeline
    let (err, s) ← s.remoteTopology o.unlock
    if err < 0 then s.unwind all err o.unlocked else .ok (0, s)

/-- From "Wait and process channels" on. -/
def processChans (s : State) (o : Outcomes) (all : List Nat) (chan pipeline : Nat) : Except Fault (Int × State) := do
  let s := s.reqWait chan o.chan.answer
  if o.chan.answer.err < 0 then do
    let s ← s.reqPut chan
    s.unwind all o.chan.answer.err o.unlocked
  else do
    let topology ← o.chan.answer.payload.foldlM Topology.chanHandle s.topology
    let s ← { s with topology }.reqPut chan
    s.processPipelines o all pipeline

/-- From "Wait and process features" on; what is counted is not changed by features and nodes. -/
def process (s : State) (o : Outcomes) (feature node chan pipeline : Nat) : Except Fault (Int × State) := do
  let all := [pipeline, chan, node, feature]
  let s := s.reqWait feature o.feature.answer
  let s ← s.reqPut feature
  if o.feature.answer.err < 0 then s.unwind all o.feature.answer.err o.unlocked
  else do
    let s := s.reqWait node o.node.answer
    let s ← s.reqPut node
    if o.node.answer.err < 0 then s.unwind all o.node.answer.err o.unlocked
    else s.processChans o all chan pipeline

/-- The four requests of `ks_update_topology`. -/
def queueAll (s : State) (o : Outcomes) : Except Fault (Int × State) :=
  if ¬o.feature.memory then s.unwind [] (-ENOMEM) o.unlocked
  else do
    let (feature, s) := s.reqAlloc
    let s ← s.queueRequest feature
    if ¬o.node.memory then s.unwind [feature] (-ENOMEM) o.unlocked
    else do
      let (node, s) := s.reqAlloc
      let s ← s.queueRequest node
      if ¬o.chan.memory then s.unwind [node, feature] (-ENOMEM) o.unlocked
      else do
        let (chan, s) := s.reqAlloc
        let s ← s.queueRequest chan
        if ¬o.pipeline.memory then s.unwind [chan, node, feature] (-ENOMEM) o.unlocked
        else do
          let (pipeline, s) := s.reqAlloc
          let s ← s.queueRequest pipeline
          s.process o feature node chan pipeline

/-- `ks_update_topology` -/
def updateTopology (s : State) (o : Outcomes) : Except Fault (Int × State) := do
  let (err, s) ← s.remoteTopology o.lock
  if err < 0 then .ok (err, s)
  else do
    let topology ← s.topology.pipelineFlush
    let topology ← topology.chanFlush
    { s with topology }.queueAll o

end State

/-- What the call has taken is put back when it returns. -/
def Returned (s₀ : State) (returned : Int × State) : Prop :=
  returned.2.reqs.refs.due = s₀.reqs.refs.due ∧ returned.2.topology.refs.due = s₀.topology.refs.due

/-! ## The requests of a call -/

/-- The call has taken two lists of requests and nothing else: those that are queued, and those that
have been answered. -/
structure Has (s₀ s : State) (queued answered : List Nat) : Prop where
  twice : ∀ r ∈ queued, 2 ≤ s.reqs.refs.refcnt r
  once : ∀ r ∈ answered, 1 ≤ s.reqs.refs.refcnt r
  below : ∀ r ∈ queued ++ answered, r < s.reqs.next
  nodup : (queued ++ answered).Nodup
  due : ∀ r, s.reqs.refs.due r = s₀.reqs.refs.due r + (queued ++ answered).count r
  topology : s.topology.refs.due = s₀.topology.refs.due

section Requests
variable {s₀ s : State} {queued answered : List Nat} {req : Nat}

theorem Has.start (s : State) : Has s s [] [] := ⟨by simp, by simp, by simp, List.nodup_nil, by simp, rfl⟩

theorem reqPut_eq (alive : 0 < s.reqs.refs.refcnt req) :
    s.reqPut req = .ok { s with
      reqs := { s.reqs with
        refs := {
          refcnt := Function.update s.reqs.refs.refcnt req (s.reqs.refs.refcnt req - 1)
          due := Function.update s.reqs.refs.due req (s.reqs.refs.due req - 1) } } } := by
  rw [State.reqPut, Refs.put_eq alive]
  rfl

/-- A new request. -/
theorem Has.reqAlloc (has : Has s₀ s queued answered) :
    ∃ s', s.reqAlloc = (s.reqs.next, s') ∧ s'.topology = s.topology ∧ Has s₀ s' queued (answered ++ [s.reqs.next]) := by
  refine ⟨_, rfl, rfl, ?_⟩
  have fresh {r : Nat} (member : r ∈ queued ++ answered) : r ≠ s.reqs.next := (has.below r member).ne
  refine ⟨fun r member => ?_, fun r member => ?_, fun r member => ?_, ?_, fun r => ?_, has.topology⟩
  · simp only [Refs.alloc, Function.update_of_ne (fresh (List.mem_append_left _ member))]
    exact has.twice r member
  · rcases List.mem_append.mp member with before | new
    · simp only [Refs.alloc, Function.update_of_ne (fresh (List.mem_append_right _ before))]
      exact has.once r before
    · rw [List.mem_singleton.mp new]
      simp [Refs.alloc]
  · rw [← List.append_assoc] at member
    rcases List.mem_append.mp member with before | new
    · exact Nat.lt_succ_of_lt (has.below r before)
    · rw [List.mem_singleton.mp new]
      exact Nat.lt_succ_self _
  · rw [← List.append_assoc]
    refine List.nodup_append.mpr ⟨has.nodup, List.nodup_singleton _, fun r member o new => ?_⟩
    rw [List.mem_singleton.mp new]
    exact fresh member
  · rw [← List.append_assoc, List.count_append]
    by_cases here : r = s.reqs.next
    · subst here
      simp only [Refs.alloc, Function.update_self, List.count_singleton_self]
      have := has.due s.reqs.next
      omega
    · simp only [Refs.alloc, Function.update_of_ne here]
      rw [has.due r, List.count_eq_zero_of_not_mem (l := [s.reqs.next]) (by simpa using here), Nat.add_zero]

/-- A new request that is queued. -/
theorem Has.queueRequest (has : Has s₀ s queued []) :
    ∃ s', (s.reqAlloc).2.queueRequest s.reqs.next = .ok s' ∧ s'.topology = s.topology ∧ Has s₀ s' (queued ++ [s.reqs.next]) [] := by
  obtain ⟨s₁, alloc, same, has₁⟩ := has.reqAlloc
  have one : s₁.reqs.refs.refcnt s.reqs.next = 1 := by
    have := (Prod.mk.inj alloc).2
    rw [← this]
    simp [Refs.alloc]
  rw [alloc]
  refine ⟨{ s₁ with reqs := { s₁.reqs with refs := { s₁.reqs.refs with
    refcnt := Function.update s₁.reqs.refs.refcnt s.reqs.next (s₁.reqs.refs.refcnt s.reqs.next + 1) } } }, ?_, same, ?_⟩
  · have alive : 0 < s₁.reqs.refs.refcnt s.reqs.next := by omega
    rw [State.queueRequest, Refs.keep_eq alive]
    rfl
  · refine ⟨fun r member => ?_, by simp, ?_, ?_, ?_, has₁.topology⟩
    · rcases List.mem_append.mp member with before | new
      · have old := has₁.twice r before
        have other : r ≠ s.reqs.next := (has.below r (List.mem_append_left _ before)).ne
        simp only [Function.update_of_ne other]
        exact old
      · rw [List.mem_singleton.mp new]
        simp only [Function.update_self]
        omega
    · simpa using has₁.below
    · simpa using has₁.nodup
    · simpa using has₁.due

/-- The first request of those that are queued is answered. -/
theorem Has.reqWait (has : Has s₀ s (req :: queued) answered) (answer : Answer mine) :
    Has s₀ (s.reqWait req answer) queued (req :: answered) := by
  have two := has.twice req List.mem_cons_self
  have perm : (queued ++ req :: answered).Perm (req :: queued ++ answered) := List.perm_middle
  have nodup := has.nodup
  rw [List.cons_append, List.nodup_cons] at nodup
  refine ⟨fun r member => ?_, fun r member => ?_, fun r member => ?_, ?_, fun r => ?_, has.topology⟩
  · have other : r ≠ req := fun same => nodup.1 (same ▸ List.mem_append_left _ member)
    simp only [State.reqWait, Function.update_of_ne other]
    exact has.twice r (List.mem_cons_of_mem _ member)
  · rcases List.mem_cons.mp member with rfl | member
    · simp only [State.reqWait, Function.update_self]
      omega
    · have other : r ≠ req := fun same => nodup.1 (same ▸ List.mem_append_right _ member)
      simp only [State.reqWait, Function.update_of_ne other]
      exact has.once r member
  · exact has.below r (perm.mem_iff.mp member)
  · exact perm.nodup_iff.mpr has.nodup
  · rw [perm.count_eq]
    exact has.due r

/-- A request that is answered is put. -/
theorem Has.reqPut (has : Has s₀ s queued (req :: answered)) :
    ∃ s', s.reqPut req = .ok s' ∧ s'.topology = s.topology ∧ Has s₀ s' queued answered := by
  have perm : (queued ++ req :: answered).Perm (req :: (queued ++ answered)) := List.perm_middle
  have nodup := perm.nodup_iff.mp has.nodup
  rw [List.nodup_cons] at nodup
  refine ⟨_, reqPut_eq (has.once req List.mem_cons_self), rfl, ?_⟩
  refine ⟨fun r member => ?_, fun r member => ?_, fun r member => ?_, nodup.2, fun r => ?_, has.topology⟩
  · have other : r ≠ req := fun same => nodup.1 (same ▸ List.mem_append_left _ member)
    simp only [Function.update_of_ne other]
    exact has.twice r member
  · have other : r ≠ req := fun same => nodup.1 (same ▸ List.mem_append_right _ member)
    simp only [Function.update_of_ne other]
    exact has.once r (List.mem_cons_of_mem _ member)
  · exact has.below r (perm.mem_iff.mpr (List.mem_cons_of_mem _ member))
  · have due := has.due r
    rw [perm.count_eq] at due
    by_cases here : r = req
    · subst here
      rw [List.count_cons_self] at due
      simp only [Function.update_self]
      omega
    · rw [List.count_cons_of_ne (Ne.symm here)] at due
      simp only [Function.update_of_ne here]
      exact due

/-- Other threads and the handlers of messages change the topology, not the requests. -/
theorem Has.withTopology (has : Has s₀ s queued answered) {topology : Topology}
    (due : topology.refs.due = s₀.topology.refs.due) : Has s₀ { s with topology } queued answered :=
  ⟨has.twice, has.once, has.below, has.nodup, has.due, due⟩

/-- The lock of the topology in the kernel is asked for or given back: the request is put in any case. -/
theorem Has.remoteTopology (has : Has s₀ s queued []) (o : Outcome mine) :
    ∃ err s', s.remoteTopology o = .ok (err, s') ∧ Has s₀ s' queued [] ∧ (0 ≤ err ↔ o.memory ∧ 0 ≤ o.answer.err) ∧
      (s.topology.Sound [] → s'.topology.Sound []) := by
  by_cases memory : o.memory
  swap
  · refine ⟨-ENOMEM, s, if_pos memory, has, ?_, id⟩
    exact iff_of_false (by decide) fun both => memory both.1
  obtain ⟨s₂, queue, -, has₂⟩ := has.queueRequest
  -- the new request is the last one that is queued, and the first to be answered
  have rotated : Has s₀ s₂ (s.reqs.next :: queued) [] := by
    have perm : (queued ++ [s.reqs.next]).Perm (s.reqs.next :: queued) := List.perm_append_singleton _ _
    refine ⟨fun r member => has₂.twice r (perm.mem_iff.mpr member), by simp, fun r member => ?_, ?_, fun r => ?_, has₂.topology⟩
    · rw [List.append_nil] at member
      exact has₂.below r (by simpa using perm.mem_iff.mpr member)
    · rw [List.append_nil, ← perm.nodup_iff]
      simpa using has₂.nodup
    · rw [List.append_nil, ← perm.count_eq]
      simpa using has₂.due r
  obtain ⟨s₃, put, same, has₃⟩ := (rotated.reqWait o.answer).reqPut
  have sound : s₃.topology.Sound [] := by
    rw [same]
    refine Topology.Sound.of_eq (t := o.answer.topology.toTopology) ?_ rfl (fun _ => rfl) rfl rfl rfl
    exact o.answer.topology.sound.shared
  refine ⟨if o.answer.err < 0 then o.answer.err else 0, s₃, ?_, has₃, ?_, fun _ => sound⟩
  · have run : s.remoteTopology o = if o.answer.err < 0 then
        (s₂.reqWait s.reqs.next o.answer).reqPut s.reqs.next >>= fun s => .ok (o.answer.err, s)
      else (s₂.reqWait s.reqs.next o.answer).reqPut s.reqs.next >>= fun s => .ok (0, s) := by
      rw [State.remoteTopology, if_neg (not_not.mpr memory)]
      change ((s.reqAlloc).2.queueRequest s.reqs.next >>= fun s' => _) = _
      rw [queue]
      rfl
    rw [run, put]
    split_ifs
    · rfl
    · rfl
  · rw [and_iff_right memory]
    split_ifs with refused
    · exact Iff.rfl
    · exact iff_of_true (Int.le_refl 0) (by omega)

theorem Has.returned_iff (has : Has s₀ s queued answered) (err : Int) :
    Returned s₀ (err, s) ↔ queued ++ answered = [] := by
  constructor
  · rintro ⟨due, -⟩
    refine List.eq_nil_iff_forall_not_mem.mpr fun r member => ?_
    have more := has.due r
    have counted := List.count_pos_iff.mpr member
    rw [due] at more
    omega
  · intro nothing
    refine ⟨?_, has.topology⟩
    funext r
    rw [has.due r, nothing]
    simp

/-- The way out, when each request is at hand once. -/
theorem Has.unwind (reqs : List Nat) : ∀ {s : State} {queued : List Nat}, Has s₀ s queued [] → queued.Perm reqs →
    ∀ (err : Int) (o : Outcome []), Safe (Returned s₀) (s.unwind reqs err o) := by
  induction reqs with
  | nil =>
    intro s queued has perm err o
    obtain ⟨err', s', run, has', -⟩ := has.remoteTopology o
    rw [State.unwind, List.foldlM_nil]
    change Safe _ (s.remoteTopology o >>= fun returned => .ok (err, returned.2))
    rw [run]
    exact (has'.returned_iff err).mpr (by rw [perm.eq_nil]; rfl)
  | cons req reqs ih =>
    intro s queued has perm err o
    have one : Has s₀ s reqs [req] := by
      have all : (reqs ++ [req]).Perm (queued ++ []) := by
        rw [List.append_nil]
        exact (List.perm_append_singleton _ _).trans perm.symm
      refine ⟨fun r member => has.twice r (perm.mem_iff.mpr (List.mem_cons_of_mem _ member)), fun r member => ?_,
        fun r member => has.below r (all.mem_iff.mp member), all.nodup_iff.mpr has.nodup, fun r => ?_, has.topology⟩
      · rw [List.mem_singleton.mp member]
        have := has.twice req (perm.mem_iff.mpr List.mem_cons_self)
        omega
      · rw [all.count_eq]
        exact has.due r
    obtain ⟨s', put, -, has'⟩ := one.reqPut
    have step : s.unwind (req :: reqs) err o = s'.unwind reqs err o := by
      rw [State.unwind, List.foldlM_cons, put]
      rfl
    rw [step]
    exact ih has' (.refl _) err o

/-- Puts that come to an end have each been counted, and those that do not have met an object that is
gone. -/
theorem reqPuts_due (reqs : List Nat) : ∀ s : State,
    match reqs.foldlM State.reqPut s with
    | .ok s' => (∀ r, s'.reqs.refs.due r = s.reqs.refs.due r - reqs.count r) ∧ s'.topology = s.topology
    | .error fault => fault = .put := by
  induction reqs with
  | nil => exact fun s => ⟨fun r => by simp, rfl⟩
  | cons req reqs ih =>
    intro s
    rw [List.foldlM_cons]
    by_cases gone : s.reqs.refs.refcnt req = 0
    · rw [State.reqPut, Refs.put_gone gone]
      rfl
    · rw [reqPut_eq (Nat.pos_of_ne_zero gone)]
      have rest := ih { s with
        reqs := { s.reqs with
          refs := {
            refcnt := Function.update s.reqs.refs.refcnt req (s.reqs.refs.refcnt req - 1)
            due := Function.update s.reqs.refs.due req (s.reqs.refs.due req - 1) } } }
      change match List.foldlM State.reqPut _ reqs with
        | .ok s' => _
        | .error fault => _
      split at rest
      · rename_i s' done
        rw [done]
        refine ⟨fun r => ?_, rest.2⟩
        rw [rest.1 r]
        by_cases here : r = req
        · subst here
          simp only [Function.update_self, List.count_cons_self]
          omega
        · simp only [Function.update_of_ne here, List.count_cons_of_ne (Ne.symm here)]
      · rename_i fault failed
        rw [failed]
        exact rest

/-- The way out, when one of the requests has been put before. -/
theorem Has.unwind_again (has : Has s₀ s queued answered) {reqs : List Nat} (again : req ∈ reqs)
    (before : req ∉ queued ++ answered) (err : Int) (o : Outcome []) :
    ¬Safe (fun returned => returned.2.reqs.refs.due = s₀.reqs.refs.due) (s.unwind reqs err o) := by
  have puts := reqPuts_due reqs s
  rw [State.unwind]
  cases done : reqs.foldlM State.reqPut s with
  | error fault =>
    rw [done] at puts
    intro safe
    change fault = .stopped at safe
    rw [safe] at puts
    cases puts
  | ok s' =>
    rw [done] at puts
    obtain ⟨due, same⟩ := puts
    have low : s'.reqs.refs.due req < s₀.reqs.refs.due req := by
      have counted := List.count_pos_iff.mpr again
      rw [due req, has.due req, List.count_eq_zero_of_not_mem before]
      omega
    -- as seen from the state in which the way out leaves the requests, the last call keeps the balance
    obtain ⟨err', s'', run, has'', -⟩ := (Has.start s').remoteTopology o
    have kept := ((has''.returned_iff err).mpr rfl).1
    intro safe
    change Safe _ (s'.remoteTopology o >>= fun returned => .ok (err, returned.2)) at safe
    rw [run] at safe
    have back := congrFun safe req
    change s''.reqs.refs.due req = s₀.reqs.refs.due req at back
    rw [kept] at back
    change s'.reqs.refs.due req = s₀.reqs.refs.due req at back
    omega

/-- A request that has been put before. -/
theorem Has.reqPut_again (has : Has s₀ s queued answered) (before : req ∉ queued ++ answered) (err : Int) :
    ¬Safe (Returned s₀) (s.reqPut req >>= fun s => .ok (err, s)) := by
  have puts := reqPuts_due [req] s
  rw [List.foldlM_cons] at puts
  cases done : s.reqPut req with
  | error fault =>
    rw [done] at puts
    intro safe
    change fault = .stopped at safe
    rw [safe] at puts
    cases puts
  | ok s' =>
    rw [done] at puts
    intro safe
    have back := congrFun safe.1 req
    have due := puts.1 req
    change s'.reqs.refs.due req = s₀.reqs.refs.due req at back
    rw [back, has.due req, List.count_eq_zero_of_not_mem before, List.count_singleton_self] at due
    omega

end Requests

/-! ## Each call -/

section Calls
variable {s : State}

/-- The request is sent, and answered with an error. -/
def Refused (lens : List Nat) (o : Outcome mine) : Prop :=
  o.memory ∧ o.skb ∧ (State.putAttrs 4096 lens).isSome ∧ o.answer.err < 0

/-- A call that only sends a request puts it once, unless it is refused. -/
theorem request_iff (lens : List Nat) (o : Outcome mine) : Safe (Returned s) (s.request lens o) ↔ ¬Refused lens o := by
  unfold State.request
  by_cases memory : o.memory
  swap
  · rw [if_pos memory]
    exact iff_of_true (((Has.start s).returned_iff _).mpr rfl) fun refused => memory refused.1
  rw [if_neg (not_not.mpr memory)]
  obtain ⟨s₁, alloc, -, has₁⟩ := (Has.start s).reqAlloc
  obtain ⟨s₂, put, -, has₂⟩ := has₁.reqPut
  have left (err : Int) : Safe (Returned s) (s₁.reqPut s.reqs.next >>= fun s => .ok (err, s)) := by
    rw [put]
    exact (has₂.returned_iff err).mpr rfl
  by_cases skb : o.skb
  swap
  · rw [alloc]
    refine iff_of_true ?_ fun refused => skb refused.2.1
    simp only [skb, Bool.false_eq_true, not_false_eq_true, if_true]
    exact left _
  by_cases fits : (State.putAttrs 4096 lens).isSome
  swap
  · rw [alloc]
    refine iff_of_true ?_ fun refused => fits refused.2.2.1
    have none : (State.putAttrs 4096 lens).isNone := by simpa using fits
    simp only [skb, not_true_eq_false, none, if_true, if_false]
    exact left _
  have some : (State.putAttrs 4096 lens).isNone = false := by
    rw [Option.isNone_eq_false_iff]
    exact fits
  obtain ⟨s₃, queue, -, has₃⟩ := (Has.start s).queueRequest
  obtain ⟨s₄, put₄, -, has₄⟩ := (has₃.reqWait o.answer).reqPut
  simp only [skb, not_true_eq_false, some, Bool.false_eq_true, if_false]
  change Safe _ ((s.reqAlloc).2.queueRequest s.reqs.next >>= fun s' => _) ↔ _
  rw [queue]
  change Safe _ (if o.answer.err < 0 then
      (s₃.reqWait s.reqs.next o.answer).reqPut s.reqs.next >>= fun s' =>
        s'.reqPut s.reqs.next >>= fun s' => .ok (o.answer.err, s')
    else (s₃.reqWait s.reqs.next o.answer).reqPut s.reqs.next >>= fun s' => .ok (0, s')) ↔ _
  rw [put₄]
  split_ifs with refused
  · refine iff_of_false (has₄.reqPut_again (by simp) _) (not_not.mpr ⟨memory, skb, fits, refused⟩)
  · exact iff_of_true ((has₄.returned_iff 0).mpr rfl) fun both => refused both.2.2.2

/-- The request of a new pipeline is not sent or not answered well, or the channels of the response are
consistent with the pipeline. -/
def CreateReleases (s : State) (p : Nat) (o : Outcome mine) : Prop :=
  o.memory → o.skb → (State.putAttrs 4096 (4 :: (s.topology.pipeline p).chans.map fun _ => 4)).isSome → 0 ≤ o.answer.err →
    ∀ u ∈ o.answer.payload.head?, (s.resumed o.answer).Consistent p 0 u.msg.attrs

theorem pipelineCreate_iff (p : Nat) (o : Outcome [.pipeline p]) :
    Safe (Returned s) (s.pipelineCreate p o) ↔ CreateReleases s p o := by
  unfold State.pipelineCreate CreateReleases
  by_cases memory : o.memory
  swap
  · rw [if_pos memory]
    exact iff_of_true (((Has.start s).returned_iff _).mpr rfl) fun yes => absurd yes memory
  rw [if_neg (not_not.mpr memory)]
  obtain ⟨s₁, alloc, same₁, has₁⟩ := (Has.start s).reqAlloc
  obtain ⟨s₂, put, -, has₂⟩ := has₁.reqPut
  have left (err : Int) : Safe (Returned s) (s₁.reqPut s.reqs.next >>= fun s => .ok (err, s)) := by
    rw [put]
    exact (has₂.returned_iff err).mpr rfl
  by_cases skb : o.skb
  swap
  · rw [alloc]
    refine iff_of_true ?_ fun _ yes => absurd yes skb
    simp only [skb, Bool.false_eq_true, not_false_eq_true, if_true]
    exact left _
  by_cases fits : (State.putAttrs 4096 (4 :: (s.topology.pipeline p).chans.map fun _ => 4)).isSome
  swap
  · rw [alloc]
    refine iff_of_true ?_ fun _ _ yes => absurd yes fits
    have none : (State.putAttrs 4096 (4 :: (s₁.topology.pipeline p).chans.map fun _ => 4)).isNone := by
      rw [same₁]
      simpa using fits
    simp only [skb, not_true_eq_false, none, if_true, if_false]
    exact left _
  have some : ¬(State.putAttrs 4096 (4 :: (s.topology.pipeline p).chans.map fun _ => 4)).isNone := by
    rw [Bool.not_eq_true, Option.isNone_eq_false_iff]
    exact fits
  obtain ⟨s₃, queue, same₃, has₃⟩ := (Has.start s).queueRequest
  have waited := has₃.reqWait o.answer
  have resumed : (s₃.reqWait s.reqs.next o.answer).topology = s.resumed o.answer := by
    change s₃.resumed o.answer = _
    unfold State.resumed
    rw [same₃]
  change Safe _ (if ¬o.skb then _
    else if (State.putAttrs 4096 (4 :: (s.topology.pipeline p).chans.map fun _ => 4)).isNone then _
    else (s.reqAlloc).2.queueRequest s.reqs.next >>= fun s' => _) ↔ _
  rw [if_neg (not_not.mpr skb), if_neg some, queue]
  change Safe _ (if o.answer.err < 0 then
      (s₃.reqWait s.reqs.next o.answer).reqPut s.reqs.next >>= fun s' => .ok (o.answer.err, s')
    else match o.answer.payload with
      | [] => .error .stopped
      | u :: _ => (s₃.reqWait s.reqs.next o.answer).topology.pipelineUpdateFromNlmsg p u.msg >>= fun topology =>
        topology.pipelineAdd p >>= fun topology =>
          { s₃.reqWait s.reqs.next o.answer with topology }.reqPut s.reqs.next >>= fun s' => .ok (0, s')) ↔ _
  split_ifs with refused
  · obtain ⟨s₄, put₄, -, has₄⟩ := waited.reqPut
    rw [put₄]
    exact iff_of_true ((has₄.returned_iff _).mpr rfl) fun _ _ _ well => absurd refused (by omega)
  · cases o.answer.payload with
    | nil => exact iff_of_true rfl fun _ _ _ _ u none => by cases none
    | cons u rest =>
      have sound : (s.resumed o.answer).Sound [.pipeline p] :=
        Topology.Sound.of_eq o.answer.topology.sound rfl (fun _ => rfl) rfl rfl rfl
      obtain ⟨t₄, updated, sound₄, -, exact₄⟩ := sound.pipelineUpdateFromNlmsg p u.msg
      obtain ⟨t₅, added, -, due₅⟩ := sound₄.pipelineAdd (sound₄.alive List.mem_cons_self)
      have condition : (∀ v ∈ (u :: rest).head?, (s.resumed o.answer).Consistent p 0 v.msg.attrs) ↔
          t₄.refs.due = s.topology.refs.due := by
        rw [← show (s.resumed o.answer).refs.due = s.topology.refs.due from rfl, exact₄]
        simp
      have reqs : (s₃.reqWait s.reqs.next o.answer).reqs.refs.due s.reqs.next = s.reqs.refs.due s.reqs.next + 1 := by
        rw [waited.due]
        simp
      have alive : 0 < ({ s₃.reqWait s.reqs.next o.answer with topology := t₅ } : State).reqs.refs.refcnt s.reqs.next :=
        waited.once _ List.mem_cons_self
      change Safe _ ((s₃.reqWait s.reqs.next o.answer).topology.pipelineUpdateFromNlmsg p u.msg >>= fun topology => _) ↔ _
      rw [resumed, updated]
      change Safe _ (t₄.pipelineAdd p >>= fun topology => _) ↔ _
      rw [added]
      change Safe _ (({ s₃.reqWait s.reqs.next o.answer with topology := t₅ } : State).reqPut s.reqs.next >>= fun s' => _) ↔ _
      rw [reqPut_eq alive]
      have back : Function.update (s₃.reqWait s.reqs.next o.answer).reqs.refs.due s.reqs.next
          ((s₃.reqWait s.reqs.next o.answer).reqs.refs.due s.reqs.next - 1) = s.reqs.refs.due := by
        funext r
        by_cases here : r = s.reqs.next
        · subst here
          rw [Function.update_self, reqs]
          omega
        · rw [Function.update_of_ne here, waited.due]
          simp [Ne.symm here]
      change _ = _ ∧ t₅.refs.due = s.topology.refs.due ↔ _
      rw [and_iff_right back, due₅, ← condition]
      exact ⟨fun consistent _ _ _ _ => consistent, fun consistent => consistent memory skb fits (by omega)⟩

/-- The messages of an answer about pipelines put back what they take exactly if each of them does. -/
theorem pipelines_handled (us : List Update) : ∀ {t : Topology}, t.Sound mine →
    Safe (fun t' => (∀ o, t.refs.due o ≤ t'.refs.due o) ∧
        (t'.refs.due = t.refs.due ↔ Throughout (taken Topology.pipelineHandle) Topology.Settles t us))
      (us.foldlM Topology.pipelineHandle t) := by
  induction us with
  | nil => exact fun _ => ⟨fun _ => le_rfl, iff_of_true rfl trivial⟩
  | cons u us ih =>
    intro t sound
    rw [List.foldlM_cons, safe_bind_iff]
    refine (sound.pipelineHandle u).mono fun t₁ took handled => ?_
    refine (ih handled.sound).mono fun t' _ rest => ⟨fun o => (handled.more o).trans (rest.1 o), ?_⟩
    have through : Throughout (taken Topology.pipelineHandle) Topology.Settles t (u :: us) ↔
        Topology.Settles t u ∧ Throughout (taken Topology.pipelineHandle) Topology.Settles t₁ us := by
      rw [Throughout, taken_eq_some.mpr took]
      rfl
    rw [through, ← handled.exact, ← rest.2]
    constructor
    · intro equal
      have first : t₁.refs.due = t.refs.due := by
        funext o
        have := handled.more o
        have := rest.1 o
        rw [equal] at this
        omega
      exact ⟨first, equal.trans first.symm⟩
    · exact fun both => both.2.trans both.1

/-- The kernel gives what the request asks for. -/
def Granted (o : Outcome mine) : Prop := o.memory ∧ 0 ≤ o.answer.err

/-- The end of an update in which the pipelines are listed, their channels are put back and the kernel gives
the lock back. -/
def PipelinesRelease (s : State) (o : Outcomes) : Prop :=
  0 ≤ o.pipeline.answer.err ∧
    ∀ t, o.pipeline.answer.payload.foldlM Topology.pipelineHandle (s.resumed o.pipeline.answer) = .ok t →
      Throughout (taken Topology.pipelineHandle) Topology.Settles (s.resumed o.pipeline.answer) o.pipeline.answer.payload ∧
        Granted o.unlock

variable {s₀ : State} {o : Outcomes} {all : List Nat} {feature node chan pipeline : Nat}

theorem Has.resumed (has : Has s₀ s [pipeline] []) (answer : Answer mine) : s.resumed answer = s₀.resumed answer := by
  unfold State.resumed
  rw [has.topology]

theorem processPipelines_iff (has : Has s₀ s [pipeline] []) (there : pipeline ∈ all) :
    Safe (Returned s₀) (s.processPipelines o all pipeline) ↔ PipelinesRelease s₀ o := by
  have waited := has.reqWait o.pipeline.answer
  have topology : (s.reqWait pipeline o.pipeline.answer).topology = s₀.resumed o.pipeline.answer := has.resumed _
  unfold State.processPipelines PipelinesRelease
  split_ifs with refused
  · obtain ⟨s₁, put, -, has₁⟩ := waited.reqPut
    change Safe _ ((s.reqWait pipeline o.pipeline.answer).reqPut pipeline >>= fun s => _) ↔ _
    rw [put]
    refine iff_of_false (fun safe => ?_) fun both => absurd refused (by omega)
    exact has₁.unwind_again there (by simp) _ _ (Safe.mono safe fun _ _ both => both.1)
  · change Safe _ (o.pipeline.answer.payload.foldlM Topology.pipelineHandle
      (s.reqWait pipeline o.pipeline.answer).topology >>= fun topology => _) ↔ _
    rw [and_iff_right (by omega), topology]
    have sound : (s₀.resumed o.pipeline.answer).Sound [] :=
      Topology.Sound.of_eq o.pipeline.answer.topology.sound rfl (fun _ => rfl) rfl rfl rfl
    have handled := pipelines_handled o.pipeline.answer.payload sound
    cases run : o.pipeline.answer.payload.foldlM Topology.pipelineHandle (s₀.resumed o.pipeline.answer) with
    | error fault =>
      rw [run] at handled
      exact iff_of_true handled fun t same => by cases same
    | ok t =>
      rw [run] at handled
      -- the requests as they are, and the topology as the messages leave it
      have has₁ : Has { s₀ with topology := t } { s.reqWait pipeline o.pipeline.answer with topology := t } [] [pipeline] :=
        ⟨waited.twice, waited.once, waited.below, waited.nodup, waited.due, rfl⟩
      obtain ⟨s₂, put, -, has₂⟩ := has₁.reqPut
      obtain ⟨err, s₃, unlock, has₃, granted, -⟩ := has₂.remoteTopology o.unlock
      change Safe _ (({ s.reqWait pipeline o.pipeline.answer with topology := t } : State).reqPut pipeline >>= fun s =>
        s.remoteTopology o.unlock >>= fun returned =>
          if returned.1 < 0 then returned.2.unwind all returned.1 o.unlocked else .ok (0, returned.2)) ↔ _
      rw [put]
      change Safe _ (s₂.remoteTopology o.unlock >>= fun returned =>
        if returned.1 < 0 then returned.2.unwind all returned.1 o.unlocked else .ok (0, returned.2)) ↔ _
      rw [unlock]
      change Safe _ (if err < 0 then s₃.unwind all err o.unlocked else .ok (0, s₃)) ↔ _
      split_ifs with refused
      · refine iff_of_false (fun safe => ?_) fun both => ?_
        · exact has₃.unwind_again there (by simp) _ _ (Safe.mono safe fun _ _ both => both.1)
        · have := granted.mpr (both t rfl).2
          omega
      · obtain ⟨reqs, same⟩ := (has₃.returned_iff 0).mpr rfl
        change s₃.reqs.refs.due = s₀.reqs.refs.due ∧ s₃.topology.refs.due = s₀.topology.refs.due ↔ _
        change s₃.topology.refs.due = t.refs.due at same
        rw [and_iff_right reqs, same]
        change t.refs.due = (s₀.resumed o.pipeline.answer).refs.due ↔ _
        rw [handled.2]
        constructor
        · rintro through t' same
          exact ⟨through, granted.mp (by omega)⟩
        · exact fun both => (both t rfl).1

/-- The end of an update in which the channels are listed. -/
def ChansRelease (s : State) (o : Outcomes) : Prop :=
  0 ≤ o.chan.answer.err ∧
    ∀ t, o.chan.answer.payload.foldlM Topology.chanHandle (s.resumed o.chan.answer) = .ok t → PipelinesRelease s o

theorem processChans_iff (has : Has s₀ s [chan, pipeline] []) (chan_there : chan ∈ all) (there : pipeline ∈ all) :
    Safe (Returned s₀) (s.processChans o all chan pipeline) ↔ ChansRelease s₀ o := by
  have waited := has.reqWait o.chan.answer
  have topology : (s.reqWait chan o.chan.answer).topology = s₀.resumed o.chan.answer := by
    change s.resumed _ = _
    unfold State.resumed
    rw [has.topology]
  unfold State.processChans ChansRelease
  split_ifs with refused
  · obtain ⟨s₁, put, -, has₁⟩ := waited.reqPut
    change Safe _ ((s.reqWait chan o.chan.answer).reqPut chan >>= fun s => _) ↔ _
    rw [put]
    refine iff_of_false (fun safe => ?_) fun both => absurd refused (by omega)
    have apart : chan ∉ [pipeline] := (List.nodup_cons.mp has.nodup).1
    exact has₁.unwind_again chan_there (by simpa using apart) _ _ (Safe.mono safe fun _ _ both => both.1)
  · change Safe _ (o.chan.answer.payload.foldlM Topology.chanHandle
      (s.reqWait chan o.chan.answer).topology >>= fun topology => _) ↔ _
    rw [and_iff_right (by omega), topology]
    have sound : (s₀.resumed o.chan.answer).Sound [] :=
      Topology.Sound.of_eq o.chan.answer.topology.sound rfl (fun _ => rfl) rfl rfl rfl
    have handled : Safe (fun t => t.Sound [] ∧ t.refs.due = s₀.topology.refs.due)
        (o.chan.answer.payload.foldlM Topology.chanHandle (s₀.resumed o.chan.answer)) :=
      Safe.foldlM (fun t : Topology => t.Sound [] ∧ t.refs.due = s₀.topology.refs.due)
        (fun t u held => (held.1.chanHandle u).mono fun _ _ next => ⟨next.1, next.2.trans held.2⟩) _ _ ⟨sound, rfl⟩
    cases run : o.chan.answer.payload.foldlM Topology.chanHandle (s₀.resumed o.chan.answer) with
    | error fault =>
      rw [run] at handled
      exact iff_of_true handled fun t same => by cases same
    | ok t =>
      rw [run] at handled
      obtain ⟨s₂, put, -, has₂⟩ := (waited.withTopology handled.2).reqPut
      change Safe _ (({ s.reqWait chan o.chan.answer with topology := t } : State).reqPut chan >>= fun s =>
        s.processPipelines o all pipeline) ↔ _
      rw [put]
      change Safe _ (s₂.processPipelines o all pipeline) ↔ _
      rw [processPipelines_iff has₂ there]
      exact ⟨fun release _ _ => release, fun release => release t rfl⟩

/-- The end of an update in which the four requests are queued. -/
def Release (s : State) (o : Outcomes) : Prop := 0 ≤ o.feature.answer.err ∧ 0 ≤ o.node.answer.err ∧ ChansRelease s o

theorem process_iff (has : Has s₀ s [feature, node, chan, pipeline] []) :
    Safe (Returned s₀) (s.process o feature node chan pipeline) ↔ Release s₀ o := by
  obtain ⟨s₁, put, -, has₁⟩ := (has.reqWait o.feature.answer).reqPut
  obtain ⟨s₂, put₂, -, has₂⟩ := (has₁.reqWait o.node.answer).reqPut
  have feature_apart : feature ∉ [node, chan, pipeline] := (List.nodup_cons.mp has.nodup).1
  have node_apart : node ∉ [chan, pipeline] := (List.nodup_cons.mp has₁.nodup).1
  unfold State.process Release
  change Safe _ ((s.reqWait feature o.feature.answer).reqPut feature >>= fun s => _) ↔ _
  rw [put]
  change Safe _ (if o.feature.answer.err < 0 then s₁.unwind _ o.feature.answer.err o.unlocked
    else (s₁.reqWait node o.node.answer).reqPut node >>= fun s => _) ↔ _
  by_cases refused : o.feature.answer.err < 0
  · rw [if_pos refused]
    refine iff_of_false (fun safe => ?_) fun both => absurd refused (by omega)
    exact has₁.unwind_again (show feature ∈ [pipeline, chan, node, feature] by simp) (by simpa using feature_apart) _ _
      (Safe.mono safe fun _ _ both => both.1)
  rw [if_neg refused, and_iff_right (by omega), put₂]
  change Safe _ (if o.node.answer.err < 0 then s₂.unwind _ o.node.answer.err o.unlocked else _) ↔ _
  by_cases refused' : o.node.answer.err < 0
  · rw [if_pos refused']
    refine iff_of_false (fun safe => ?_) fun both => absurd refused' (by omega)
    exact has₂.unwind_again (show node ∈ [pipeline, chan, node, feature] by simp) (by simpa using node_apart) _ _
      (Safe.mono safe fun _ _ both => both.1)
  rw [if_neg refused', and_iff_right (by omega)]
  exact processChans_iff has₂ (by simp) (by simp)

/-- An update that does not get as far as waiting for its requests, or whose requests are answered well. -/
def UpdateReleases (s : State) (o : Outcomes) : Prop :=
  Granted o.lock → o.feature.memory → o.node.memory → o.chan.memory → o.pipeline.memory → Release s o

theorem queueAll_iff (has : Has s₀ s [] []) :
    Safe (Returned s₀) (s.queueAll o) ↔ (o.feature.memory → o.node.memory → o.chan.memory → o.pipeline.memory → Release s₀ o) := by
  unfold State.queueAll
  by_cases feature_memory : o.feature.memory
  swap
  · rw [if_pos feature_memory]
    exact iff_of_true (has.unwind [] (.refl _) _ _) fun yes => absurd yes feature_memory
  rw [if_neg (not_not.mpr feature_memory)]
  obtain ⟨s₁, queue₁, -, has₁⟩ := has.queueRequest
  change Safe _ ((s.reqAlloc).2.queueRequest s.reqs.next >>= fun s₁ => _) ↔ _
  rw [queue₁]
  change Safe _ (if ¬o.node.memory then s₁.unwind [s.reqs.next] _ _ else _) ↔ _
  by_cases node_memory : o.node.memory
  swap
  · rw [if_pos node_memory]
    exact iff_of_true (has₁.unwind _ (.refl _) _ _) fun _ yes => absurd yes node_memory
  rw [if_neg (not_not.mpr node_memory)]
  obtain ⟨s₂, queue₂, -, has₂⟩ := has₁.queueRequest
  change Safe _ ((s₁.reqAlloc).2.queueRequest s₁.reqs.next >>= fun s₂ => _) ↔ _
  rw [queue₂]
  change Safe _ (if ¬o.chan.memory then s₂.unwind [s₁.reqs.next, s.reqs.next] _ _ else _) ↔ _
  by_cases chan_memory : o.chan.memory
  swap
  · rw [if_pos chan_memory]
    exact iff_of_true (has₂.unwind _ (List.reverse_perm _).symm _ _) fun _ _ yes => absurd yes chan_memory
  rw [if_neg (not_not.mpr chan_memory)]
  obtain ⟨s₃, queue₃, -, has₃⟩ := has₂.queueRequest
  change Safe _ ((s₂.reqAlloc).2.queueRequest s₂.reqs.next >>= fun s₃ => _) ↔ _
  rw [queue₃]
  change Safe _ (if ¬o.pipeline.memory then s₃.unwind [s₂.reqs.next, s₁.reqs.next, s.reqs.next] _ _ else _) ↔ _
  by_cases pipeline_memory : o.pipeline.memory
  swap
  · rw [if_pos pipeline_memory]
    exact iff_of_true (has₃.unwind _ (List.reverse_perm _).symm _ _) fun _ _ _ yes => absurd yes pipeline_memory
  rw [if_neg (not_not.mpr pipeline_memory)]
  obtain ⟨s₄, queue₄, -, has₄⟩ := has₃.queueRequest
  change Safe _ ((s₃.reqAlloc).2.queueRequest s₃.reqs.next >>= fun s₄ => _) ↔ _
  rw [queue₄]
  change Safe _ (s₄.process o s.reqs.next s₁.reqs.next s₂.reqs.next s₃.reqs.next) ↔ _
  rw [process_iff has₄]
  exact ⟨fun release _ _ _ _ => release, fun release => release feature_memory node_memory chan_memory pipeline_memory⟩

theorem updateTopology_iff (sound : s.topology.Sound []) :
    Safe (Returned s) (s.updateTopology o) ↔ UpdateReleases s o := by
  obtain ⟨err, s₁, lock, has₁, granted, sound₁⟩ := (Has.start s).remoteTopology o.lock
  unfold State.updateTopology UpdateReleases
  rw [lock]
  change Safe _ (if err < 0 then .ok (err, s₁) else _) ↔ _
  split_ifs with refused
  · refine iff_of_true ((has₁.returned_iff err).mpr rfl) fun yes => ?_
    have := granted.mpr yes
    omega
  · obtain ⟨t₂, flushed, sound₂, due₂⟩ := (sound₁ sound).pipelineFlush
    obtain ⟨t₃, flushed₃, sound₃, due₃⟩ := sound₂.chanFlush
    rw [flushed]
    change Safe _ (t₂.chanFlush >>= fun topology => { s₁ with topology }.queueAll o) ↔ _
    rw [flushed₃]
    change Safe _ (({ s₁ with topology := t₃ } : State).queueAll o) ↔ _
    rw [queueAll_iff (has₁.withTopology (due₃.trans (due₂.trans has₁.topology)))]
    exact ⟨fun release _ => release, fun release => release (granted.mp (by omega))⟩

end Calls

/-- For each call, when what it has taken is put back and nothing that is gone is put. -/
theorem calls_release_iff {mine : List Obj} (lib : Library mine) (whole : Library []) (s : State) (reqs : Reqs) (p c : Nat) (msg : Message)
    (o : Outcome mine) (created : Outcome [.pipeline p]) (updated : Outcomes) :
    (Safe (fun t => t.refs.due = lib.refs.due) (lib.pipelineUpdateFromNlmsg p msg) ↔ lib.Consistent p 0 msg.attrs) ∧
      (Safe (Returned s) (s.pipelineCreate p created) ↔ CreateReleases s p created) ∧
      (Safe (Returned s) (s.pipelineUpdate o) ↔ ¬Refused [4, 4] o) ∧
      (Safe (Returned s) (s.pipelineDestroy o) ↔ ¬Refused [4] o) ∧
      (Safe (Returned s) (s.chanUpdate c o) ↔ ¬Refused (4 :: (s.topology.chan c).features.map Features.FeatureValue.len) o) ∧
      (Safe (Returned ⟨reqs, whole.toTopology⟩) (State.updateTopology ⟨reqs, whole.toTopology⟩ updated) ↔
        UpdateReleases ⟨reqs, whole.toTopology⟩ updated) := by
  refine ⟨?_, pipelineCreate_iff p created, request_iff _ o, request_iff _ o, request_iff _ o, updateTopology_iff whole.sound⟩
  obtain ⟨t, run, -, -, exact⟩ := lib.sound.pipelineUpdateFromNlmsg p msg
  rw [run]
  exact exact

/-- Nothing in memory. -/
def nothing : Library [] where
  refs := { refcnt := fun _ => 0, due := fun _ => 0 }
  sound := ⟨fun _ => by simp, fun _ => by simp, fun _ _ => ⟨rfl, rfl⟩⟩

/-- ks_pipeline_update puts its request twice when the kernel is short of memory. -/
theorem refused_update_puts_twice : ¬ ∀ (s : State) (o : Outcome []), Safe (Returned s) (s.pipelineUpdate o) := by
  intro all
  have safe := all ⟨⟨{ refcnt := fun _ => 0, due := fun _ => 0 }, 0⟩, nothing.toTopology⟩
    { memory := true, answer := { err := -ENOMEM, left := 0, payload := [], topology := nothing } }
  exact (request_iff _ _).mp safe ⟨rfl, rfl, rfl, by decide⟩

end Vstuff.Libkstreamer.Balance
