import Vstuff.Lib.ShortestPath
import Mathlib.Data.List.Lattice
import Mathlib.Algebra.Ring.Int.Defs

/-! The router of the library: which channels lead from one node to another at the
lowest cost, and how `ks_pipeline_autoroute` puts them into a pipeline. -/
namespace Vstuff.Libkstreamer.Router
open ShortestPath
set_option linter.all false

def INT_MAX : Int := 2147483647

def EHOSTUNREACH : Int := 113

/-- An int that an addition gives. -/
def int (n : Int) : Int := (n + 2 ^ 31) % 2 ^ 32 - 2 ^ 31

/-- struct ks_chan -/
structure Chan where
  id : Nat
  «from» : Nat
  «to» : Nat
  cost : Int
  pipeline : Option Nat := none
  deriving Repr, DecidableEq

/-- The router may use the channel. -/
def Chan.free (chan : Chan) : Bool := chan.pipeline.isNone && decide (chan.cost ≠ INT_MAX)

/-- The graph of the channels the router may use. -/
def graph (chans : List Chan) : ShortestPath.Graph Nat Chan where
  arcs := chans.filter Chan.free
  src := Chan.from
  dst := Chan.to
  cost chan := chan.cost.toNat

/-- struct ks_conn: the nodes and the channels in the order of the hash tables. -/
structure Conn where
  nodes : List Nat
  chans : List Chan

/-- A connection whose channels have known ends and costs that are not negative, where no path that
leaves a node once only sums up to INT_MAX. -/
structure Network extends Conn where
  ends : ∀ chan ∈ chans, chan.from ∈ nodes ∧ chan.to ∈ nodes
  costs : ∀ chan ∈ chans, 0 ≤ chan.cost
  sums : ∀ u v path, (graph chans).Path u v path → (path.map Chan.from).Nodup →
    ((graph chans).length path : Int) < INT_MAX

/-- What the nodes hold for the router. -/
structure Routing where
  router_cost : Nat → Int
  router_visited : Nat → Bool
  router_prev : Nat → Option Nat
  router_prev_thru : Nat → Option Chan

/-- The loop over the nodes at the start of `ks_router_run`. -/
def routerInit (conn : Conn) (r : Routing) : Routing where
  router_cost v := if v ∈ conn.nodes then INT_MAX else r.router_cost v
  router_visited v := if v ∈ conn.nodes then false else r.router_visited v
  router_prev v := if v ∈ conn.nodes then none else r.router_prev v
  router_prev_thru v := if v ∈ conn.nodes then none else r.router_prev_thru v

/-- Extract the node with lowest cost. -/
def minCostNode (r : Routing) (nodes : List Nat) : Option Nat :=
  nodes.foldl
    (fun min node =>
      if !r.router_visited node && min.all (r.router_cost node < r.router_cost ·) then some node else min)
    none

/-- For each arch exiting from the node. -/
def relax (min : Nat) (r : Routing) (arch : Chan) : Routing :=
  if arch.from ≠ min then r
  else if arch.pipeline.isSome then r
  else if arch.cost ≠ INT_MAX ∧ r.router_cost min ≠ INT_MAX ∧
      r.router_cost arch.to > int (r.router_cost min + arch.cost) then
    { r with
      router_cost := Function.update r.router_cost arch.to (int (r.router_cost min + arch.cost))
      router_prev := Function.update r.router_prev arch.to (some min)
      router_prev_thru := Function.update r.router_prev_thru arch.to (some arch) }
  else r

/-- The endless loop of `ks_router_run`; without turns left, there is no result. -/
def routerLoop (conn : Conn) («to» : Nat) : Nat → Routing → Option Routing
  | 0, _ => none
  | turns + 1, r =>
    match minCostNode r conn.nodes with
    | none => some r
    | some min =>
      if min = «to» then some r
      else
        routerLoop conn «to» turns
          (conn.chans.foldl (relax min) { r with router_visited := Function.update r.router_visited min true })

/-- `ks_router_run` -/
def routerRun (conn : Conn) (start «to» turns : Nat) (r : Routing) : Option Routing :=
  let r := routerInit conn r
  routerLoop conn «to» turns { r with router_cost := Function.update r.router_cost start 0 }

/-- struct ks_pipeline: the entries of `chans`, and which of them have been written. -/
structure Pipeline where
  chans : Nat → Option Chan
  chans_cnt : Nat
  stored : List Nat := []

def Pipeline.store (pipeline : Pipeline) (i : Nat) (chan : Option Chan) : Pipeline :=
  { pipeline with chans := Function.update pipeline.chans i chan, stored := pipeline.stored ++ [i] }

/-- The first loop of `ks_pipeline_autoroute` over the nodes before: where it ends, and `nchans`. -/
def countHops (r : Routing) : Nat → Nat → Nat → Option (Nat × Nat)
  | 0, _, _ => none
  | turns + 1, node, nchans =>
    match r.router_prev node with
    | none => some (node, nchans)
    | some prev => countHops r turns prev (nchans + 1)

/-- The second one. -/
def storeHops (r : Routing) (nchans : Nat) : Nat → Nat → Nat → Pipeline → Option Pipeline
  | 0, _, _, _ => none
  | turns + 1, node, i, pipeline =>
    match r.router_prev node with
    | none => some pipeline
    | some prev =>
      storeHops r nchans turns prev (i + 1)
        (pipeline.store (pipeline.chans_cnt + nchans - i - 1) (r.router_prev_thru node))

/-- `ks_pipeline_autoroute` -/
def pipelineAutoroute (conn : Conn) (src dst turns : Nat) (r : Routing) (pipeline : Pipeline) : Option (Pipeline × Int) := do
  let r ← routerRun conn src dst turns r
  let (node, nchans) ← countHops r turns dst 0
  if node ≠ src then some (pipeline, -EHOSTUNREACH)
  else do
    let pipeline ← storeHops r nchans turns dst 0 pipeline
    some ({ pipeline with chans_cnt := pipeline.chans_cnt + nchans }, 0)

/-! ## The labels of the nodes -/

/-- The fields of the nodes show the labels. -/
structure Shows (conn : Network) (r : Routing) (l : Labels Nat Chan) : Prop where
  far : ∀ v ∈ conn.nodes, l.dist v = ⊤ → r.router_cost v = INT_MAX
  near : ∀ v ∈ conn.nodes, ∀ d : ℕ, l.dist v = d → r.router_cost v = d
  visited : ∀ v ∈ conn.nodes, (r.router_visited v = true ↔ v ∈ l.settled)
  prev : ∀ v ∈ conn.nodes, r.router_prev v = (l.via v).map Chan.from
  thru : ∀ v ∈ conn.nodes, r.router_prev_thru v = l.via v

/-- Other nodes have no labels. -/
structure Inside (conn : Network) (l : Labels Nat Chan) : Prop where
  settled : ∀ v ∈ l.settled, v ∈ conn.nodes
  outside : ∀ v, v ∉ conn.nodes → l.dist v = ⊤

section Labels
variable {conn : Network} {r : Routing} {l : Labels Nat Chan} {s u v : Nat} {pending : Chan → Prop} {arch : Chan}

theorem mem_arcs : arch ∈ (graph conn.chans).arcs ↔ arch ∈ conn.chans ∧ arch.pipeline = none ∧ arch.cost ≠ INT_MAX := by
  simp [graph, Chan.free]

/-- Labels stay below INT_MAX. -/
theorem dist_lt (inv : Inv (graph conn.chans) s pending l) {d : ℕ} (known : l.dist v = d) : (d : Int) < INT_MAX := by
  have finite : l.dist v ≠ ⊤ := by
    rw [known]
    exact WithTop.coe_ne_top
  obtain ⟨path, leads⟩ := inv.leads finite
  have same : (graph conn.chans).length path = d := WithTop.coe_injective (leads.length.symm.trans known)
  rw [← same]
  exact conn.sums s v path leads.led (List.nodup_cons.mp leads.distinct).2

/-- And so does the way over an arc that is to be relaxed. -/
theorem dist_add_lt (inv : Inv (graph conn.chans) s pending l) (member : arch ∈ (graph conn.chans).arcs) {d : ℕ}
    (known : l.dist arch.from = d) : (d : Int) + arch.cost < INT_MAX := by
  have finite : l.dist arch.from ≠ ⊤ := by
    rw [known]
    exact WithTop.coe_ne_top
  obtain ⟨path, leads⟩ := inv.leads finite
  have same : (graph conn.chans).length path = d := WithTop.coe_injective (leads.length.symm.trans known)
  have distinct : ((path ++ [arch]).map Chan.from).Nodup := by
    rw [List.map_append]
    exact (List.perm_append_singleton _ _).nodup_iff.mpr leads.distinct
  have sum := conn.sums s arch.to (path ++ [arch]) (leads.led.snoc member rfl) distinct
  have cost := conn.costs arch (mem_arcs.mp member).1
  rw [length_snoc, same] at sum
  change ((d + arch.cost.toNat : ℕ) : Int) < INT_MAX at sum
  omega

/-- Costs compare as distances do. -/
theorem Shows.cost_le_iff (shows_ : Shows conn r l) (inv : Inv (graph conn.chans) s pending l) (there : u ∈ conn.nodes)
    (here : v ∈ conn.nodes) : r.router_cost u ≤ r.router_cost v ↔ l.dist u ≤ l.dist v := by
  rcases eq_or_ne (l.dist u) ⊤ with far | near
  · rcases eq_or_ne (l.dist v) ⊤ with far' | near'
    · rw [shows_.far u there far, shows_.far v here far', far, far']
      simp
    · obtain ⟨e, known⟩ := WithTop.ne_top_iff_exists.mp near'
      have below := dist_lt inv known.symm
      rw [shows_.far u there far, shows_.near v here e known.symm, far, top_le_iff, ← known]
      exact iff_of_false (by omega) WithTop.coe_ne_top
  · obtain ⟨d, known⟩ := WithTop.ne_top_iff_exists.mp near
    rw [shows_.near u there d known.symm]
    rcases eq_or_ne (l.dist v) ⊤ with far' | near'
    · have below := dist_lt inv known.symm
      rw [shows_.far v here far', far']
      exact iff_of_true (by omega) le_top
    · obtain ⟨e, known'⟩ := WithTop.ne_top_iff_exists.mp near'
      rw [shows_.near v here e known'.symm, ← known, ← known', WithTop.coe_le_coe]
      exact Int.ofNat_le

/-! ## A turn of the loop -/

theorem Shows.update (shows_ : Shows conn r l) (d : ℕ) :
    Shows conn
      { r with
        router_cost := Function.update r.router_cost arch.to d
        router_prev := Function.update r.router_prev arch.to (some arch.from)
        router_prev_thru := Function.update r.router_prev_thru arch.to (some arch) }
      { l with
        dist := Function.update l.dist arch.to d
        via := Function.update l.via arch.to (some arch) } := by
  constructor
  · intro v inside unknown
    by_cases here : v = arch.to
    · subst here
      simp only [Function.update_self] at unknown
      exact absurd unknown WithTop.coe_ne_top
    · simp only [Function.update_of_ne here] at unknown ⊢
      exact shows_.far v inside unknown
  · intro v inside e known
    by_cases here : v = arch.to
    · subst here
      simp only [Function.update_self] at known ⊢
      exact congrArg _ (WithTop.coe_injective known)
    · simp only [Function.update_of_ne here] at known ⊢
      exact shows_.near v inside e known
  · exact shows_.visited
  · intro v inside
    by_cases here : v = arch.to
    · subst here
      simp
    · simp only [Function.update_of_ne here]
      exact shows_.prev v inside
  · intro v inside
    by_cases here : v = arch.to
    · subst here
      simp
    · simp only [Function.update_of_ne here]
      exact shows_.thru v inside

/-- A channel the router may use is relaxed as an arc of the graph. -/
theorem Shows.relax (shows_ : Shows conn r l) (inv : Inv (graph conn.chans) s pending l)
    (member : arch ∈ (graph conn.chans).arcs) :
    Shows conn (relax arch.from r arch) ((graph conn.chans).relax l arch) := by
  obtain ⟨there, free, finite⟩ := mem_arcs.mp member
  obtain ⟨«from», «to»⟩ := conn.ends arch there
  have cost := conn.costs arch there
  have busy : ¬arch.pipeline.isSome = true := by rw [free]; exact Bool.false_ne_true
  unfold Router.relax Graph.relax
  rw [if_neg (not_not.mpr rfl), if_neg busy]
  change Shows conn _ (if l.dist arch.from + (arch.cost.toNat : ℕ) < l.dist arch.to then
    { l with
      dist := Function.update l.dist arch.to (l.dist arch.from + (arch.cost.toNat : ℕ))
      via := Function.update l.via arch.to (some arch) } else l)
  rcases eq_or_ne (l.dist arch.from) ⊤ with far | near
  · rw [if_neg fun all => all.2.1 (shows_.far _ «from» far), if_neg (by rw [far, WithTop.top_add]; exact not_top_lt)]
    exact shows_
  · obtain ⟨d, known⟩ := WithTop.ne_top_iff_exists.mp near
    have below := dist_add_lt inv member known.symm
    have small := dist_lt inv known.symm
    have start := shows_.near _ «from» d known.symm
    have exact_ : int (r.router_cost arch.from + arch.cost) = (d + arch.cost.toNat : ℕ) := by
      rw [start, int]
      unfold INT_MAX at below
      omega
    have sum : l.dist arch.from + (arch.cost.toNat : ℕ) = ((d + arch.cost.toNat : ℕ) : WithTop ℕ) := by
      rw [← known]
      exact (WithTop.coe_add _ _).symm
    have open_ : r.router_cost arch.from ≠ INT_MAX := by omega
    have shorter : (arch.cost ≠ INT_MAX ∧ r.router_cost arch.from ≠ INT_MAX ∧
        r.router_cost arch.to > int (r.router_cost arch.from + arch.cost)) ↔
        l.dist arch.from + (arch.cost.toNat : ℕ) < l.dist arch.to := by
      rw [exact_, sum, and_iff_right finite, and_iff_right open_]
      rcases eq_or_ne (l.dist arch.to) ⊤ with unknown | reached
      · rw [shows_.far _ «to» unknown, unknown]
        exact iff_of_true (by omega) (WithTop.coe_lt_top _)
      · obtain ⟨e, at_⟩ := WithTop.ne_top_iff_exists.mp reached
        rw [shows_.near _ «to» e at_.symm, ← at_]
        exact Int.ofNat_lt.trans WithTop.coe_lt_coe.symm
    by_cases improves : l.dist arch.from + (arch.cost.toNat : ℕ) < l.dist arch.to
    · rw [if_pos (shorter.mpr improves), if_pos improves]
      rw [exact_, sum]
      exact shows_.update _
    · rw [if_neg (mt shorter.mp improves), if_neg improves]
      exact shows_

/-- A channel that is busy, or leaves another node, is passed over. -/
theorem relax_skips (other : ¬(arch.free ∧ arch.from = u)) : relax u r arch = r := by
  unfold relax
  by_cases leaves : arch.from = u
  · rw [if_neg (not_not.mpr leaves)]
    by_cases busy : arch.pipeline.isSome = true
    · rw [if_pos busy]
    · have dear : ¬(arch.cost ≠ INT_MAX) := by
        intro finite
        refine other ⟨?_, leaves⟩
        simpa [Chan.free, finite] using busy
      rw [if_neg busy, if_neg fun all => dear all.1]
  · rw [if_pos leaves]

/-- The loop over the channels relaxes the arcs that leave the node. -/
theorem Shows.relaxAll (chans : List Chan) (there : ∀ chan ∈ chans, chan ∈ conn.chans) :
    ∀ {pending r l}, Shows conn r l → Inv (graph conn.chans) s pending l → u ∈ l.settled →
      (∀ x ∈ l.settled, l.dist x ≤ l.dist u) →
      Shows conn (chans.foldl (Router.relax u) r)
        (((chans.filter Chan.free).filter (Chan.from · = u)).foldl (graph conn.chans).relax l) := by
  induction chans with
  | nil => exact fun shows_ _ _ _ => shows_
  | cons chan chans ih =>
    intro pending r l shows_ inv settled farthest
    obtain ⟨here, there⟩ := List.forall_mem_cons.mp there
    rw [List.foldl_cons]
    by_cases used : chan.free = true ∧ chan.from = u
    · obtain ⟨free, rfl⟩ := used
      have member : chan ∈ (graph conn.chans).arcs := List.mem_filter.mpr ⟨here, free⟩
      obtain ⟨inv', settled', kept⟩ := inv.relax member settled farthest
      have first : ((chan :: chans).filter Chan.free).filter (Chan.from · = chan.from) =
          chan :: (chans.filter Chan.free).filter (Chan.from · = chan.from) := by
        rw [List.filter_cons_of_pos free, List.filter_cons_of_pos (by simp)]
      rw [first, List.foldl_cons]
      refine ih there (shows_.relax inv member) inv' (by rw [settled']; exact settled) ?_
      intro x before
      rw [settled'] at before
      rw [kept x before, kept _ settled]
      exact farthest x before
    · have skipped : ((chan :: chans).filter Chan.free).filter (Chan.from · = u) =
          (chans.filter Chan.free).filter (Chan.from · = u) := by
        rw [List.filter_filter, List.filter_filter, List.filter_cons_of_neg (by simpa [and_comm] using used)]
      rw [relax_skips used, skipped]
      exact ih there shows_ inv settled farthest

theorem Inside.relaxAll (chans : List Chan) (there : ∀ chan ∈ chans, chan ∈ conn.chans) : ∀ {l}, Inside conn l →
    Inside conn (chans.foldl (graph conn.chans).relax l) := by
  induction chans with
  | nil => exact fun inside => inside
  | cons chan chans ih =>
    intro l inside
    obtain ⟨here, there⟩ := List.forall_mem_cons.mp there
    rw [List.foldl_cons]
    refine ih there ?_
    unfold Graph.relax
    split
    · refine ⟨inside.settled, fun v out => ?_⟩
      have other : v ≠ (graph conn.chans).dst chan := by
        rintro rfl
        exact out (conn.ends chan here).2
      exact (Function.update_of_ne other _ _).trans (inside.outside v out)
    · exact inside

/-- The search finds an unvisited node that no other is cheaper than, if there is one. -/
theorem minCostNode_spec (r : Routing) (nodes : List Nat) :
    match minCostNode r nodes with
    | none => ∀ v ∈ nodes, r.router_visited v = true
    | some u => u ∈ nodes ∧ r.router_visited u = false ∧
        ∀ v ∈ nodes, r.router_visited v = false → r.router_cost u ≤ r.router_cost v := by
  unfold minCostNode
  induction nodes using List.reverseRecOn with
  | nil => exact nofun
  | append_singleton nodes node ih =>
    rw [List.foldl_append, List.foldl_cons, List.foldl_nil]
    cases found : nodes.foldl (fun min node =>
        if !r.router_visited node && min.all (r.router_cost node < r.router_cost ·) then some node else min) none with
    | none =>
      rw [found] at ih
      cases here : r.router_visited node with
      | true =>
        intro v member
        rcases List.mem_append.mp member with before | last
        · exact ih v before
        · rw [List.mem_singleton.mp last]
          exact here
      | false =>
        refine ⟨by simp, here, fun v member unvisited => ?_⟩
        rcases List.mem_append.mp member with before | last
        · rw [ih v before] at unvisited
          cases unvisited
        · rw [List.mem_singleton.mp last]
    | some u =>
      rw [found] at ih
      obtain ⟨member, unvisited, least⟩ := ih
      by_cases better : r.router_visited node = false ∧ r.router_cost node < r.router_cost u
      · have taken : (!r.router_visited node && (some u).all (r.router_cost node < r.router_cost ·)) = true := by
          simp [better.1, better.2]
        rw [if_pos taken]
        refine ⟨by simp, better.1, fun v there open_ => ?_⟩
        rcases List.mem_append.mp there with before | last
        · exact better.2.le.trans (least v before open_)
        · rw [List.mem_singleton.mp last]
      · have kept : ¬(!r.router_visited node && (some u).all (r.router_cost node < r.router_cost ·)) = true := by
          simpa using better
        rw [if_neg kept]
        refine ⟨List.mem_append_left _ member, unvisited, fun v there open_ => ?_⟩
        rcases List.mem_append.mp there with before | last
        · exact least v before open_
        · rw [List.mem_singleton.mp last] at open_ ⊢
          exact not_lt.mp fun cheaper => better ⟨open_, cheaper⟩

/-- The nodes that are not settled. -/
def unsettled (conn : Network) (l : Labels Nat Chan) : List Nat := conn.nodes.filter (· ∉ l.settled)

/-- What is known when the loop is left for the target: no node that is not settled is nearer. -/
structure Found (conn : Network) (s t : Nat) (r : Routing) (l : Labels Nat Chan) : Prop where
  shows_ : Shows conn r l
  inv : Inv (graph conn.chans) s (fun _ => False) l
  nearest : ∀ v, v ∉ l.settled → l.dist t ≤ l.dist v

/-- The loop ends: every turn settles a node. -/
theorem routerLoop_ends {t : Nat} (target : t ∈ conn.nodes) (turns : Nat) : ∀ {r l}, Shows conn r l →
    Inv (graph conn.chans) s (fun _ => False) l → Inside conn l → (unsettled conn l).length < turns →
    ∃ r' l', routerLoop conn.toConn t turns r = some r' ∧ Found conn s t r' l' := by
  induction turns with
  | zero => exact fun _ _ _ enough => absurd enough (Nat.not_lt_zero _)
  | succ turns ih =>
    intro r l shows_ inv inside enough
    have spec := minCostNode_spec r conn.nodes
    rw [routerLoop]
    cases found : minCostNode r conn.nodes with
    | none =>
      rw [found] at spec
      refine ⟨r, l, rfl, shows_, inv, fun v open_ => ?_⟩
      have out : v ∉ conn.nodes := fun there => open_ ((shows_.visited v there).mp (spec v there))
      rw [inside.outside v out]
      exact le_top
    | some u =>
      rw [found] at spec
      obtain ⟨member, unvisited, least⟩ := spec
      have fresh : u ∉ l.settled := by
        rw [← shows_.visited u member, unvisited]
        exact Bool.false_ne_true
      have nearest : ∀ v, v ∉ l.settled → l.dist u ≤ l.dist v := by
        intro v open_
        by_cases there : v ∈ conn.nodes
        · refine (shows_.cost_le_iff inv member there).mp (least v there ?_)
          rw [← shows_.visited v there] at open_
          exact Bool.not_eq_true _ ▸ open_
        · rw [inside.outside v there]
          exact le_top
      dsimp only
      by_cases here : u = t
      · subst here
        exact ⟨r, l, if_pos rfl, shows_, inv, nearest⟩
      · rw [if_neg here]
        have settled : Shows conn { r with router_visited := Function.update r.router_visited u true } (l.settle u) := by
          refine ⟨shows_.far, shows_.near, fun v there => ?_, shows_.prev, shows_.thru⟩
          change Function.update r.router_visited u true v = true ↔ v ∈ u :: l.settled
          rw [List.mem_cons]
          by_cases same : v = u
          · subst same
            simp
          · rw [Function.update_of_ne same, shows_.visited v there]
            exact (or_iff_right same).symm
        have farthest : ∀ x ∈ (l.settle u).settled, (l.settle u).dist x ≤ (l.settle u).dist u := by
          intro x there
          rcases List.mem_cons.mp there with rfl | before
          · exact le_rfl
          · exact inv.lower x before u fresh
        obtain ⟨inv', order⟩ := inv.turn fresh nearest
        have shows' := settled.relaxAll conn.chans (fun _ there => there) (inv.settle fresh nearest) List.mem_cons_self farthest
        have inside' : Inside conn (l.settle u) := by
          refine ⟨fun v there => ?_, inside.outside⟩
          rcases List.mem_cons.mp there with rfl | before
          · exact member
          · exact inside.settled v before
        refine ih shows' inv' (inside'.relaxAll _ fun chan there => ?_) ?_
        · exact (mem_arcs.mp (List.mem_filter.mp there).1).1
        · have fewer : (unsettled conn (((graph conn.chans).arcs.filter ((graph conn.chans).src · = u)).foldl
              (graph conn.chans).relax (l.settle u))).length < (unsettled conn l).length := by
            have split : unsettled conn (((graph conn.chans).arcs.filter ((graph conn.chans).src · = u)).foldl
                (graph conn.chans).relax (l.settle u)) = (unsettled conn l).filter (· ≠ u) := by
              unfold unsettled
              rw [order, List.filter_filter]
              refine List.filter_congr fun v _ => ?_
              simp [not_or]
            rw [split]
            refine List.length_filter_lt_length_iff_exists.mpr ⟨u, ?_, by simp⟩
            exact List.mem_filter.mpr ⟨member, by simpa using fresh⟩
          exact Nat.lt_of_lt_of_le fewer (Nat.le_of_lt_succ enough)

/-- `ks_router_run` comes to an end. -/
theorem routerRun_ends {t turns : Nat} (source : s ∈ conn.nodes) (target : t ∈ conn.nodes) (enough : conn.nodes.length < turns)
    (r : Routing) : ∃ r' l', routerRun conn.toConn s t turns r = some r' ∧ Found conn s t r' l' := by
  refine routerLoop_ends target turns ?_ (Inv.of_start (graph conn.chans) s) ?_ ?_
  · constructor
    · intro v there far
      have other : v ≠ s := by
        rintro rfl
        simp [Labels.start] at far
      simp [routerInit, Function.update_of_ne other, there]
    · intro v there d known
      by_cases here : v = s
      · subst here
        have zero : d = 0 := WithTop.coe_injective (known.symm.trans (if_pos rfl))
        simp [zero]
      · exact absurd (known.symm.trans (if_neg here)) WithTop.coe_ne_top
    · intro v there
      simp [routerInit, there, Labels.start]
    · intro v there
      simp [routerInit, there, Labels.start]
    · intro v there
      simp [routerInit, there, Labels.start]
  · refine ⟨fun _ none => (List.not_mem_nil none).elim, fun v out => if_neg ?_⟩
    rintro rfl
    exact out source
  · exact Nat.lt_of_le_of_lt (List.length_filter_le _ _) enough

end Labels

/-! ## The way back -/

/-- The channels stand behind those the pipeline had, in their order; `stored` are the entries
written, the last one first. -/
structure Appended (pipeline after : Pipeline) (path : List Chan) : Prop where
  cnt : after.chans_cnt = pipeline.chans_cnt + path.length
  chans : ∀ k, after.chans k =
    if pipeline.chans_cnt ≤ k ∧ k < pipeline.chans_cnt + path.length then path[k - pipeline.chans_cnt]? else pipeline.chans k
  stored : after.stored = pipeline.stored ++ ((List.range path.length).map (pipeline.chans_cnt + ·)).reverse

section Hops
variable {conn : Network} {r : Routing} {l : Labels Nat Chan} {s : Nat}

theorem countHops_back (shows_ : Shows conn r l) (back : List Chan) : ∀ turns v n, back.length < turns → v ∈ conn.nodes →
    (∀ chan ∈ back, chan ∈ conn.chans) → l.Back (graph conn.chans) v back → (graph conn.chans).Links s v back.reverse →
    countHops r turns v n = some (s, n + back.length) := by
  induction back with
  | nil =>
    intro turns v n enough there _ known links
    obtain ⟨turns, rfl⟩ := Nat.exists_eq_add_one_of_ne_zero (Nat.ne_of_gt enough)
    obtain rfl : s = v := links
    rw [countHops, shows_.prev s there, show l.via s = none from known]
    rfl
  | cons chan back ih =>
    intro turns v n enough there known leads links
    obtain ⟨turns, rfl⟩ := Nat.exists_eq_add_one_of_ne_zero (Nat.ne_of_gt (Nat.zero_lt_of_lt enough))
    obtain ⟨here, known⟩ := List.forall_mem_cons.mp known
    rw [List.reverse_cons] at links
    obtain ⟨w, front, rfl, -⟩ := links_append.mp links
    rw [countHops, shows_.prev v there, leads.1]
    refine (ih turns _ (n + 1) (Nat.lt_of_succ_lt_succ enough) (conn.ends chan here).1 known leads.2 front).trans ?_
    rw [List.length_cons, Nat.add_right_comm, Nat.add_assoc]

theorem storeHops_cnt {nchans turns node i : Nat} {pipeline after : Pipeline}
    (stores : storeHops r nchans turns node i pipeline = some after) : after.chans_cnt = pipeline.chans_cnt := by
  induction turns generalizing node i pipeline with
  | zero => cases stores
  | succ turns ih =>
    rw [storeHops] at stores
    split at stores
    · cases stores
      rfl
    · exact (ih stores).trans rfl

theorem storeHops_back (shows_ : Shows conn r l) (back : List Chan) : ∀ turns v i pipeline, back.length < turns →
    v ∈ conn.nodes → (∀ chan ∈ back, chan ∈ conn.chans) → l.Back (graph conn.chans) v back →
    ∃ after, storeHops r (i + back.length) turns v i pipeline = some after ∧
      Appended pipeline { after with chans_cnt := pipeline.chans_cnt + back.length } back.reverse := by
  induction back with
  | nil =>
    intro turns v i pipeline enough there _ known
    obtain ⟨turns, rfl⟩ := Nat.exists_eq_add_one_of_ne_zero (Nat.ne_of_gt enough)
    refine ⟨pipeline, ?_, rfl, fun k => ?_, (List.append_nil _).symm⟩
    · rw [storeHops, shows_.prev v there, show l.via v = none from known]
      rfl
    · exact (if_neg fun between => by simp at between; omega).symm
  | cons chan back ih =>
    intro turns v i pipeline enough there known leads
    obtain ⟨turns, rfl⟩ := Nat.exists_eq_add_one_of_ne_zero (Nat.ne_of_gt (Nat.zero_lt_of_lt enough))
    obtain ⟨here, known⟩ := List.forall_mem_cons.mp known
    have place : pipeline.chans_cnt + (i + (chan :: back).length) - i - 1 = pipeline.chans_cnt + back.length := by
      rw [List.length_cons]
      omega
    obtain ⟨after, stores, -, chans, stored⟩ := ih turns chan.from (i + 1)
      (pipeline.store (pipeline.chans_cnt + back.length) (some chan)) (Nat.lt_of_succ_lt_succ enough)
      (conn.ends chan here).1 known leads.2
    have length : i + 1 + back.length = i + (chan :: back).length := by
      rw [List.length_cons]
      omega
    refine ⟨after, ?_, ?_, fun k => ?_, ?_⟩
    · rw [storeHops, shows_.prev v there, shows_.thru v there, leads.1, place, ← length]
      exact stores
    · rw [List.length_reverse]
    · refine (chans k).trans ?_
      simp only [Pipeline.store, List.length_reverse, List.reverse_cons, List.length_append, List.length_singleton]
      by_cases inner : pipeline.chans_cnt ≤ k ∧ k < pipeline.chans_cnt + back.length
      · rw [if_pos inner, if_pos (by omega), List.getElem?_append_left (by rw [List.length_reverse]; omega)]
      · rw [if_neg inner]
        by_cases last : k = pipeline.chans_cnt + back.length
        · subst last
          rw [Function.update_self, if_pos (by omega), List.getElem?_append_right (by rw [List.length_reverse]; omega)]
          simp
        · rw [Function.update_of_ne last, if_neg (by omega)]
    · refine stored.trans ?_
      simp only [Pipeline.store, List.length_reverse, List.length_cons, List.range_succ, List.map_append,
        List.reverse_append, List.append_assoc]
      rfl

end Hops

/-- Channels that lead from one node to another and are all free. -/
def FreePath (conn : Network) (u v : Nat) (path : List Chan) : Prop :=
  (graph conn.chans).Links u v path ∧ ∀ chan ∈ path, chan ∈ conn.chans ∧ chan.pipeline = none ∧ chan.cost ≠ INT_MAX

def total (path : List Chan) : Int := (path.map Chan.cost).sum

theorem freePath_iff {conn : Network} {u v : Nat} {path : List Chan} :
    FreePath conn u v path ↔ (graph conn.chans).Path u v path :=
  and_congr_right fun _ => forall₂_congr fun _ _ => mem_arcs.symm

theorem total_eq {conn : Network} {path : List Chan} (known : ∀ chan ∈ path, chan ∈ conn.chans) :
    total path = ((graph conn.chans).length path : ℕ) := by
  induction path with
  | nil => rfl
  | cons chan path ih =>
    obtain ⟨here, known⟩ := List.forall_mem_cons.mp known
    have cost := conn.costs chan here
    have rest := ih known
    unfold total Graph.length at rest ⊢
    rw [List.map_cons, List.sum_cons, List.map_cons, List.sum_cons, rest]
    change chan.cost + _ = ((chan.cost.toNat + _ : ℕ) : Int)
    omega

/-- The router ends; it finds a cheapest free path if there is a free path, and the pipeline gets
it; otherwise the pipeline stays as it is. -/
theorem autoroute_cheapest (conn : Network) (src dst turns : Nat) (source : src ∈ conn.nodes) (target : dst ∈ conn.nodes)
    (enough : conn.nodes.length < turns) (r : Routing) (pipeline : Pipeline) :
    ∃ after err, pipelineAutoroute conn.toConn src dst turns r pipeline = some (after, err) ∧
      (err = 0 ↔ ∃ path, FreePath conn src dst path) ∧
      (err = 0 → ∃ path, FreePath conn src dst path ∧ Appended pipeline after path ∧
        (src :: path.map Chan.to).Nodup ∧ ∀ other, FreePath conn src dst other → total path ≤ total other) ∧
      (err ≠ 0 → err = -EHOSTUNREACH ∧ after = pipeline) := by
  obtain ⟨r', l, ran, shows_, inv, nearest⟩ := routerRun_ends source target enough r
  rcases eq_or_ne (l.dist dst) ⊤ with far | near
  · have other : dst ≠ src := by
      rintro rfl
      rw [inv.start.1] at far
      exact absurd far WithTop.zero_ne_top
    have none_ : ¬∃ path, FreePath conn src dst path := fun ⟨path, led⟩ => inv.unreached nearest far (freePath_iff.mp led)
    obtain ⟨turns, rfl⟩ := Nat.exists_eq_add_one_of_ne_zero (Nat.ne_of_gt (Nat.zero_lt_of_lt enough))
    have stays : countHops r' (turns + 1) dst 0 = some (dst, 0) := by
      rw [countHops, shows_.prev dst target, (inv.reached dst other).mpr far]
      rfl
    refine ⟨pipeline, -EHOSTUNREACH, ?_, ?_, ?_, fun _ => ⟨rfl, rfl⟩⟩
    · simp [pipelineAutoroute, ran, stays, other]
    · exact iff_of_false (by decide) none_
    · exact fun zero => absurd zero (by decide)
  · obtain ⟨path, leads⟩ := inv.leads near
    have free := freePath_iff.mpr leads.led
    have known : ∀ chan ∈ path.reverse, chan ∈ conn.chans := fun chan there => (free.2 chan (List.mem_reverse.mp there)).1
    have short : path.reverse.length < turns := by
      have inside : dst :: path.map Chan.from ⊆ conn.nodes := by
        intro v there
        rcases List.mem_cons.mp there with rfl | there
        · exact target
        · obtain ⟨chan, on, rfl⟩ := List.mem_map.mp there
          exact (conn.ends chan (free.2 chan on).1).1
      have below := (List.subperm_of_subset leads.distinct inside).length_le
      rw [List.length_cons, List.length_map] at below
      rw [List.length_reverse]
      omega
    have hops := countHops_back shows_ path.reverse turns dst 0 short target known leads.back
      (by rw [List.reverse_reverse]; exact free.1)
    obtain ⟨after, stores, appended⟩ := storeHops_back shows_ path.reverse turns dst 0 pipeline short target known leads.back
    rw [List.reverse_reverse] at appended
    rw [Nat.zero_add, List.length_reverse] at hops stores
    rw [List.length_reverse] at appended
    refine ⟨_, 0, ?_, iff_of_true rfl ⟨path, free⟩, fun _ => ⟨path, free, appended, ?_, fun other led => ?_⟩,
      fun nonzero => absurd rfl nonzero⟩
    · have cnt : after.chans_cnt = pipeline.chans_cnt := storeHops_cnt stores
      simp [pipelineAutoroute, ran, hops, stores, cnt]
    · exact (visited_perm free.1).nodup_iff.mpr leads.distinct
    · have least := inv.optimal nearest (freePath_iff.mp led)
      rw [leads.length] at least
      rw [total_eq fun chan there => (free.2 chan there).1, total_eq fun chan there => (led.2 chan there).1]
      exact Int.ofNat_le.mpr (WithTop.coe_le_coe.mp least)

/-- Two nodes and a channel from the one to the other. -/
def oneChannel : Network where
  nodes := [1, 2]
  chans := [{ id := 7, «from» := 1, «to» := 2, cost := 5 }]
  ends := by decide
  costs := by decide
  sums u v path led distinct := by
    have same : ∀ chan ∈ path, chan = { id := 7, «from» := 1, «to» := 2, cost := 5 } := fun chan on =>
      List.mem_singleton.mp (List.mem_filter.mp (led.2 chan on)).1
    match path with
    | [] => decide
    | [chan] =>
      rw [same chan List.mem_cons_self]
      decide
    | chan :: next :: path =>
      rw [same chan List.mem_cons_self, same next (List.mem_cons_of_mem _ List.mem_cons_self)] at distinct
      exact absurd List.mem_cons_self (List.nodup_cons.mp distinct).1

theorem one_channel_routed : ∃ after,
    pipelineAutoroute oneChannel.toConn 1 2 3 ⟨fun _ => 0, fun _ => false, fun _ => none, fun _ => none⟩
      ⟨fun _ => none, 0, []⟩ = some (after, 0) := by
  obtain ⟨after, err, routed, zero, -⟩ := autoroute_cheapest oneChannel 1 2 3 (by decide) (by decide) (by decide)
    ⟨fun _ => 0, fun _ => false, fun _ => none, fun _ => none⟩ ⟨fun _ => none, 0, []⟩
  have found : err = 0 := zero.mpr ⟨[{ id := 7, «from» := 1, «to» := 2, cost := 5 }], ⟨rfl, rfl⟩, by decide⟩
  exact ⟨after, found ▸ routed⟩

end Vstuff.Libkstreamer.Router
