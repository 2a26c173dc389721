import Vstuff.Libkstreamer.Features
import Vstuff.Libkstreamer.Router
import Vstuff.Lib.Machine

/-! The arrays of fixed size in the library: 32 channels in a pipeline and 16
features in a node. Messages about the topology, the router and kstool append to
them. -/
namespace Vstuff.Libkstreamer.Tables
open Router (Chan Routing routerRun countHops storeHops pipelineAutoroute)
open Transition
set_option linter.all false

/-- ARRAY_SIZE(pipeline->chans) -/
def chansSize : Nat := 32

/-- ARRAY_SIZE(node->features) -/
def featuresSize : Nat := 16

/-- struct ks_node; `stored` are the entries of `features` that have been written. -/
structure Node where
  id : Nat := 0
  path : Option (List UInt8) := none
  features : Nat → Option Nat := fun _ => none
  features_cnt : Nat := 0
  stored : List Nat := []

/-- struct ks_pipeline -/
structure Pipeline where
  id : Nat := 0
  status : Nat := 0
  path : Option (List UInt8) := none
  table : Router.Pipeline := { chans := fun _ => none, chans_cnt := 0 }

/-- Appends a channel. -/
def Pipeline.add (pipeline : Pipeline) (chan : Chan) : Pipeline :=
  { pipeline with
    table := { pipeline.table.store pipeline.table.chans_cnt (some chan) with chans_cnt := pipeline.table.chans_cnt + 1 } }

/-- A turn of the loop of `ks_node_create_from_nlmsg`; a second path fails an assertion. -/
def nodeAttr (known : Nat → Bool) (node : Node) (attr : Attr) : Except Node Node :=
  if attr.type = 1 then .ok { node with id := attr.word }
  else if attr.type = 2 then
    if node.path.isSome then .error node else .ok { node with path := some (attr.data.takeWhile (· ≠ 0)) }
  else if known attr.type then
    .ok { node with
      features := Function.update node.features node.features_cnt (some attr.type)
      features_cnt := node.features_cnt + 1
      stored := node.stored ++ [node.features_cnt] }
  else .ok node

/-- `ks_node_create_from_nlmsg`, for the features that are known. -/
def nodeCreateFromNlmsg (known : Nat → Bool) (msg : Message) : Except Node Node := msg.attrs.foldlM (nodeAttr known) {}

/-- A turn of the loop of `ks_pipeline_create_from_nlmsg`. -/
def pipelineAttr (known : Nat → Option Chan) (pipeline : Pipeline) (attr : Attr) : Pipeline :=
  if attr.type = 1 then { pipeline with id := attr.word }
  else if attr.type = 2 then { pipeline with path := some (attr.data.takeWhile (· ≠ 0)) }
  else if attr.type = 3 then { pipeline with status := attr.word }
  else if attr.type = 4 then
    match known attr.word with
    | none => pipeline
    | some chan => pipeline.add chan
  else pipeline

/-- `ks_pipeline_create_from_nlmsg`, for the channels that are known. -/
def pipelineCreateFromNlmsg (known : Nat → Option Chan) (msg : Message) : Pipeline := msg.attrs.foldl (pipelineAttr known) {}

/-- `ks_node_nlh_to_id` and `ks_pipeline_nlh_to_id` -/
def nlhToId (msg : Message) : Nat := ((msg.attrs.find? (·.type = 1)).map Attr.word).getD 0

/-- The objects of a connection, and the pipeline kstool is putting together. -/
structure Library where
  nodes : List Node := []
  pipelines : List Pipeline := []
  own : Pipeline := {}

/-- What appends to the tables or takes them away. Other messages change which features and
channels are known, or fields of their own. -/
inductive Event where
  | nodeNew (known : Nat → Bool) (msg : Message)
  | nodeDel (msg : Message)
  | pipelineNew (known : Nat → Option Chan) (msg : Message)
  | pipelineDel (msg : Message)
  /-- ks_pipeline_alloc -/
  | alloc
  /-- A channel of the description, in the loop of `do_connect`. -/
  | explicit (chan : Chan)
  | autoroute (conn : Router.Conn) (src dst turns : Nat) (r : Routing)
  /-- ks_pipeline_create has added the pipeline to the connection. -/
  | created (id : Nat)

/-- A step; one that does not come back leaves what has been written so far. -/
def step (s : Library) : Event → Except Library Library
  | .nodeNew known msg =>
    match nodeCreateFromNlmsg known msg with
    | .ok node => .ok { s with nodes := s.nodes ++ [node] }
    | .error node => .error { s with nodes := s.nodes ++ [node] }
  | .nodeDel msg => .ok { s with nodes := s.nodes.eraseP (·.id = nlhToId msg) }
  | .pipelineNew known msg =>
    if s.pipelines.any (·.id = nlhToId msg) then .ok s
    else .ok { s with pipelines := s.pipelines ++ [pipelineCreateFromNlmsg known msg] }
  | .pipelineDel msg => .ok { s with pipelines := s.pipelines.eraseP (·.id = nlhToId msg) }
  | .alloc => .ok { s with own := {} }
  | .explicit chan => .ok { s with own := s.own.add chan }
  | .autoroute conn src dst turns r =>
    match pipelineAutoroute conn src dst turns r s.own.table with
    | none => .error s
    | some (table, _) => .ok { s with own := { s.own with table } }
  | .created id => .ok { s with pipelines := s.pipelines ++ [{ s.own with id }] }

/-! ## Inside the arrays -/

/-- The count is at most the size, and nothing has been written behind it. -/
def Inside (size cnt : Nat) (stored : List Nat) : Prop := cnt ≤ size ∧ ∀ i ∈ stored, i < size

def Node.Inside (node : Node) : Prop := Tables.Inside featuresSize node.features_cnt node.stored

def Pipeline.Inside (pipeline : Pipeline) : Prop := Tables.Inside chansSize pipeline.table.chans_cnt pipeline.table.stored

structure Within (s : Library) : Prop where
  nodes : ∀ node ∈ s.nodes, node.Inside
  pipelines : ∀ pipeline ∈ s.pipelines, pipeline.Inside
  own : s.own.Inside

/-- How many known features a message names, up to a second path. -/
def featuresIn (known : Nat → Bool) (path : Bool) : List Attr → Nat
  | [] => 0
  | attr :: attrs =>
    if attr.type = 1 then featuresIn known path attrs
    else if attr.type = 2 then if path then 0 else featuresIn known true attrs
    else featuresIn known path attrs + if known attr.type then 1 else 0

/-- How many known channels a message names. -/
def chansIn (known : Nat → Option Chan) (attrs : List Attr) : Nat :=
  attrs.countP fun attr => attr.type = 4 && (known attr.word).isSome

/-- The tables have room for what an event appends. -/
def Fits (s : Library) : Event → Prop
  | .nodeNew known msg => featuresIn known false msg.attrs ≤ featuresSize
  | .pipelineNew known msg => ¬s.pipelines.any (·.id = nlhToId msg) → chansIn known msg.attrs ≤ chansSize
  | .explicit _ => s.own.table.chans_cnt < chansSize
  | .autoroute conn src dst turns r => ∀ r' nchans, routerRun conn src dst turns r = some r' →
      countHops r' turns dst 0 = some (src, nchans) → s.own.table.chans_cnt + nchans ≤ chansSize
  | _ => True

section Appending
variable {size cnt n : Nat} {stored : List Nat}

/-- Entries written one after the other from the count on. -/
theorem inside_append_iff (inside : Inside size cnt stored) (written : List Nat) (all : written.Perm ((List.range n).map (cnt + ·))) :
    Inside size (cnt + n) (stored ++ written) ↔ cnt + n ≤ size := by
  refine ⟨And.left, fun room => ⟨room, fun i member => ?_⟩⟩
  rcases List.mem_append.mp member with before | new
  · exact inside.2 i before
  · obtain ⟨j, below, rfl⟩ := List.mem_map.mp (all.mem_iff.mp new)
    have := List.mem_range.mp below
    omega

/-- A message about a node appends its features. -/
theorem nodeAttrs_stored (known : Nat → Bool) (attrs : List Attr) : ∀ node : Node,
    match attrs.foldlM (nodeAttr known) node with
    | .ok after | .error after =>
      after.features_cnt = node.features_cnt + featuresIn known node.path.isSome attrs ∧
        after.stored = node.stored ++ (List.range (featuresIn known node.path.isSome attrs)).map (node.features_cnt + ·) := by
  induction attrs with
  | nil =>
    intro node
    exact ⟨rfl, (List.append_nil _).symm⟩
  | cons attr attrs ih =>
    intro node
    rw [List.foldlM_cons, nodeAttr, featuresIn]
    by_cases id : attr.type = 1
    · rw [if_pos id, if_pos id]
      exact ih { node with id := attr.word }
    by_cases path : attr.type = 2
    · rw [if_neg id, if_pos path, if_neg id, if_pos path]
      cases set : node.path.isSome with
      | true => exact ⟨rfl, (List.append_nil _).symm⟩
      | false => exact ih { node with path := some (attr.data.takeWhile (· ≠ 0)) }
    · rw [if_neg id, if_neg path, if_neg id, if_neg path]
      by_cases feature : known attr.type
      · rw [if_pos feature, if_pos feature]
        have next := ih { node with
          features := Function.update node.features node.features_cnt (some attr.type)
          features_cnt := node.features_cnt + 1
          stored := node.stored ++ [node.features_cnt] }
        have shift (n : Nat) : (List.range (n + 1)).map (node.features_cnt + ·) =
            node.features_cnt :: (List.range n).map (node.features_cnt + 1 + ·) := by
          rw [List.range_succ_eq_map, List.map_cons, List.map_map]
          refine congrArg _ (List.map_congr_left fun i _ => ?_)
          simp only [Function.comp_apply]
          omega
        rw [shift]
        simp only [List.append_assoc, List.singleton_append, Nat.add_assoc, Nat.add_comm 1] at next ⊢
        exact next
      · rw [if_neg feature, if_neg feature]
        exact ih node

/-- A message about a pipeline appends its channels. -/
theorem pipelineAttrs_stored (known : Nat → Option Chan) (attrs : List Attr) : ∀ pipeline : Pipeline,
    (attrs.foldl (pipelineAttr known) pipeline).table.chans_cnt = pipeline.table.chans_cnt + chansIn known attrs ∧
      (attrs.foldl (pipelineAttr known) pipeline).table.stored =
        pipeline.table.stored ++ (List.range (chansIn known attrs)).map (pipeline.table.chans_cnt + ·) := by
  induction attrs with
  | nil => exact fun _ => ⟨rfl, (List.append_nil _).symm⟩
  | cons attr attrs ih =>
    intro pipeline
    rw [List.foldl_cons]
    obtain ⟨cnt, stored⟩ := ih (pipelineAttr known pipeline attr)
    rw [cnt, stored]
    by_cases appends : attr.type = 4 ∧ (known attr.word).isSome
    · obtain ⟨type, some⟩ := appends
      obtain ⟨chan, found⟩ := Option.isSome_iff_exists.mp some
      have turn : pipelineAttr known pipeline attr = pipeline.add chan := by simp [pipelineAttr, type, found]
      have more : chansIn known (attr :: attrs) = chansIn known attrs + 1 := by
        rw [chansIn, List.countP_cons_of_pos (by simp [type, some])]
        rfl
      rw [turn, more, List.range_succ_eq_map, List.map_cons, List.map_map]
      simp only [Pipeline.add, Router.Pipeline.store, List.append_assoc]
      refine ⟨by omega, congrArg _ (congrArg _ (List.map_congr_left fun i _ => ?_))⟩
      simp only [Function.comp_apply]
      omega
    · have same : (pipelineAttr known pipeline attr).table = pipeline.table := by
        unfold pipelineAttr
        split_ifs with id path status chan
        · rfl
        · rfl
        · rfl
        · cases found : known attr.word with
          | none => rfl
          | some other => exact absurd ⟨chan, by rw [found]; rfl⟩ appends
        · rfl
      have more : chansIn known (attr :: attrs) = chansIn known attrs := by
        rw [chansIn, List.countP_cons_of_neg (by simpa using appends)]
        rfl
      rw [same, more]
      exact ⟨rfl, rfl⟩

/-- The loop that stores a route takes the turns of the one that counts it. -/
theorem storeHops_stored {r : Routing} (nchans turns : Nat) : ∀ node i k last m (pipeline : Router.Pipeline),
    countHops r turns node k = some (last, k + m) →
    ∃ after, storeHops r nchans turns node i pipeline = some after ∧ after.chans_cnt = pipeline.chans_cnt ∧
      after.stored = pipeline.stored ++ (List.range m).map fun j => pipeline.chans_cnt + nchans - (i + j) - 1 := by
  induction turns with
  | zero => exact fun _ _ _ _ _ _ counted => by cases counted
  | succ turns ih =>
    intro node i k last m pipeline counted
    rw [countHops] at counted
    rw [storeHops]
    cases prev : r.router_prev node with
    | none =>
      rw [prev] at counted
      simp only [Option.some.injEq, Prod.mk.injEq] at counted
      have zero : m = 0 := by omega
      subst zero
      exact ⟨pipeline, rfl, rfl, (List.append_nil _).symm⟩
    | some before =>
      rw [prev] at counted
      have longer : ∀ {turns node k last n}, countHops r turns node k = some (last, n) → k ≤ n := by
        intro turns
        induction turns with
        | zero => exact fun counted => by cases counted
        | succ turns ih =>
          intro node k last n counted
          rw [countHops] at counted
          split at counted
          · cases counted
            exact Nat.le_refl _
          · exact Nat.le_of_succ_le (ih counted)
      have some := longer counted
      obtain ⟨m, rfl⟩ : ∃ n, m = n + 1 := ⟨m - 1, by omega⟩
      obtain ⟨after, stores, cnt, stored⟩ := ih before (i + 1) (k + 1) last m
        (pipeline.store (pipeline.chans_cnt + nchans - i - 1) (r.router_prev_thru node))
        (by rw [Nat.add_assoc, Nat.add_comm 1]; exact counted)
      refine ⟨after, stores, cnt, ?_⟩
      rw [stored, List.range_succ_eq_map, List.map_cons, List.map_map]
      simp only [Router.Pipeline.store, List.append_assoc]
      refine congrArg _ (congrArg _ (List.map_congr_left fun j _ => ?_))
      simp only [Function.comp_apply]
      omega

end Appending

/-! ## One step -/

section Step
variable {s : Library}

theorem within_node_iff (within : Within s) (node : Node) : Within { s with nodes := s.nodes ++ [node] } ↔ node.Inside := by
  constructor
  · intro after
    exact after.nodes node (List.mem_append_right _ (List.mem_singleton_self _))
  · intro inside
    refine ⟨fun other member => ?_, within.pipelines, within.own⟩
    rcases List.mem_append.mp member with before | new
    · exact within.nodes other before
    · rw [List.mem_singleton.mp new]
      exact inside

theorem within_pipeline_iff (within : Within s) (pipeline : Pipeline) :
    Within { s with pipelines := s.pipelines ++ [pipeline] } ↔ pipeline.Inside := by
  constructor
  · intro after
    exact after.pipelines pipeline (List.mem_append_right _ (List.mem_singleton_self _))
  · intro inside
    refine ⟨within.nodes, fun other member => ?_, within.own⟩
    rcases List.mem_append.mp member with before | new
    · exact within.pipelines other before
    · rw [List.mem_singleton.mp new]
      exact inside

theorem within_own_iff (within : Within s) (own : Pipeline) : Within { s with own } ↔ own.Inside :=
  ⟨Within.own, fun inside => ⟨within.nodes, within.pipelines, inside⟩⟩

/-- A table that nothing has been put into. -/
theorem inside_empty (size : Nat) : Inside size 0 [] := ⟨Nat.zero_le _, by simp⟩

theorem within_empty : Within {} := ⟨by simp, by simp, inside_empty _⟩

/-- The node that a message tells about is inside its table if the features are not too many,
whether the message is read to its end or not. -/
theorem node_inside_iff (known : Nat → Bool) (msg : Message) {after : Node}
    (made : nodeCreateFromNlmsg known msg = .ok after ∨ nodeCreateFromNlmsg known msg = .error after) :
    after.Inside ↔ featuresIn known false msg.attrs ≤ featuresSize := by
  have stored := nodeAttrs_stored known msg.attrs {}
  have fields : after.features_cnt = 0 + featuresIn known false msg.attrs ∧
      after.stored = [] ++ (List.range (featuresIn known false msg.attrs)).map (0 + ·) := by
    unfold nodeCreateFromNlmsg at made
    rcases made with made | made
    · rw [made] at stored
      exact stored
    · rw [made] at stored
      exact stored
  unfold Node.Inside
  rw [fields.1, fields.2, inside_append_iff (inside_empty _) _ (.refl _), Nat.zero_add]

/-- The pipeline that a message tells about. -/
theorem pipeline_inside_iff (known : Nat → Option Chan) (msg : Message) :
    (pipelineCreateFromNlmsg known msg).Inside ↔ chansIn known msg.attrs ≤ chansSize := by
  obtain ⟨cnt, stored⟩ := pipelineAttrs_stored known msg.attrs {}
  unfold Pipeline.Inside pipelineCreateFromNlmsg
  rw [cnt, stored, inside_append_iff (inside_empty _) _ (.refl _), Nat.zero_add]

/-- The pipeline that kstool adds a channel to. -/
theorem add_inside_iff {pipeline : Pipeline} (inside : pipeline.Inside) (chan : Chan) :
    (pipeline.add chan).Inside ↔ pipeline.table.chans_cnt < chansSize :=
  inside_append_iff (n := 1) inside [pipeline.table.chans_cnt] (.refl _)

/-- The indices of a route, from the last channel to the first. -/
theorem route_perm (cnt n : Nat) :
    ((List.range n).map fun j => cnt + n - (0 + j) - 1).Perm ((List.range n).map (cnt + ·)) := by
  have backwards : ((List.range n).map fun j => cnt + n - (0 + j) - 1) = ((List.range n).map (cnt + ·)).reverse := by
    refine List.ext_getElem (by simp) fun j below _ => ?_
    simp only [List.length_map, List.length_range] at below
    simp only [List.getElem_map, List.getElem_range, List.getElem_reverse, List.length_map, List.length_range]
    omega
  rw [backwards]
  exact List.reverse_perm _

/-- What the router leaves of a pipeline. -/
theorem autoroute_inside_iff {conn : Router.Conn} {src dst turns : Nat} {r : Routing} {pipeline : Pipeline} (inside : pipeline.Inside)
    {table : Router.Pipeline} {err : Int} (routed : pipelineAutoroute conn src dst turns r pipeline.table = some (table, err)) :
    Pipeline.Inside { pipeline with table } ↔
      ∀ r' nchans, routerRun conn src dst turns r = some r' → countHops r' turns dst 0 = some (src, nchans) →
        pipeline.table.chans_cnt + nchans ≤ chansSize := by
  unfold pipelineAutoroute at routed
  obtain ⟨r', ran, routed⟩ := Option.bind_eq_some_iff.mp routed
  obtain ⟨⟨node, nchans⟩, counted, routed⟩ := Option.bind_eq_some_iff.mp routed
  rw [ran]
  by_cases there : node = src
  · subst there
    obtain ⟨after, stores, cnt, stored⟩ := storeHops_stored nchans turns dst 0 0 node nchans pipeline.table
      (by rw [Nat.zero_add]; exact counted)
    simp only [ne_eq, not_true_eq_false, if_false, stores, Option.bind_eq_bind, Option.bind_some,
      Option.some.injEq, Prod.mk.injEq] at routed
    obtain ⟨rfl, -⟩ := routed
    unfold Pipeline.Inside
    simp only [cnt, stored]
    rw [inside_append_iff inside _ (route_perm _ _)]
    constructor
    · rintro room r'' n same again
      cases same
      rw [counted] at again
      cases again
      exact room
    · exact fun room => room r' nchans rfl counted
  · simp only [ne_eq, there, not_false_eq_true, if_true, Option.some.injEq, Prod.mk.injEq] at routed
    obtain ⟨rfl, -⟩ := routed
    refine ⟨fun _ r'' n same again => ?_, fun _ => inside⟩
    cases same
    rw [counted] at again
    cases again
    exact absurd rfl there

/-- Where a step that comes back ends, and one that does not. -/
def Keeps (result : Except Library Library) : Prop :=
  (∀ t, result = .ok t → Within t) ∧ ∀ fault, result = .error fault → ¬¬Within fault

theorem keeps_ok_iff {result : Except Library Library} {t : Library} (back : result = .ok t) : Keeps result ↔ Within t := by
  subst back
  constructor
  · intro keeps
    exact keeps.1 t rfl
  · intro within
    refine ⟨fun u same => ?_, fun fault failed => (nomatch failed)⟩
    cases same
    exact within

theorem keeps_error_iff {result : Except Library Library} {t : Library} (failed : result = .error t) :
    Keeps result ↔ Within t := by
  subst failed
  constructor
  · intro keeps
    exact not_not.mp (keeps.2 t rfl)
  · intro within
    refine ⟨fun u back => (nomatch back), fun fault same => ?_⟩
    cases same
    exact not_not.mpr within

theorem step_nodeNew (known : Nat → Bool) (msg : Message) :
    step s (.nodeNew known msg) =
      match nodeCreateFromNlmsg known msg with
      | .ok node => .ok { s with nodes := s.nodes ++ [node] }
      | .error node => .error { s with nodes := s.nodes ++ [node] } := by
  rfl

theorem step_pipelineNew (known : Nat → Option Chan) (msg : Message) :
    step s (.pipelineNew known msg) =
      if s.pipelines.any (·.id = nlhToId msg) then .ok s
      else .ok { s with pipelines := s.pipelines ++ [pipelineCreateFromNlmsg known msg] } := by
  rfl

theorem step_autoroute (conn : Router.Conn) (src dst turns : Nat) (r : Routing) :
    step s (.autoroute conn src dst turns r) =
      match pipelineAutoroute conn src dst turns r s.own.table with
      | none => .error s
      | some (table, _) => .ok { s with own := { s.own with table } } := by
  rfl

/-- A step keeps inside the tables exactly if they have room for what it appends. -/
theorem step_within_iff (within : Within s) (e : Event) : Keeps (step s e) ↔ Fits s e := by
  cases e with
  | nodeNew known msg =>
    cases made : nodeCreateFromNlmsg known msg with
    | ok node =>
      have back : step s (.nodeNew known msg) = .ok { s with nodes := s.nodes ++ [node] } := by rw [step_nodeNew, made]
      rw [keeps_ok_iff back, within_node_iff within]
      exact node_inside_iff known msg (.inl made)
    | error node =>
      have failed : step s (.nodeNew known msg) = .error { s with nodes := s.nodes ++ [node] } := by rw [step_nodeNew, made]
      rw [keeps_error_iff failed, within_node_iff within]
      exact node_inside_iff known msg (.inr made)
  | nodeDel msg =>
    have back : step s (.nodeDel msg) = .ok { s with nodes := s.nodes.eraseP (·.id = nlhToId msg) } := rfl
    rw [keeps_ok_iff back]
    exact iff_of_true ⟨fun node member => within.nodes node (List.mem_of_mem_eraseP member), within.pipelines, within.own⟩
      trivial
  | pipelineNew known msg =>
    unfold Fits
    by_cases present : s.pipelines.any (·.id = nlhToId msg)
    · have back : step s (.pipelineNew known msg) = .ok s := by rw [step_pipelineNew, if_pos present]
      rw [keeps_ok_iff back]
      exact iff_of_true within fun absent => absurd present absent
    · have back : step s (.pipelineNew known msg) =
          .ok { s with pipelines := s.pipelines ++ [pipelineCreateFromNlmsg known msg] } := by
        rw [step_pipelineNew, if_neg present]
      rw [keeps_ok_iff back, within_pipeline_iff within, pipeline_inside_iff]
      exact ⟨fun room _ => room, fun room => room present⟩
  | pipelineDel msg =>
    have back : step s (.pipelineDel msg) = .ok { s with pipelines := s.pipelines.eraseP (·.id = nlhToId msg) } := rfl
    rw [keeps_ok_iff back]
    exact iff_of_true
      ⟨within.nodes, fun pipeline member => within.pipelines pipeline (List.mem_of_mem_eraseP member), within.own⟩ trivial
  | alloc =>
    have back : step s (.alloc) = .ok { s with own := {} } := rfl
    rw [keeps_ok_iff back, within_own_iff within]
    exact iff_of_true (inside_empty _) trivial
  | explicit chan =>
    have back : step s (.explicit chan) = .ok { s with own := s.own.add chan } := rfl
    rw [keeps_ok_iff back, within_own_iff within, add_inside_iff within.own]
    rfl
  | autoroute conn src dst turns r =>
    unfold Fits
    cases routed : pipelineAutoroute conn src dst turns r s.own.table with
    | none =>
      have failed : step s (.autoroute conn src dst turns r) = .error s := by rw [step_autoroute, routed]
      rw [keeps_error_iff failed]
      refine iff_of_true within fun r' nchans ran counted => ?_
      -- the second walk takes no more turns than the first
      obtain ⟨after, stores, -⟩ := storeHops_stored nchans turns dst 0 0 src nchans s.own.table
        (by rw [Nat.zero_add]; exact counted)
      simp [pipelineAutoroute, ran, counted, stores] at routed
    | some result =>
      obtain ⟨table, err⟩ := result
      have back : step s (.autoroute conn src dst turns r) = .ok { s with own := { s.own with table } } := by
        rw [step_autoroute, routed]
      rw [keeps_ok_iff back, within_own_iff within]
      exact autoroute_inside_iff within.own routed
  | created id =>
    have back : step s (.created id) = .ok { s with pipelines := s.pipelines ++ [{ s.own with id }] } := rfl
    rw [keeps_ok_iff back, within_pipeline_iff within]
    exact iff_of_true within.own trivial

end Step

/-! ## Runs -/

/-- Along a run, no table overflows exactly if each has room for what the events append to it. -/
theorem tables_hold_iff (es : List Event) :
    (∀ before, before <+: es → ∀ t, before.foldlM step {} = .ok t → Within t) ∧
        (∀ fault, es.foldlM step {} = .error fault → Within fault) ↔
      Throughout (taken step) Fits {} es := by
  rw [← foldlM_good_iff (fun _ => True) Within (fun fault => ¬Within fault)
    (fun _ within => step_within_iff within _) (fun _ _ => trivial) es trivial within_empty]
  simp only [not_not]

/-- kstool connects a pipeline of 33 channels that are all named. -/
theorem channels_without_room : ¬ ∀ es : List Event, ∀ t, es.foldlM step {} = .ok t → Within t := by
  intro all
  have within := all (.alloc :: List.replicate 33 (.explicit { id := 0, «from» := 0, «to» := 1, cost := 0 })) _ rfl
  exact absurd within.own.1 (by decide)

end Vstuff.Libkstreamer.Tables
