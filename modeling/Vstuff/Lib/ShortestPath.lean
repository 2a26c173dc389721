import Mathlib.Algebra.Order.Monoid.WithTop
import Mathlib.Algebra.Order.Group.Nat
import Mathlib.Data.List.Induction
import Mathlib.Algebra.BigOperators.Group.List.Basic
import Mathlib.Logic.Function.Basic
import Mathlib.Algebra.GroupWithZero.Nat

/-! Shortest paths from one vertex. Vertices are settled in the order of their
distances; an arc that leaves a settled vertex is relaxed. The labels then know
the distance of every settled vertex and a path of that length to it. -/
namespace ShortestPath
set_option linter.all false

variable {V A : Type}

/-- A graph with arcs of its own, so that two of them may join the same vertices. -/
structure Graph (V A : Type) where
  arcs : List A
  src : A → V
  dst : A → V
  cost : A → ℕ

/-- The arcs lead from one vertex to another, each beginning where the one before ends. -/
def Graph.Links (g : Graph V A) : V → V → List A → Prop
  | u, v, [] => u = v
  | u, v, a :: path => g.src a = u ∧ g.Links (g.dst a) v path

/-- A path over arcs of the graph. -/
def Graph.Path (g : Graph V A) (u v : V) (path : List A) : Prop := g.Links u v path ∧ ∀ a ∈ path, a ∈ g.arcs

def Graph.length (g : Graph V A) (path : List A) : ℕ := (path.map g.cost).sum

section Paths
variable {g : Graph V A} {u v w : V} {a : A} {path : List A}

theorem links_append {back : List A} : ∀ {u : V},
    g.Links u w (path ++ back) ↔ ∃ v, g.Links u v path ∧ g.Links v w back := by
  induction path with
  | nil => exact fun {u} => ⟨fun links => ⟨u, rfl, links⟩, by rintro ⟨v, rfl, links⟩; exact links⟩
  | cons a path ih =>
    intro u
    rw [List.cons_append, Graph.Links, ih]
    constructor
    · rintro ⟨here, v, front, links⟩
      exact ⟨v, ⟨here, front⟩, links⟩
    · rintro ⟨v, ⟨here, front⟩, links⟩
      exact ⟨here, v, front, links⟩

/-- A path goes on with an arc that leaves its end. -/
theorem Graph.Path.snoc (led : g.Path u v path) (member : a ∈ g.arcs) (leaves : g.src a = v) :
    g.Path u (g.dst a) (path ++ [a]) := by
  refine ⟨links_append.mpr ⟨v, led.1, leaves, rfl⟩, fun b there => ?_⟩
  rcases List.mem_append.mp there with before | last
  · exact led.2 b before
  · exact List.mem_singleton.mp last ▸ member

theorem length_snoc (path : List A) (a : A) : g.length (path ++ [a]) = g.length path + g.cost a := by
  simp [Graph.length]

theorem cast_length_snoc (path : List A) (a : A) :
    ((g.length (path ++ [a]) : ℕ) : WithTop ℕ) = g.length path + g.cost a := by
  rw [length_snoc]
  exact WithTop.coe_add _ _

/-- The vertices a path comes to are those its arcs begin at, but for the first and the last. -/
theorem visited_perm : ∀ {u : V}, g.Links u v path → (u :: path.map g.dst).Perm (v :: path.map g.src) := by
  induction path with
  | nil =>
    intro u links
    cases links
    exact .refl _
  | cons a path ih =>
    intro u links
    obtain ⟨rfl, rest⟩ := links
    rw [List.map_cons, List.map_cons]
    exact ((ih rest).cons _).trans (.swap ..)

end Paths

/-- What is known of the vertices: the length of a path to each, the arc it comes by, and which
vertices are settled, the last one first. -/
structure Labels (V A : Type) where
  dist : V → WithTop ℕ
  via : V → Option A
  settled : List V

variable [DecidableEq V]

/-- No vertex is known but the first. -/
def Labels.start (s : V) : Labels V A where
  dist v := if v = s then 0 else ⊤
  via _ := none
  settled := []

def Labels.settle (l : Labels V A) (u : V) : Labels V A := { l with settled := u :: l.settled }

/-- Takes an arc to its end if that is shorter. -/
def Graph.relax (g : Graph V A) (l : Labels V A) (a : A) : Labels V A :=
  if l.dist (g.src a) + g.cost a < l.dist (g.dst a) then
    { l with
      dist := Function.update l.dist (g.dst a) (l.dist (g.src a) + g.cost a)
      via := Function.update l.via (g.dst a) (some a) }
  else l

/-- What holds of the labels while the arcs of `pending` may still have to be relaxed. -/
structure Inv (g : Graph V A) (s : V) (pending : A → Prop) (l : Labels V A) : Prop where
  start : l.dist s = 0 ∧ l.via s = none
  distinct : l.settled.Nodup
  reached : ∀ v, v ≠ s → (l.via v = none ↔ l.dist v = ⊤)
  via : ∀ v a, l.via v = some a →
    a ∈ g.arcs ∧ g.dst a = v ∧ g.src a ∈ l.settled ∧ l.dist v = l.dist (g.src a) + g.cost a
  order : ∀ later v earlier a, l.settled = later ++ v :: earlier → l.via v = some a → g.src a ∈ earlier
  lower : ∀ u ∈ l.settled, ∀ v, v ∉ l.settled → l.dist u ≤ l.dist v
  relaxed : ∀ a ∈ g.arcs, g.src a ∈ l.settled → ¬pending a → l.dist (g.dst a) ≤ l.dist (g.src a) + g.cost a

section Steps
variable {g : Graph V A} {s u v t : V} {a : A} {l : Labels V A} {pending : A → Prop}

theorem Inv.of_start (g : Graph V A) (s : V) : Inv g s (fun _ => False) (Labels.start s) where
  start := ⟨if_pos rfl, rfl⟩
  distinct := List.nodup_nil
  reached v other := by simp [Labels.start, other]
  via v a known := by cases known
  order later v earlier a all known := by cases known
  lower u member := absurd member List.not_mem_nil
  relaxed a _ member := absurd member List.not_mem_nil

omit [DecidableEq V] in
/-- Settling a vertex that is nearest among those that are not settled. -/
theorem Inv.settle (inv : Inv g s (fun _ => False) l) (fresh : u ∉ l.settled) (nearest : ∀ v, v ∉ l.settled → l.dist u ≤ l.dist v) :
    Inv g s (fun a => g.src a = u) (l.settle u) where
  start := inv.start
  distinct := List.nodup_cons.mpr ⟨fresh, inv.distinct⟩
  reached := inv.reached
  via v a known := by
    obtain ⟨member, ends, begins, length⟩ := inv.via v a known
    exact ⟨member, ends, List.mem_cons_of_mem _ begins, length⟩
  order later v earlier a all known := by
    cases later with
    | nil =>
      cases all
      exact (inv.via _ a known).2.2.1
    | cons first later =>
      obtain ⟨-, rest⟩ := List.cons.inj all
      exact inv.order later v earlier a rest known
  lower x settled v unsettled := by
    obtain ⟨-, open_⟩ := not_or.mp (mt List.mem_cons.mpr unsettled)
    rcases List.mem_cons.mp settled with rfl | before
    · exact nearest v open_
    · exact inv.lower x before v open_
  relaxed a member begins settled := by
    rcases List.mem_cons.mp begins with here | before
    · exact absurd here settled
    · exact inv.relaxed a member before id

/-- Relaxing an arc that leaves a settled vertex none is farther than. -/
theorem Inv.relax (inv : Inv g s pending l) (member : a ∈ g.arcs) (begins : g.src a ∈ l.settled)
    (farthest : ∀ x ∈ l.settled, l.dist x ≤ l.dist (g.src a)) :
    Inv g s (fun b => pending b ∧ b ≠ a) (g.relax l a) ∧ (g.relax l a).settled = l.settled ∧
      ∀ x ∈ l.settled, (g.relax l a).dist x = l.dist x := by
  unfold Graph.relax
  by_cases shorter : l.dist (g.src a) + g.cost a < l.dist (g.dst a)
  · rw [if_pos shorter]
    have far : ∀ x ∈ l.settled, x ≠ g.dst a := by
      rintro x settled rfl
      exact absurd shorter (not_lt.mpr ((farthest _ settled).trans le_self_add))
    have kept (x : V) (settled : x ∈ l.settled) :
        Function.update l.dist (g.dst a) (l.dist (g.src a) + g.cost a) x = l.dist x :=
      Function.update_of_ne (far x settled) _ _
    have not_start : s ≠ g.dst a := by
      intro same
      rw [← same, inv.start.1] at shorter
      exact absurd shorter (not_lt.mpr zero_le)
    refine ⟨⟨?_, inv.distinct, ?_, ?_, ?_, ?_, ?_⟩, rfl, kept⟩
    · exact ⟨(Function.update_of_ne not_start _ _).trans inv.start.1, (Function.update_of_ne not_start _ _).trans inv.start.2⟩
    · intro v other
      by_cases here : v = g.dst a
      · subst here
        simp only [Function.update_self, reduceCtorEq, false_iff]
        exact (lt_of_lt_of_le shorter le_top).ne
      · simp only [Function.update_of_ne here]
        exact inv.reached v other
    · intro v b known
      by_cases here : v = g.dst a
      · subst here
        simp only [Function.update_self, Option.some.injEq] at known ⊢
        subst known
        exact ⟨member, rfl, begins, by rw [kept _ begins]⟩
      · simp only [Function.update_of_ne here] at known ⊢
        obtain ⟨there, ends, settled, length⟩ := inv.via v b known
        exact ⟨there, ends, settled, by rw [kept _ settled, length]⟩
    · intro later v earlier b all known
      have settled : v ∈ l.settled := by
        rw [show l.settled = _ from all]
        simp
      simp only [Function.update_of_ne (far v settled)] at known
      exact inv.order later v earlier b all known
    · intro x settled v unsettled
      simp only [kept x settled]
      by_cases here : v = g.dst a
      · subst here
        rw [Function.update_self]
        exact (farthest x settled).trans le_self_add
      · rw [Function.update_of_ne here]
        exact inv.lower x settled v unsettled
    · intro b there settled done
      simp only [kept _ settled]
      by_cases here : g.dst b = g.dst a
      · rw [here, Function.update_self]
        by_cases same : b = a
        · rw [same]
        · refine shorter.le.trans ?_
          rw [← here]
          exact inv.relaxed b there settled fun still => done ⟨still, same⟩
      · rw [Function.update_of_ne here]
        exact inv.relaxed b there settled fun still => done ⟨still, fun same => here (congrArg g.dst same)⟩
  · rw [if_neg shorter]
    refine ⟨⟨inv.start, inv.distinct, inv.reached, inv.via, inv.order, inv.lower, ?_⟩, rfl, fun _ _ => rfl⟩
    intro b there settled done
    by_cases same : b = a
    · rw [same]
      exact not_lt.mp shorter
    · exact inv.relaxed b there settled fun still => done ⟨still, same⟩

/-- Relaxing arcs one after the other. -/
theorem Inv.relaxAll (inv : Inv g s pending l) (begins : u ∈ l.settled) (farthest : ∀ x ∈ l.settled, l.dist x ≤ l.dist u)
    (arcs : List A) (leave : ∀ a ∈ arcs, a ∈ g.arcs ∧ g.src a = u) :
    Inv g s (fun b => pending b ∧ b ∉ arcs) (arcs.foldl g.relax l) ∧ (arcs.foldl g.relax l).settled = l.settled := by
  induction arcs generalizing l pending with
  | nil => exact ⟨by simpa using inv, rfl⟩
  | cons a arcs ih =>
    obtain ⟨⟨member, from_⟩, leave⟩ := List.forall_mem_cons.mp leave
    obtain ⟨inv, settled, kept⟩ := inv.relax member (from_ ▸ begins) (by rw [from_]; exact farthest)
    have begins' : u ∈ (g.relax l a).settled := by rwa [settled]
    have farthest' : ∀ x ∈ (g.relax l a).settled, (g.relax l a).dist x ≤ (g.relax l a).dist u := by
      intro x there
      rw [settled] at there
      rw [kept x there, kept u begins]
      exact farthest x there
    obtain ⟨inv, settled'⟩ := ih inv begins' farthest' leave
    refine ⟨?_, settled'.trans settled⟩
    rw [List.foldl_cons]
    simpa only [List.mem_cons, not_or, and_assoc] using inv

/-- A turn: the nearest vertex is settled, and the arcs that leave it are relaxed. -/
theorem Inv.turn (inv : Inv g s (fun _ => False) l) (fresh : u ∉ l.settled)
    (nearest : ∀ v, v ∉ l.settled → l.dist u ≤ l.dist v) :
    Inv g s (fun _ => False) ((g.arcs.filter (g.src · = u)).foldl g.relax (l.settle u)) ∧
      ((g.arcs.filter (g.src · = u)).foldl g.relax (l.settle u)).settled = u :: l.settled := by
  have farthest : ∀ x ∈ (l.settle u).settled, (l.settle u).dist x ≤ (l.settle u).dist u := by
    intro x there
    rcases List.mem_cons.mp there with rfl | before
    · exact le_rfl
    · exact inv.lower x before u fresh
  obtain ⟨inv, settled⟩ := (inv.settle fresh nearest).relaxAll List.mem_cons_self farthest (g.arcs.filter (g.src · = u))
    fun a there => by simpa using there
  refine ⟨⟨inv.start, inv.distinct, inv.reached, inv.via, inv.order, inv.lower, ?_⟩, settled⟩
  intro a member begins _
  exact inv.relaxed a member begins fun ⟨here, left⟩ => left (by simpa using ⟨member, here⟩)

end Steps

/-! ## What the labels know -/

omit [DecidableEq V]

section Known
variable {g : Graph V A} {s u v t : V} {a : A} {l : Labels V A} {pending : A → Prop} {path : List A}

/-- A path is at least as long as its end is far, or it comes past a vertex that is not settled. -/
theorem Inv.below (inv : Inv g s (fun _ => False) l) : ∀ {v : V}, g.Path s v path →
    l.dist v ≤ g.length path ∨ ∃ x, x ∉ l.settled ∧ l.dist x ≤ g.length path := by
  induction path using List.reverseRecOn with
  | nil =>
    intro v led
    obtain rfl : s = v := led.1
    exact .inl (by rw [inv.start.1]; exact zero_le)
  | append_singleton path a ih =>
    intro v led
    obtain ⟨w, front, begins, rfl⟩ := links_append.mp led.1
    have member := led.2 a (by simp)
    rw [cast_length_snoc]
    rcases ih ⟨front, fun b there => led.2 b (List.mem_append_left _ there)⟩ with near | ⟨x, unsettled, near⟩
    · by_cases settled : w ∈ l.settled
      · left
        subst begins
        exact (inv.relaxed a member settled id).trans (add_le_add_left near _)
      · exact .inr ⟨w, settled, near.trans le_self_add⟩
    · exact .inr ⟨x, unsettled, near.trans le_self_add⟩

/-- No path to a vertex is shorter than it is far when no vertex that is not settled is nearer. -/
theorem Inv.optimal (inv : Inv g s (fun _ => False) l) (nearest : ∀ v, v ∉ l.settled → l.dist t ≤ l.dist v)
    (led : g.Path s t path) : l.dist t ≤ g.length path := by
  rcases inv.below led with near | ⟨x, unsettled, near⟩
  · exact near
  · exact (nearest x unsettled).trans near

/-- The arcs on the way back from a vertex. -/
def Labels.Back (l : Labels V A) (g : Graph V A) : V → List A → Prop
  | v, [] => l.via v = none
  | v, a :: back => l.via v = some a ∧ l.Back g (g.src a) back

/-- The way back is a path to the vertex, as long as it is far, that comes to no vertex twice. -/
structure Labels.Leads (l : Labels V A) (g : Graph V A) (s v : V) (path : List A) : Prop where
  back : l.Back g v path.reverse
  led : g.Path s v path
  length : l.dist v = g.length path
  distinct : (v :: path.map g.src).Nodup

/-- A vertex that is reached and has no arc is the first one. -/
theorem Inv.leads_start (inv : Inv g s pending l) (finite : l.dist v ≠ ⊤) (known : l.via v = none) : l.Leads g s v [] := by
  obtain rfl : v = s := not_not.mp fun other => finite ((inv.reached v other).mp known)
  exact ⟨known, ⟨rfl, nofun⟩, inv.start.1, List.pairwise_singleton _ v⟩

/-- The way to a vertex leads over the arc it comes by. -/
theorem Inv.leads_via (inv : Inv g s pending l) (known : l.via v = some a) (leads : l.Leads g s (g.src a) path)
    (fresh : v ∉ g.src a :: path.map g.src) : l.Leads g s v (path ++ [a]) := by
  obtain ⟨member, rfl, -, length⟩ := inv.via v a known
  refine ⟨?_, leads.led.snoc member rfl, ?_, ?_⟩
  · rw [List.reverse_append]
    exact ⟨known, leads.back⟩
  · rw [length, leads.length, cast_length_snoc]
  · rw [List.map_append]
    exact ((List.perm_append_singleton _ _).cons _).nodup_iff.mpr (List.nodup_cons.mpr ⟨fresh, leads.distinct⟩)

/-- The vertex in front of one that is reached is reached. -/
theorem Inv.near (inv : Inv g s pending l) (finite : l.dist v ≠ ⊤) (known : l.via v = some a) : l.dist (g.src a) ≠ ⊤ := by
  intro far
  rw [(inv.via v a known).2.2.2, far, WithTop.top_add] at finite
  exact finite rfl

/-- The way to a settled vertex comes past vertices settled before only. -/
theorem Inv.leads_settled (inv : Inv g s pending l) : ∀ (n : ℕ) (later earlier : List V) (v : V), earlier.length < n →
    l.settled = later ++ v :: earlier → l.dist v ≠ ⊤ → ∃ path, l.Leads g s v path ∧ ∀ a ∈ path, g.src a ∈ earlier := by
  intro n
  induction n with
  | zero => exact fun _ _ _ short => absurd short (Nat.not_lt_zero _)
  | succ n ih =>
    intro later earlier v short all finite
    cases known : l.via v with
    | none => exact ⟨[], inv.leads_start finite known, nofun⟩
    | some a =>
      have before := inv.order later v earlier a all known
      have fresh : v ∉ earlier := by
        have distinct := inv.distinct
        rw [all] at distinct
        exact (List.nodup_cons.mp (List.nodup_append.mp distinct).2.1).1
      obtain ⟨mid, earliest, rfl⟩ := List.append_of_mem before
      rw [List.length_append, List.length_cons] at short
      obtain ⟨path, leads, inside⟩ := ih (later ++ v :: mid) earliest (g.src a) (by omega) (by rw [all]; simp)
        (inv.near finite known)
      have past : ∀ b ∈ path, g.src b ∈ mid ++ g.src a :: earliest := fun b on =>
        List.mem_append_right _ (List.mem_cons_of_mem _ (inside b on))
      refine ⟨path ++ [a], inv.leads_via known leads fun there => fresh ?_, fun b on => ?_⟩
      · rcases List.mem_cons.mp there with rfl | further
        · exact before
        · obtain ⟨b, on, rfl⟩ := List.mem_map.mp further
          exact past b on
      · rcases List.mem_append.mp on with front | last
        · exact past b front
        · rw [List.mem_singleton.mp last]
          exact before

/-- The way back from a vertex that is reached. -/
theorem Inv.leads (inv : Inv g s pending l) (finite : l.dist v ≠ ⊤) : ∃ path, l.Leads g s v path := by
  by_cases settled : v ∈ l.settled
  · obtain ⟨later, earlier, all⟩ := List.append_of_mem settled
    obtain ⟨path, leads, -⟩ := inv.leads_settled _ later earlier v (Nat.lt_succ_self _) all finite
    exact ⟨path, leads⟩
  · cases known : l.via v with
    | none => exact ⟨[], inv.leads_start finite known⟩
    | some a =>
      have before := (inv.via v a known).2.2.1
      obtain ⟨later, earlier, all⟩ := List.append_of_mem before
      obtain ⟨path, leads, inside⟩ := inv.leads_settled _ later earlier _ (Nat.lt_succ_self _) all (inv.near finite known)
      refine ⟨path ++ [a], inv.leads_via known leads fun there => settled ?_⟩
      rcases List.mem_cons.mp there with rfl | further
      · exact before
      · obtain ⟨b, on, rfl⟩ := List.mem_map.mp further
        rw [all]
        exact List.mem_append_right _ (List.mem_cons_of_mem _ (inside b on))

/-- No path leads to a vertex that is not reached. -/
theorem Inv.unreached (inv : Inv g s (fun _ => False) l) (nearest : ∀ v, v ∉ l.settled → l.dist t ≤ l.dist v)
    (far : l.dist t = ⊤) : ¬g.Path s t path := by
  intro led
  have near := inv.optimal nearest led
  rw [far] at near
  exact WithTop.coe_ne_top (top_le_iff.mp near)

end Known

end ShortestPath
