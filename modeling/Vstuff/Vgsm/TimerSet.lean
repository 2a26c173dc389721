import Vstuff.Lib.Machine
import Vstuff.Lib.Ring
import Mathlib.Data.List.Pairwise
import Mathlib.Algebra.Ring.Int.Defs

/-! A set of timers of chan_vgsm: its list in the order of expiry, and the handlers
it calls, which start and stop timers of the same set. -/
namespace Vstuff.Vgsm.TimerSet
open Ring Transition
set_option linter.all false

variable {τ : Type}

/-- enum vgsm_timer_action -/
inductive Action where
  | started
  | stopped
  | fired
  deriving Repr, DecidableEq

/-- What goes on when a handler returns. -/
inductive Frame (τ : Type) where
  /-- `vgsm_timer_start` has called the handler of a pending timer. -/
  | startStopped (timer : τ) (expires : Int)
  | startStarted (timer : τ) (expires : Int)
  | stop
  | run (now : Int)
  deriving Repr, DecidableEq

/-- The timers of a set and their list. A timer is started when it is put into the list; `order`
is the number of that time. -/
structure State (τ : Type) where
  links : Links τ
  expires : τ → Int
  pending : τ → Bool
  frames : List (Frame τ) := []
  calls : List (τ × Action) := []
  count : Nat := 0
  order : τ → Nat
  added : τ → Nat
  removed : τ → Nat

/-- What happens: the program or a handler starts or stops a timer, the program runs the set, a
handler returns. -/
inductive Event (τ : Type) where
  | start (timer : τ) (expires : Int)
  | stop (timer : τ)
  | run (now : Int)
  | ret
  deriving Repr, DecidableEq

variable [DecidableEq τ]

/-- `vgsm_timerset_init`, and timers that `vgsm_timer_create` has made. -/
def init : State τ where
  links := Links.empty
  expires := fun _ => 0
  pending := fun _ => false
  order := fun _ => 0
  added := fun _ => 0
  removed := fun _ => 0

namespace State

/-- Calls the handler of a timer, which returns to the frame. -/
def call (s : State τ) (timer : τ) (action : Action) (frame : Frame τ) : State τ :=
  { s with calls := s.calls ++ [(timer, action)], frames := frame :: s.frames }

/-- `timer->pending = TRUE`, when the links have been written. -/
def listed (s : State τ) (timer : τ) (links : Links τ) : State τ :=
  { s with
    links
    pending := Function.update s.pending timer true
    count := s.count + 1
    order := Function.update s.order timer s.count
    added := Function.update s.added timer (s.added timer + 1) }

/-- `list_add_tail`, and `timer->pending = TRUE` -/
def listAddTail (s : State τ) (timer : τ) (after : Loc τ) : Option (State τ) := do
  let links ← s.links.addTail timer after
  some (s.listed timer links)

/-- `list_del`, and `timer->pending = FALSE` -/
def listDel (s : State τ) (timer : τ) : Option (State τ) := do
  let links ← s.links.del timer
  some { s with links, pending := Function.update s.pending timer false }

/-- `_vgsm_timer_add`. The list cannot be longer than there were times something was put into it:
a walk of more turns does not come back. -/
def timerAdd (s : State τ) (timer : τ) (expires : Int) : Option (State τ) := do
  let s := { s with expires := Function.update s.expires timer expires }
  let first ← s.links.next .head
  if first = .head then s.listAddTail timer .head
  else
    match ← s.links.prev .head with
    | .head => none
    | .entry last =>
      if s.expires last ≤ s.expires timer then s.listAddTail timer .head
      else
        match ← s.links.walk (fun timert => s.expires timert > s.expires timer) (s.count + 1) .head with
        | some timert => s.listAddTail timer (.entry timert)
        | none => if s.pending timer then some s else none

/-- `vgsm_timer_start`, until it calls a handler. -/
def timerStart (s : State τ) (timer : τ) (expires : Int) : State τ :=
  if s.pending timer then
    if s.expires timer = expires then s else s.call timer .stopped (.startStopped timer expires)
  else s.call timer .started (.startStarted timer expires)

/-- `vgsm_timer_stop`, until it calls a handler. -/
def timerStop (s : State τ) (timer : τ) : Option (State τ) :=
  if s.pending timer then do
    let s ← s.listDel timer
    some ({ s with removed := Function.update s.removed timer (s.removed timer + 1) }.call timer .stopped .stop)
  else some s

/-- `vgsm_timerset_run` from the label on. -/
def restart (s : State τ) (now : Int) : Option (State τ) := do
  match ← s.links.next .head with
  | .head => some s
  | .entry timer =>
    if s.expires timer < now then do
      let s ← s.listDel timer
      some (s.call timer .fired (.run now))
    else some s

/-- Distances are 64 bits wide. -/
def longtime (n : Int) : Int := (n + 2 ^ 63) % 2 ^ 64 - 2 ^ 63

/-- `vgsm_timerset_next` -/
def timersetNext (s : State τ) (now : Int) : Option Int := do
  match ← s.links.next .head with
  | .head => some (-1)
  | .entry timer => some (max (longtime (s.expires timer - now)) 0)

/-- A handler returns. -/
def resume (s : State τ) : Option (State τ) :=
  match s.frames with
  | [] => none
  | .startStopped timer expires :: frames => do
    let s ← { s with frames }.listDel timer
    some ({ s with removed := Function.update s.removed timer (s.removed timer + 1) }.call timer .started
      (.startStarted timer expires))
  | .startStarted timer expires :: frames => { s with frames }.timerAdd timer expires
  | .stop :: frames => some { s with frames }
  | .run now :: frames => { s with frames }.restart now

end State

/-- The set is run when no handler is running. -/
def step (s : State τ) : Event τ → Option (State τ)
  | .start timer expires => some (s.timerStart timer expires)
  | .stop timer => s.timerStop timer
  | .run now => if s.frames = [] then s.restart now else none
  | .ret => s.resume

/-- The event can happen. -/
def Enabled (s : State τ) : Event τ → Prop
  | .start _ _ | .stop _ => True
  | .run _ => s.frames = []
  | .ret => s.frames ≠ []

/-- A handler that `vgsm_timer_start` has called returns with its own timer as it was: pending when it has
been told that it is stopped, and not pending when it has been told that it is started. -/
def Careful (s : State τ) : Event τ → Prop
  | .ret =>
    match s.frames with
    | .startStopped timer _ :: _ => s.pending timer = true
    | .startStarted timer _ :: _ => s.pending timer = false
    | _ => True
  | _ => True

instance (s : State τ) (e : Event τ) : Decidable (Careful s e) := by
  unfold Careful
  split
  · split <;> infer_instance
  · infer_instance

/-! ## The order of the list -/

/-- The first timer expires before the second, or at the same time and has been started before. -/
def Before (s : State τ) (a b : τ) : Prop := s.expires a < s.expires b ∨ s.expires a = s.expires b ∧ s.order a < s.order b

/-- The list has each pending timer once and no other, sorted; each time a timer has been put into the
list, it has been taken out or fired, or is pending. -/
structure Good (s : State τ) (xs : List τ) : Prop where
  holds : Holds s.links xs
  pending : ∀ t, t ∈ xs ↔ s.pending t = true
  sorted : xs.Pairwise (Before s)
  order : ∀ t ∈ xs, s.order t < s.count
  length : xs.length ≤ s.count
  accounts : ∀ t, s.added t = s.removed t + s.calls.count (t, .fired) + if s.pending t then 1 else 0

variable {s s' : State τ} {xs ys : List τ} {t : τ}

theorem good_init : Good (init : State τ) [] :=
  ⟨holds_empty, by simp [init], List.Pairwise.nil, by simp, Nat.zero_le _, by simp [init]⟩

/-- Frames and calls other than FIRED do not matter. -/
theorem Good.of_eq (good : Good s xs) (links : s'.links = s.links) (expires : s'.expires = s.expires)
    (pending : s'.pending = s.pending) (count : s'.count = s.count) (order : s'.order = s.order)
    (accounts : ∀ t, s'.added t = s'.removed t + s'.calls.count (t, .fired) + if s'.pending t then 1 else 0) : Good s' xs := by
  refine ⟨links ▸ good.holds, pending ▸ good.pending, ?_, ?_, count ▸ good.length, accounts⟩
  · refine good.sorted.imp fun {a b} before => ?_
    unfold Before
    rw [expires, order]
    exact before
  · rw [order, count]
    exact good.order

theorem Good.frames (good : Good s xs) (frames : List (Frame τ)) : Good { s with frames } xs :=
  good.of_eq rfl rfl rfl rfl rfl good.accounts

theorem Good.call (good : Good s xs) (timer : τ) {action : Action} (other : action ≠ .fired) (frame : Frame τ) :
    Good (s.call timer action frame) xs := by
  refine good.of_eq rfl rfl rfl rfl rfl fun t => ?_
  have apart : (t, Action.fired) ∉ [(timer, action)] := by simp [Ne.symm other]
  simp only [State.call, List.count_append, List.count_eq_zero_of_not_mem apart, Nat.add_zero]
  exact good.accounts t

/-- A pending timer can be taken out of the list. -/
theorem Good.listDel (good : Good s xs) (pending : s.pending t = true) :
    ∃ front back links, xs = front ++ t :: back ∧ Holds links (front ++ back) ∧
      s.listDel t = some { s with links, pending := Function.update s.pending t false } := by
  obtain ⟨front, back, rfl⟩ := List.append_of_mem ((good.pending t).mpr pending)
  obtain ⟨links, del, holds⟩ := good.holds.del
  refine ⟨front, back, links, rfl, holds, ?_⟩
  rw [State.listDel, del]
  rfl

theorem Good.removed (good : Good s (xs ++ t :: ys)) {links : Links τ} (holds : Holds links (xs ++ ys))
    {removed : τ → Nat} {calls : List (τ × Action)} {frames : List (Frame τ)}
    (accounts : ∀ u, s.added u = removed u + calls.count (u, .fired) + if Function.update s.pending t false u then 1 else 0) :
    Good { s with links, pending := Function.update s.pending t false, removed, calls, frames } (xs ++ ys) := by
  obtain ⟨apart, nodup⟩ := List.nodup_cons.mp ((List.perm_middle.nodup_iff).mp good.holds.nodup)
  have shorter : (xs ++ ys).Sublist (xs ++ t :: ys) := (List.Sublist.refl xs).append (List.sublist_cons_self t ys)
  refine ⟨holds, fun u => ?_, good.sorted.sublist shorter, fun u there => good.order u (shorter.subset there),
    Nat.le_trans shorter.length_le good.length, accounts⟩
  by_cases here : u = t
  · subst here
    simp only [Function.update_self, Bool.false_eq_true, iff_false]
    exact apart
  · simp only [Function.update_of_ne here]
    rw [← good.pending u]
    simp [here]

/-- A timer that is not in the list is put before a part of it; those in front expire no later, those
behind later. -/
theorem Good.listAddTail (good : Good s (xs ++ ys)) (expires : Int) (idle : s.pending t = false)
    (front : ∀ u ∈ xs, s.expires u ≤ expires) (back : ∀ u ∈ ys, expires < s.expires u) :
    ∃ s', State.listAddTail { s with expires := Function.update s.expires t expires } t (place ys) = some s' ∧
      Good s' (xs ++ t :: ys) ∧ s'.calls = s.calls ∧ s'.frames = s.frames := by
  have new : t ∉ xs ++ ys := by
    rw [good.pending t, idle]
    simp
  obtain ⟨links, add, holds⟩ := good.holds.addTail new
  refine ⟨({ s with expires := Function.update s.expires t expires } : State τ).listed t links, ?_, ?_, rfl, rfl⟩
  · rw [State.listAddTail, add]
    rfl
  have apart {u : τ} (there : u ∈ xs ++ ys) : u ≠ t := fun same => new (same ▸ there)
  have perm : (xs ++ t :: ys).Perm (t :: (xs ++ ys)) := List.perm_middle
  obtain ⟨sorted, sorted', across⟩ := List.pairwise_append.mp good.sorted
  have keeps {a b : τ} (here : a ∈ xs ++ ys) (there : b ∈ xs ++ ys) (before : Before s a b) :
      Function.update s.expires t expires a < Function.update s.expires t expires b ∨
        Function.update s.expires t expires a = Function.update s.expires t expires b ∧
          Function.update s.order t s.count a < Function.update s.order t s.count b := by
    simp only [Function.update_of_ne (apart here), Function.update_of_ne (apart there)]
    exact before
  refine ⟨holds, fun u => ?_, ?_, fun u there => ?_, ?_, fun u => ?_⟩
  · rw [perm.mem_iff]
    by_cases here : u = t
    · subst here
      simp [State.listed]
    · simp only [State.listed, Function.update_of_ne here, List.mem_cons, here, false_or]
      exact good.pending u
  · refine List.pairwise_append.mpr ⟨?_, ?_, ?_⟩
    · refine sorted.imp_of_mem fun here there before => ?_
      exact keeps (List.mem_append_left _ here) (List.mem_append_left _ there) before
    · refine List.pairwise_cons.mpr ⟨fun u there => .inl ?_, ?_⟩
      · simp only [State.listed, Function.update_self, Function.update_of_ne (apart (List.mem_append_right _ there))]
        exact back u there
      · refine sorted'.imp_of_mem fun here there before => ?_
        exact keeps (List.mem_append_right _ here) (List.mem_append_right _ there) before
    · intro a here b there
      have a_apart := apart (List.mem_append_left _ here)
      rcases List.mem_cons.mp there with rfl | there
      · have low := front a here
        have early := good.order a (List.mem_append_left _ here)
        unfold Before
        simp only [State.listed, Function.update_self, Function.update_of_ne a_apart]
        omega
      · exact keeps (List.mem_append_left _ here) (List.mem_append_right _ there) (across a here b there)
  · rcases List.mem_cons.mp (perm.mem_iff.mp there) with rfl | there
    · simp only [State.listed, Function.update_self]
      exact Nat.lt_succ_self _
    · simp only [State.listed, Function.update_of_ne (apart there)]
      exact Nat.lt_succ_of_lt (good.order u there)
  · rw [perm.length_eq, List.length_cons]
    exact Nat.succ_le_succ good.length
  · have accounts := good.accounts u
    by_cases here : u = t
    · subst here
      rw [idle] at accounts
      simp only [State.listed, Function.update_self, Bool.false_eq_true, if_false, if_true] at accounts ⊢
      omega
    · simp only [State.listed, Function.update_of_ne here]
      exact accounts

theorem Good.sorted_le (good : Good s xs) : xs.Pairwise fun a b => s.expires a ≤ s.expires b := by
  refine good.sorted.imp fun before => ?_
  rcases before with less | ⟨same, -⟩
  · exact Int.le_of_lt less
  · exact Int.le_of_eq same

/-- A timer that is not pending is added in its place. -/
theorem Good.timerAdd (good : Good s xs) (idle : s.pending t = false) (expires : Int) :
    ∃ s' ys, s.timerAdd t expires = some s' ∧ Good s' ys ∧ s'.calls = s.calls ∧ s'.frames = s.frames := by
  have new : t ∉ xs := by
    rw [good.pending t, idle]
    simp
  have others {u : τ} (there : u ∈ xs) : Function.update s.expires t expires u = s.expires u := by
    have apart : u ≠ t := fun same => new (same ▸ there)
    exact Function.update_of_ne apart _ _
  unfold State.timerAdd
  -- at the end
  have append (low : ∀ u ∈ xs, s.expires u ≤ expires) : ∃ s',
      State.listAddTail { s with expires := Function.update s.expires t expires } t .head = some s' ∧
        Good s' (xs ++ [t]) ∧ s'.calls = s.calls ∧ s'.frames = s.frames := by
    have good : Good s (xs ++ []) := by rwa [List.append_nil]
    exact good.listAddTail expires idle low (by simp)
  change ∃ s' ys, (s.links.next .head >>= fun first => _) = some s' ∧ _
  rw [good.holds.first]
  rcases List.eq_nil_or_concat xs with rfl | ⟨front, last, rfl⟩
  · obtain ⟨s', add, rest⟩ := append (by simp)
    exact ⟨s', [t], add, rest⟩
  rw [List.concat_eq_append] at *
  have last_there : last ∈ front ++ [last] := by simp
  have start : place (front ++ [last]) ≠ .head := by cases front <;> simp [place]
  change ∃ s' ys, (if place (front ++ [last]) = .head then _ else s.links.prev .head >>= fun last => _) = some s' ∧ _
  rw [if_neg start, good.holds.last]
  change ∃ s' ys, (if Function.update s.expires t expires last ≤ Function.update s.expires t expires t then _
    else s.links.walk _ (s.count + 1) .head >>= fun found => _) = some s' ∧ _
  rw [others last_there, Function.update_self]
  by_cases late : s.expires last ≤ expires
  · rw [if_pos late]
    obtain ⟨s', add, rest⟩ := append fun u there => by
      rcases List.mem_append.mp there with there | there
      · have := (List.pairwise_append.mp good.sorted_le).2.2 u there last List.mem_cons_self
        omega
      · rw [List.mem_singleton.mp there]
        exact late
    exact ⟨s', _, add, rest⟩
  -- before the first that expires later
  rw [if_neg late, good.holds.path.walk _ (Nat.lt_succ_of_le good.length)]
  cases found : (front ++ [last]).find? fun timert =>
      decide (Function.update s.expires t expires timert > Function.update s.expires t expires t) with
  | none =>
    have := List.find?_eq_none.mp found last last_there
    rw [others last_there, Function.update_self] at this
    exact absurd (by simpa using late) this
  | some timert =>
    obtain ⟨later, before, after, split, early⟩ := List.find?_eq_some_iff_append.mp found
    rw [split] at good others
    have timert_there : timert ∈ before ++ timert :: after := by simp
    rw [others timert_there, Function.update_self] at later
    obtain ⟨s', add, rest⟩ := good.listAddTail expires idle (fun u there => by
      have low := early u there
      rw [others (List.mem_append_left _ there), Function.update_self] at low
      simpa using low) fun u there => by
      have high : expires < s.expires timert := by simpa using later
      rcases List.mem_cons.mp there with rfl | there
      · exact high
      · have := (List.pairwise_cons.mp (List.pairwise_append.mp good.sorted_le).2.1).1 u there
        omega
    exact ⟨s', _, add, rest⟩

/-! ## One step -/

/-- A turn of the loop: the handler of the pending timer that comes first is called if it has expired by
now, and otherwise no pending timer has. -/
def FiresFirst (s : State τ) (now : Int) (frames : List (Frame τ)) (s' : State τ) : Prop :=
  (∃ t, s.pending t = true ∧ s.expires t < now ∧ (∀ u, s.pending u = true → u ≠ t → Before s t u) ∧
      s'.calls = s.calls ++ [(t, .fired)] ∧ s'.pending = Function.update s.pending t false ∧ s'.frames = .run now :: frames) ∨
    (∀ t, s.pending t = true → now ≤ s.expires t) ∧ s' = { s with frames }

/-- No handler is called with FIRED. -/
def Quiet (s s' : State τ) : Prop := ∀ t, s'.calls.count (t, .fired) = s.calls.count (t, .fired)

/-- Handlers are called with FIRED in the turns of the loop, and in no other step. -/
def Turn (s : State τ) (e : Event τ) (s' : State τ) : Prop :=
  match e with
  | .run now => FiresFirst s now s.frames s'
  | .ret =>
    match s.frames with
    | .run now :: frames => FiresFirst s now frames s'
    | _ => Quiet s s'
  | _ => Quiet s s'

theorem quiet_call (s : State τ) (timer : τ) {action : Action} (other : action ≠ .fired) (frame : Frame τ) :
    Quiet s (s.call timer action frame) := by
  intro t
  have apart : (t, Action.fired) ∉ [(timer, action)] := by simp [Ne.symm other]
  simp only [State.call, List.count_append, List.count_eq_zero_of_not_mem apart, Nat.add_zero]

/-- A pending timer is taken out of the list, and its handler is called with another action than FIRED. -/
theorem Good.stopped (good : Good s xs) (pending : s.pending t = true) {action : Action} (other : action ≠ .fired)
    (frame : Frame τ) : ∃ s' ys, s.listDel t = some s' ∧
      Good (State.call { s' with removed := Function.update s'.removed t (s'.removed t + 1) } t action frame) ys ∧
      Quiet s (State.call { s' with removed := Function.update s'.removed t (s'.removed t + 1) } t action frame) := by
  obtain ⟨front, back, links, rfl, holds, del⟩ := good.listDel pending
  refine ⟨_, front ++ back, del, good.removed holds fun u => ?_, quiet_call { s with
    links, pending := Function.update s.pending t false, removed := Function.update s.removed t (s.removed t + 1) } t other frame⟩
  have accounts := good.accounts u
  have apart : (u, Action.fired) ∉ [(t, action)] := by simp [Ne.symm other]
  rw [List.count_append, List.count_eq_zero_of_not_mem apart]
  by_cases here : u = t
  · subst here
    rw [pending] at accounts
    simp only [Function.update_self, Bool.false_eq_true, if_false, if_true] at accounts ⊢
    omega
  · simp only [Function.update_of_ne here]
    omega

theorem Good.timerStop (good : Good s xs) (t : τ) : ∃ s' ys, s.timerStop t = some s' ∧ Good s' ys ∧ Quiet s s' := by
  unfold State.timerStop
  by_cases pending : s.pending t = true
  · obtain ⟨s', ys, del, good', quiet⟩ := good.stopped pending (show Action.stopped ≠ .fired by decide) .stop
    rw [if_pos pending, del]
    exact ⟨_, ys, rfl, good', quiet⟩
  · rw [if_neg pending]
    exact ⟨s, xs, rfl, good, fun _ => rfl⟩

theorem Good.timerStart (good : Good s xs) (t : τ) (expires : Int) :
    ∃ ys, Good (s.timerStart t expires) ys ∧ Quiet s (s.timerStart t expires) := by
  unfold State.timerStart
  split_ifs
  · exact ⟨xs, good, fun _ => rfl⟩
  · exact ⟨xs, good.call t (by decide) _, quiet_call s t (by decide) _⟩
  · exact ⟨xs, good.call t (by decide) _, quiet_call s t (by decide) _⟩

/-- A turn of the loop of `vgsm_timerset_run`. -/
theorem Good.restart (good : Good s xs) (now : Int) (frames : List (Frame τ)) :
    ∃ s' ys, State.restart { s with frames } now = some s' ∧ Good s' ys ∧ FiresFirst s now frames s' := by
  unfold State.restart
  change ∃ s' ys, (s.links.next .head >>= fun first => _) = some s' ∧ _
  rw [good.holds.first]
  cases xs with
  | nil =>
    refine ⟨{ s with frames }, [], rfl, good.frames frames, .inr ⟨fun t pending => ?_, rfl⟩⟩
    exact absurd ((good.pending t).mpr pending) List.not_mem_nil
  | cons t xs =>
    obtain ⟨first, -⟩ := List.pairwise_cons.mp good.sorted
    have others (u : τ) (pending : s.pending u = true) (other : u ≠ t) : Before s t u :=
      first u ((List.mem_cons.mp ((good.pending u).mpr pending)).resolve_left other)
    have pending : s.pending t = true := (good.pending t).mp List.mem_cons_self
    change ∃ s' ys, (if s.expires t < now then State.listDel { s with frames } t >>= fun s =>
      some (s.call t .fired (.run now)) else some { s with frames }) = some s' ∧ _
    by_cases expired : s.expires t < now
    · have good : Good s ([] ++ t :: xs) := good
      obtain ⟨links, del, holds⟩ := good.holds.del
      have taken : State.listDel { s with frames } t =
          some { s with links, pending := Function.update s.pending t false, frames } := by
        rw [State.listDel, del]
        rfl
      rw [if_pos expired, taken]
      refine ⟨_, xs, rfl, ?_, .inl ⟨t, pending, expired, others, rfl, rfl, rfl⟩⟩
      refine good.removed holds fun u => ?_
      have accounts := good.accounts u
      rw [List.count_append]
      by_cases here : u = t
      · subst here
        rw [pending] at accounts
        simp only [Function.update_self, Bool.false_eq_true, if_false, if_true, List.count_singleton_self] at accounts ⊢
        omega
      · rw [List.count_eq_zero_of_not_mem (l := [(t, Action.fired)]) (by simpa using here)]
        simp only [Function.update_of_ne here]
        omega
    · rw [if_neg expired]
      refine ⟨_, t :: xs, rfl, good.frames frames, .inr ⟨fun u pending => ?_, rfl⟩⟩
      by_cases here : u = t
      · subst here
        omega
      · rcases others u pending here with later | ⟨same, -⟩
        · omega
        · omega

/-- A handler returns as it should. -/
theorem Good.resume (good : Good s xs) (running : s.frames ≠ []) (careful : Careful s .ret) :
    ∃ s' ys, s.resume = some s' ∧ Good s' ys ∧ Turn s .ret s' := by
  unfold State.resume Turn
  unfold Careful at careful
  cases stack : s.frames with
  | nil => exact absurd stack running
  | cons frame frames =>
    rw [stack] at careful
    cases frame with
    | startStopped t expires =>
      obtain ⟨s', ys, del, good', quiet⟩ :=
        (good.frames frames).stopped (t := t) careful (show Action.started ≠ .fired by decide) (.startStarted t expires)
      refine ⟨_, ys, ?_, good', quiet⟩
      change (State.listDel { s with frames } t >>= fun s => _) = _
      rw [del]
      rfl
    | startStarted t expires =>
      obtain ⟨s', ys, add, good', calls, -⟩ := (good.frames frames).timerAdd (t := t) careful expires
      exact ⟨s', ys, add, good', fun u => by rw [calls]⟩
    | stop => exact ⟨_, xs, rfl, good.frames frames, fun _ => rfl⟩
    | run now => exact good.restart now frames

/-- A careful step. -/
theorem Good.step (good : Good s xs) {e : Event τ} (enabled : Enabled s e) (careful : Careful s e) :
    ∃ s' ys, step s e = some s' ∧ Good s' ys ∧ Turn s e s' := by
  cases e with
  | start t expires =>
    obtain ⟨ys, good', quiet⟩ := good.timerStart t expires
    exact ⟨_, ys, rfl, good', quiet⟩
  | stop t => exact good.timerStop t
  | run now =>
    obtain ⟨s', ys, ran, rest⟩ := good.restart now s.frames
    exact ⟨s', ys, (if_pos enabled).trans ran, rest⟩
  | ret => exact good.resume enabled careful

theorem enabled_of_step {e : Event τ} (took : step s e = some s') : Enabled s e := by
  cases e with
  | start => trivial
  | stop => trivial
  | run now =>
    by_contra running
    have idle : ¬s.frames = [] := running
    rw [step, if_neg idle] at took
    cases took
  | ret =>
    intro nothing
    change s.resume = some s' at took
    rw [State.resume, nothing] at took
    cases took

/-! ## Runs -/

/-- The pending timer that expires first does so less than 2^63 from now. -/
def Near (s : State τ) (now : Int) : Prop :=
  ∀ t, s.pending t = true → (∀ u, s.pending u = true → s.expires t ≤ s.expires u) →
    -2 ^ 63 ≤ s.expires t - now ∧ s.expires t - now < 2 ^ 63

/-- How far the first expiry is. -/
def Distance (s : State τ) (now next : Int) : Prop :=
  (∀ t, s.pending t = false) ∧ next = -1 ∨
    ∃ t, s.pending t = true ∧ (∀ u, s.pending u = true → s.expires t ≤ s.expires u) ∧ next = max (s.expires t - now) 0

theorem Good.timersetNext (good : Good s xs) {now : Int} (near : Near s now) :
    ∃ next, s.timersetNext now = some next ∧ Distance s now next := by
  unfold State.timersetNext
  rw [good.holds.first]
  cases xs with
  | nil =>
    refine ⟨-1, rfl, .inl ⟨fun t => ?_, rfl⟩⟩
    cases pending : s.pending t with
    | false => rfl
    | true => exact absurd ((good.pending t).mpr pending) List.not_mem_nil
  | cons t xs =>
    have pending : s.pending t = true := (good.pending t).mp List.mem_cons_self
    have first (u : τ) (pending : s.pending u = true) : s.expires t ≤ s.expires u := by
      rcases List.mem_cons.mp ((good.pending u).mpr pending) with rfl | there
      · exact Int.le_refl _
      · exact (List.pairwise_cons.mp good.sorted_le).1 u there
    obtain ⟨low, high⟩ := near t pending first
    refine ⟨max (State.longtime (s.expires t - now)) 0, rfl, .inr ⟨t, pending, first, ?_⟩⟩
    unfold State.longtime
    rw [Int.emod_eq_of_lt (by omega) (by omega), Int.add_sub_cancel]

theorem good_of_run {es : List (Event τ)} (run : Run step Careful init es s) : ∃ xs, Good s xs := by
  refine run.invariant (fun s => ∃ xs, Good s xs) ?_ ⟨[], good_init⟩
  rintro s t e ⟨xs, good⟩ careful took
  obtain ⟨s', ys, took', good', -⟩ := good.step (enabled_of_step took) careful
  rw [took] at took'
  cases took'
  exact ⟨ys, good'⟩

/-- In every run in which the handlers that `vgsm_timer_start` calls leave their own timer as it is, the
list is in order, each turn fires the timer that is due first, and the time to wait is right. -/
theorem timers_in_order_of_run {es : List (Event τ)} (run : Run step Careful init es s) :
    (∃ xs, Good s xs) ∧
      (∀ e, Enabled s e → Careful s e → ∃ s', step s e = some s' ∧ Turn s e s') ∧
      ∀ now, Near s now → ∃ next, s.timersetNext now = some next ∧ Distance s now next := by
  obtain ⟨xs, good⟩ := good_of_run run
  refine ⟨⟨xs, good⟩, fun e enabled careful => ?_, fun now near => good.timersetNext near⟩
  obtain ⟨s', ys, took, -, turn⟩ := good.step enabled careful
  exact ⟨s', took, turn⟩

/-- Two timers are started, and the set is run when both have expired. -/
def both : List (Event Nat) := [.start 0 5, .ret, .start 1 3, .ret, .run 10, .ret, .ret]

theorem both_fire_in_order : ∃ s : State Nat, (∃ xs, Good s xs) ∧ s.calls = [(0, .started), (1, .started), (1, .fired), (0, .fired)] := by
  obtain ⟨s, done⟩ : ∃ s, follow step Careful (init : State Nat) both = some s := Option.isSome_iff_exists.mp (by decide)
  refine ⟨s, (timers_in_order_of_run (follow_run step Careful init both done)).1, ?_⟩
  have calls : (follow step Careful (init : State Nat) both).map State.calls =
      some [(0, .started), (1, .started), (1, .fired), (0, .fired)] := by decide
  rw [done] at calls
  exact Option.some.inj calls

/-- A timer whose handler starts it once more when it is told that it is started is put into the list
twice: the entry is its own neighbour. -/
theorem started_twice : ¬ ∀ (es : List (Event Nat)) (s : State Nat), Run step Any init es s → ∃ xs, Good s xs := by
  intro all
  obtain ⟨s, done⟩ : ∃ s, follow step Any (init : State Nat) [.start 0 5, .start 0 6, .ret, .ret] = some s :=
    Option.isSome_iff_exists.mp (by decide)
  obtain ⟨xs, good⟩ := all _ _ (follow_run step Any init _ done)
  have links : (follow step Any (init : State Nat) [.start 0 5, .start 0 6, .ret, .ret]).map
      (fun s => (s.links.next .head, s.links.next (.entry 0))) = some (some (.entry 0), some (.entry 0)) := by decide
  rw [done] at links
  obtain ⟨first, own⟩ := Prod.mk.inj (Option.some.inj links)
  cases xs with
  | nil => exact absurd (first.symm.trans good.holds.first) (by decide)
  | cons x xs =>
    obtain rfl : x = 0 := by
      have := first.symm.trans good.holds.first
      simpa [place] using this.symm
    have apart := (List.nodup_cons.mp good.holds.nodup).1
    cases xs with
    | nil => exact absurd (own.symm.trans good.holds.path.2.1) (by decide)
    | cons y ys =>
      have same := own.symm.trans good.holds.path.2.1.1
      simp only [Option.some.injEq, Loc.entry.injEq] at same
      exact apart (same ▸ List.mem_cons_self)

end Vstuff.Vgsm.TimerSet
