import Mathlib.Data.List.Nodup
import Mathlib.Data.List.TakeWhile
import Mathlib.Data.Finset.Card
import Mathlib.Data.Finset.Filter
import Mathlib.Logic.Function.Basic

/-! The timers of libq931: their handlers start and stop one another while `q931_run_timers`
goes over the list (`timer.c`). -/
namespace Vstuff.Q931.TimerRun
set_option linter.all false

/-- `q931_timers`, with `expires` and `pending` of each timer. The list has the pending ones. -/
structure Timers (τ : Type) where
  queue : List τ
  expires : τ → Int
  pending : τ → Bool
  listed : ∀ timer, pending timer = true ↔ timer ∈ queue
  nodup : queue.Nodup

/-- What a handler does to the timers. -/
inductive Action (τ : Type) where
  | start (timer : τ) (expires : Int)
  | stop (timer : τ)
  deriving DecidableEq, Repr

def Action.timer : Action τ → τ
  | .start timer _ => timer
  | .stop timer => timer

def Action.NotBefore (now : Int) : Action τ → Prop
  | .start _ expires => now ≤ expires
  | .stop _ => True

/-- The timers and what else the handlers see. -/
structure World (τ σ : Type) where
  timers : Timers τ
  host : σ

/-- The `func` of each timer: what it starts and stops, each start with an expiry not
before the time of the run. -/
structure Handlers (τ σ : Type) (now : Nat) where
  func : τ → World τ σ → List (Action τ) × σ
  later : ∀ timer world, ∀ action ∈ (func timer world).1, action.NotBefore now

/-- `next_timer` and `next_timer_set`. -/
structure NextTimer where
  value : Int
  isSet : Bool

/-- `longtime_t next_timer = -1; BOOL next_timer_set = FALSE`. -/
def NextTimer.unset : NextTimer := ⟨-1, false⟩

def NextTimer.note (next : NextTimer) (pending : Bool) (expires : Int) : NextTimer :=
  if pending && (!next.isSet || expires < next.value) then ⟨expires, true⟩ else next

/-- What `q931_run_timers` returns. -/
def NextTimer.answer (next : NextTimer) (now : Int) : Int :=
  if next.value = -1 then -1 else next.value - now

/-- A handler that was called, with the timers as they were then and what it did. -/
structure Call (τ : Type) where
  timer : τ
  timers : Timers τ
  actions : List (Action τ)

/-- A run: the handlers called, and how they leave everything. -/
structure Run (τ σ : Type) where
  calls : List (Call τ)
  world : World τ σ
  next : NextTimer

section Code
variable {τ σ : Type} [DecidableEq τ] {now : Nat}

/-- `list_del(&timer->node); timer->pending = FALSE`. -/
def Timers.detach (timers : Timers τ) (timer : τ) : Timers τ where
  queue := timers.queue.erase timer
  expires := timers.expires
  pending := Function.update timers.pending timer false
  listed other := by
    rw [timers.nodup.mem_erase_iff]
    by_cases same : other = timer
    · simp [same]
    · simpa [same] using timers.listed other
  nodup := timers.nodup.erase timer

/-- `q931_start_timer`. The hook `q931_timer_update` only tells the host to run the timers again. -/
def Timers.start (timers : Timers τ) (timer : τ) (expires : Int) : Timers τ where
  queue := if timers.pending timer then timers.queue else timers.queue ++ [timer]
  expires := Function.update timers.expires timer expires
  pending := Function.update timers.pending timer true
  listed other := by
    have there := timers.listed other
    by_cases same : other = timer
    · subst same
      split <;> simp_all
    · split <;> simpa [same] using there
  nodup := by
    split
    · exact timers.nodup
    · rename_i idle
      have absent : timer ∉ timers.queue := fun there => idle ((timers.listed timer).mpr there)
      exact List.nodup_append.mpr ⟨timers.nodup, List.nodup_singleton timer,
        by simpa using fun other there (same : other = timer) => absent (same ▸ there)⟩

/-- `q931_stop_timer`. -/
def Timers.stop (timers : Timers τ) (timer : τ) : Timers τ :=
  if timers.pending timer then timers.detach timer else timers

def Timers.apply (timers : Timers τ) : Action τ → Timers τ
  | .start timer expires => timers.start timer expires
  | .stop timer => timers.stop timer

/-- `timer->func(timer->data)` for a timer taken off the list: what it does. -/
def Handlers.called (handlers : Handlers τ σ now) (timer : τ) (world : World τ σ) : List (Action τ) × σ :=
  handlers.func timer { world with timers := world.timers.detach timer }

/-- The expired timer is taken off the list, and its handler called. -/
def fire (handlers : Handlers τ σ now) (timer : τ) (world : World τ σ) : World τ σ where
  timers := (handlers.called timer world).1.foldl Timers.apply (world.timers.detach timer)
  host := (handlers.called timer world).2

/-- `list_for_each_entry_safe` as far as the first expired timer. -/
def pass (timers : Timers τ) (now : Int) : List τ → NextTimer → Option τ × NextTimer
  | [], next => (none, next)
  | timer :: rest, next =>
    if timers.expires timer < now then (some timer, next)
    else pass timers now rest (next.note (timers.pending timer) (timers.expires timer))

/-- `q931_run_timers` with as many jumps to `retry` as are left. `next_timer` is not set back. -/
def runTimers (handlers : Handlers τ σ now) : Nat → NextTimer → World τ σ → Option (Run τ σ)
  | 0, _, _ => none
  | turns + 1, next, world =>
    match pass world.timers now world.timers.queue next with
    | (none, next) => some ⟨[], world, next⟩
    | (some timer, next) =>
      (runTimers handlers turns next (fire handlers timer world)).map fun run =>
        { run with calls := ⟨timer, world.timers, (handlers.called timer world).1⟩ :: run.calls }

end Code

/-- The timer is pending and has expired. -/
def Due (now : Int) (timers : Timers τ) (timer : τ) : Prop :=
  timers.pending timer = true ∧ timers.expires timer < now

/-- No handler has stopped the timer, or started it anew, before it is reached. -/
def Undisturbed (timer : τ) : List (Call τ) → Prop
  | [] => True
  | call :: calls =>
    call.timer = timer ∨ (∀ action ∈ call.actions, action.timer ≠ timer) ∧ Undisturbed timer calls

/-- The answer is about the timers as they are in the end. -/
structure Announces (now : Int) (timers : Timers τ) (answer : Int) : Prop where
  idle : (∀ timer, timers.pending timer = false) → answer = -1
  next : (∃ timer, timers.pending timer = true) →
    ∃ timer, timers.pending timer = true ∧ answer = timers.expires timer - now ∧
      ∀ other, timers.pending other = true → timers.expires timer ≤ timers.expires other

/-- What a run of the timers does. -/
structure Serves (now : Int) (timers : Timers τ) (run : Run τ σ) : Prop where
  reached : ∀ call ∈ run.calls, Due now call.timers call.timer
  once : (run.calls.map Call.timer).Nodup
  served : ∀ timer, timer ∈ run.calls.map Call.timer ↔ Due now timers timer ∧ Undisturbed timer run.calls
  done : ∀ timer, ¬Due now run.world.timers timer
  announced : Announces now run.world.timers (run.next.answer now)

/-- `q931_run_timers` terminates, and its run does what it should. -/
def RunsTimers [DecidableEq τ] (handlers : Handlers τ σ now) (world : World τ σ) : Prop :=
  ∃ turns run, runTimers handlers turns .unset world = some run ∧ Serves now world.timers run

/-- The calls of the handlers, one first expired timer after the other, whatever is noted
on the way. -/
inductive Course [DecidableEq τ] (handlers : Handlers τ σ now) : World τ σ → List (Call τ) → World τ σ → Prop
  | done {world} (none : world.timers.queue.find? (world.timers.expires · < now) = none) :
      Course handlers world [] world
  | serve {world timer calls last}
      (first : world.timers.queue.find? (world.timers.expires · < now) = some timer)
      (rest : Course handlers (fire handlers timer world) calls last) :
      Course handlers world (⟨timer, world.timers, (handlers.called timer world).1⟩ :: calls) last

/-- The timers ahead of the one whose handler was called, which had not expired. -/
def Call.passed (now : Int) (call : Call τ) : List τ :=
  call.timers.queue.takeWhile fun timer => ¬call.timers.expires timer < now

/-- For every timer passed over on the way to an expired one, a timer remains in the end
that expires no later. -/
def PassedRemain [DecidableEq τ] (handlers : Handlers τ σ now) (world : World τ σ) : Prop :=
  ∀ calls last, Course handlers world calls last → ∀ call ∈ calls, ∀ timer ∈ call.passed now,
    ∃ other, last.timers.pending other = true ∧ last.timers.expires other ≤ call.timers.expires timer

section Calls
variable {τ σ : Type} [DecidableEq τ] {now : Nat} {handlers : Handlers τ σ now}
  {world last : World τ σ} {calls : List (Call τ)} {timers : Timers τ} {timer : τ}

theorem due_detach : Due now (timers.detach timer) other ↔ Due now timers other ∧ timer ≠ other := by
  unfold Due Timers.detach
  by_cases same : other = timer
  · simp [same]
  · simp [same, Ne.symm same]

/-- An action leaves the other expired timers as they are, and its own is not among them. -/
theorem due_apply {action : Action τ} (later : action.NotBefore now) :
    Due now (timers.apply action) other ↔ Due now timers other ∧ action.timer ≠ other := by
  cases action with
  | start timer expires =>
    unfold Due Timers.apply Timers.start Action.timer
    by_cases same : other = timer
    · simpa [same, Action.NotBefore] using later
    · simp [same, Ne.symm same]
  | stop timer =>
    unfold Timers.apply Timers.stop Action.timer
    simp only
    split
    · exact due_detach
    · rename_i idle
      constructor
      · exact fun due => ⟨due, fun same => idle (same ▸ due.1)⟩
      · exact And.left

theorem due_actions {actions : List (Action τ)} (later : ∀ action ∈ actions, action.NotBefore now) :
    Due now (actions.foldl Timers.apply timers) other ↔
      Due now timers other ∧ ∀ action ∈ actions, action.timer ≠ other := by
  induction actions generalizing timers with
  | nil => simp
  | cons action rest ih =>
    rw [List.foldl_cons, ih fun a there => later a (List.mem_cons_of_mem _ there),
      due_apply (later action List.mem_cons_self), and_assoc, List.forall_mem_cons]

/-- After a call, the expired timers are those the handler did not touch. -/
theorem due_fire : Due now (fire handlers timer world).timers other ↔
    Due now world.timers other ∧ timer ≠ other ∧
      ∀ action ∈ (handlers.called timer world).1, action.timer ≠ other := by
  have later : ∀ action ∈ (handlers.called timer world).1, action.NotBefore now := handlers.later timer _
  unfold fire
  rw [due_actions later, due_detach, and_assoc]

omit [DecidableEq τ] in
/-- The first expired timer of the list is pending. -/
theorem due_of_first (first : timers.queue.find? (timers.expires · < now) = some timer) :
    Due now timers timer :=
  ⟨(timers.listed timer).mpr (List.mem_of_find?_eq_some first), by simpa using List.find?_some first⟩

omit [DecidableEq τ] in
theorem not_due_of_none (none : timers.queue.find? (timers.expires · < now) = none) (timer : τ) :
    ¬Due now timers timer := by
  rintro ⟨pending, expired⟩
  have waits := List.find?_eq_none.mp none timer ((timers.listed timer).mp pending)
  exact waits (by simpa using expired)

/-- The handlers called are those of the timers expired in the beginning that none has
touched before. -/
theorem Course.served (course : Course handlers world calls last) :
    (calls.map Call.timer).Nodup ∧
      ∀ timer, timer ∈ calls.map Call.timer ↔ Due now world.timers timer ∧ Undisturbed timer calls := by
  induction course with
  | done none =>
    refine ⟨List.nodup_nil, fun timer => ?_⟩
    simp [not_due_of_none none timer]
  | @serve world expired calls last first rest ih =>
    obtain ⟨once, served⟩ := ih
    constructor
    · refine List.nodup_cons.mpr ⟨fun again => ?_, once⟩
      exact (due_fire.mp ((served _).mp again).1).2.1 rfl
    · intro timer
      rw [List.map_cons, List.mem_cons, served, due_fire, Undisturbed]
      constructor
      · rintro (rfl | ⟨⟨due, -, untouched⟩, later⟩)
        · exact ⟨due_of_first first, .inl rfl⟩
        · exact ⟨due, .inr ⟨untouched, later⟩⟩
      · rintro ⟨due, same | ⟨untouched, later⟩⟩
        · exact .inl same.symm
        · by_cases same : expired = timer
          · exact .inl same.symm
          · exact .inr ⟨⟨due, same, untouched⟩, later⟩

theorem Course.reached (course : Course handlers world calls last) :
    ∀ call ∈ calls, Due now call.timers call.timer := by
  induction course with
  | done => simp
  | serve first rest ih => exact List.forall_mem_cons.mpr ⟨due_of_first first, ih⟩

theorem Course.finished (course : Course handlers world calls last) (timer : τ) :
    ¬Due now last.timers timer := by
  induction course with
  | done none => exact not_due_of_none none timer
  | serve first rest ih => exact ih

/-- The handlers leave no choice. -/
theorem Course.unique (course : Course handlers world calls last) {calls' last'}
    (course' : Course handlers world calls' last') : calls = calls' ∧ last = last' := by
  induction course generalizing calls' with
  | done none =>
    cases course' with
    | done => exact ⟨rfl, rfl⟩
    | serve first => exact nomatch none.symm.trans first
  | serve first rest ih =>
    cases course' with
    | done none => exact nomatch none.symm.trans first
    | serve first' rest' =>
      obtain rfl := Option.some.inj (first.symm.trans first')
      obtain ⟨rfl, rfl⟩ := ih rest'
      exact ⟨rfl, rfl⟩

/-- Each call leaves fewer expired timers. -/
theorem expired_fewer (handlers : Handlers τ σ now)
    (first : world.timers.queue.find? (world.timers.expires · < now) = some timer) :
    ({other ∈ (fire handlers timer world).timers.queue.toFinset |
        (fire handlers timer world).timers.expires other < now} : Finset τ).card <
      ({other ∈ world.timers.queue.toFinset | world.timers.expires other < now} : Finset τ).card := by
  have due := due_of_first first
  apply Finset.card_lt_card
  refine Finset.ssubset_iff_subset_ne.mpr ⟨fun other member => ?_, fun same => ?_⟩
  · have still : Due now (fire handlers timer world).timers other := by
      simpa [Due, Timers.listed] using member
    simpa [Due, Timers.listed] using (due_fire.mp still).1
  · have member : timer ∈ ({other ∈ world.timers.queue.toFinset | world.timers.expires other < now} : Finset τ) := by
      simpa [Due, Timers.listed] using due
    have still : Due now (fire handlers timer world).timers timer := by
      simpa [← same, Due, Timers.listed] using member
    exact (due_fire.mp still).2.1 rfl

end Calls

/-- What `next_timer` is after the expiries it was compared with: the smallest. -/
def NextTimer.Least (next : NextTimer) (seen : List Int) : Prop :=
  next = .unset ∧ seen = [] ∨
    next.isSet = true ∧ next.value ∈ seen ∧ ∀ expires ∈ seen, next.value ≤ expires

theorem NextTimer.Least.note {next : NextTimer} {seen : List Int} (least : next.Least seen) (expires : Int) :
    (next.note true expires).Least (seen ++ [expires]) := by
  right
  rcases least with ⟨rfl, rfl⟩ | ⟨isSet, member, smallest⟩
  · simp [NextTimer.note, NextTimer.unset]
  · by_cases smaller : expires < next.value
    · simp only [NextTimer.note, isSet, smaller]
      refine ⟨rfl, by simp, ?_⟩
      simp only [List.mem_append, List.mem_singleton]
      rintro other (before | rfl)
      · exact le_of_lt (lt_of_lt_of_le smaller (smallest other before))
      · exact le_refl _
    · simp only [NextTimer.note, isSet, smaller]
      refine ⟨isSet, List.mem_append_left _ member, ?_⟩
      simp only [List.mem_append, List.mem_singleton]
      rintro other (before | rfl)
      · exact smallest other before
      · exact not_lt.mp smaller

theorem NextTimer.Least.notes {next : NextTimer} {seen : List Int} (least : next.Least seen)
    (expiries : List Int) :
    (expiries.foldl (NextTimer.note · true) next).Least (seen ++ expiries) := by
  induction expiries generalizing next seen with
  | nil => simpa using least
  | cons expires rest ih => simpa using ih (least.note expires)

/-- The expiries of the timers passed over on the way to the expired ones. -/
def passedExpiries (now : Int) (calls : List (Call τ)) : List Int :=
  calls.flatMap fun call => (call.passed now).map call.timers.expires

section Pass
variable {τ σ : Type} {now : Nat} {timers : Timers τ}

/-- A pass finds the first expired timer, and notes the expiries of those ahead of it. -/
theorem pass_eq (queue : List τ) (pending : ∀ timer ∈ queue, timers.pending timer = true) (next : NextTimer) :
    pass timers now queue next =
      (queue.find? (timers.expires · < now),
        ((queue.takeWhile fun timer => ¬timers.expires timer < now).map timers.expires).foldl
          (NextTimer.note · true) next) := by
  induction queue generalizing next with
  | nil => rfl
  | cons timer rest ih =>
    have here := pending timer List.mem_cons_self
    rw [pass]
    by_cases expired : timers.expires timer < now
    · simp [expired]
    · rw [if_neg expired, ih fun other there => pending other (List.mem_cons_of_mem _ there)]
      simp [not_lt.mp expired, here]

theorem run_course [DecidableEq τ] {handlers : Handlers τ σ now} (turns : Nat) {next : NextTimer}
    {seen : List Int} (least : next.Least seen) {world : World τ σ} {run : Run τ σ}
    (ends : runTimers handlers turns next world = some run) :
    Course handlers world run.calls run.world ∧
      run.next.Least (seen ++ passedExpiries now run.calls ++
        run.world.timers.queue.map run.world.timers.expires) := by
  induction turns generalizing next seen world run with
  | zero => cases ends
  | succ turns ih =>
    rw [runTimers, pass_eq _ fun timer there => (world.timers.listed timer).mpr there] at ends
    cases first : world.timers.queue.find? (world.timers.expires · < now) with
    | none =>
      simp only [first, Option.some.injEq] at ends
      subst ends
      refine ⟨.done first, ?_⟩
      have whole : (world.timers.queue.takeWhile fun timer => ¬world.timers.expires timer < now) =
          world.timers.queue :=
        List.takeWhile_eq_self_iff.mpr (by simpa using first)
      rw [whole]
      simpa [passedExpiries] using least.notes _
    | some timer =>
      simp only [first, Option.map_eq_some_iff] at ends
      obtain ⟨rest, ends, rfl⟩ := ends
      obtain ⟨course, noted⟩ := ih (least.notes _) ends
      refine ⟨.serve first course, ?_⟩
      simpa [passedExpiries, Call.passed] using noted

theorem run_ends [DecidableEq τ] (handlers : Handlers τ σ now) (turns : Nat) (next : NextTimer)
    (world : World τ σ)
    (enough : ({other ∈ world.timers.queue.toFinset | world.timers.expires other < now} : Finset τ).card < turns) :
    ∃ run, runTimers handlers turns next world = some run := by
  induction turns generalizing next world with
  | zero => exact absurd enough (Nat.not_lt_zero _)
  | succ turns ih =>
    rw [runTimers, pass_eq _ fun timer there => (world.timers.listed timer).mpr there]
    cases first : world.timers.queue.find? (world.timers.expires · < now) with
    | none => exact ⟨_, rfl⟩
    | some timer =>
      have fewer := expired_fewer handlers first
      obtain ⟨run, ends⟩ := ih _ (fire handlers timer world) (by omega)
      exact ⟨_, congrArg (Option.map _) ends⟩

/-- The smallest expiry noted is the answer exactly if no smaller one was noted than remains. -/
theorem announces_iff {next : NextTimer} {seen : List Int}
    (least : next.Least (seen ++ timers.queue.map timers.expires)) (waiting : ∀ expires ∈ seen, now ≤ expires)
    (done : ∀ timer, ¬Due now timers timer) :
    Announces now timers (next.answer now) ↔
      ∀ expires ∈ seen, ∃ other, timers.pending other = true ∧ timers.expires other ≤ expires := by
  have left : ∀ timer, timers.pending timer = true → (now : Int) ≤ timers.expires timer :=
    fun timer pending => not_lt.mp fun expired => done timer ⟨pending, expired⟩
  -- No timer that was noted expires at -1, which stands for no timer.
  have late : ∀ expires ∈ seen ++ timers.queue.map timers.expires, (now : Int) ≤ expires := by
    simp only [List.mem_append, List.mem_map]
    rintro expires (before | ⟨timer, there, rfl⟩)
    · exact waiting expires before
    · exact left timer ((timers.listed timer).mpr there)
  have noted : ∀ timer, timers.pending timer = true →
      timers.expires timer ∈ seen ++ timers.queue.map timers.expires :=
    fun timer pending => List.mem_append_right _ (List.mem_map_of_mem ((timers.listed timer).mp pending))
  rcases least with ⟨rfl, nothing⟩ | ⟨isSet, member, smallest⟩
  · obtain ⟨rfl, empty⟩ := List.append_eq_nil_iff.mp nothing
    refine ⟨by simp, fun _ => ⟨fun _ => rfl, fun ⟨timer, pending⟩ => ?_⟩⟩
    simpa [nothing] using noted timer pending
  · have positive := late _ member
    have answer : next.answer now = next.value - now := if_neg (by omega)
    constructor
    · rintro ⟨idle, soonest⟩ expires before
      have below := smallest expires (List.mem_append_left _ before)
      by_cases some : ∃ timer, timers.pending timer = true
      · obtain ⟨timer, pending, same, -⟩ := soonest some
        exact ⟨timer, pending, by omega⟩
      · have wrong := idle (by simpa using some)
        omega
    · intro remain
      have soonest : ∃ timer, timers.pending timer = true ∧ timers.expires timer = next.value := by
        rcases List.mem_append.mp member with before | after
        · obtain ⟨timer, pending, sooner⟩ := remain _ before
          exact ⟨timer, pending, le_antisymm sooner (smallest _ (noted timer pending))⟩
        · obtain ⟨timer, there, same⟩ := List.mem_map.mp after
          exact ⟨timer, (timers.listed timer).mpr there, same⟩
      obtain ⟨timer, pending, same⟩ := soonest
      refine ⟨fun idle => ?_, fun _ => ⟨timer, pending, by rw [answer, same], fun other there => ?_⟩⟩
      · simp [idle timer] at pending
      · rw [same]
        exact smallest _ (noted other there)

end Pass

theorem passed_waiting {call : Call τ} {now : Int} (passed : timer ∈ call.passed now) :
    now ≤ call.timers.expires timer := by
  simpa using List.mem_takeWhile_imp passed

theorem passedExpiries_waiting {calls : List (Call τ)} {now : Int} :
    ∀ expires ∈ passedExpiries now calls, now ≤ expires := by
  unfold passedExpiries
  simp only [List.mem_flatMap, List.mem_map]
  rintro expires ⟨call, -, timer, passed, rfl⟩
  exact passed_waiting passed

/-- The timers are run as they should be exactly if for each timer passed over on the way to
an expired one, a timer that expires no later remains. -/
theorem timers_run_iff [DecidableEq τ] (handlers : Handlers τ σ now) (world : World τ σ) :
    RunsTimers handlers world ↔ PassedRemain handlers world := by
  constructor
  · rintro ⟨turns, run, ends, serves⟩ calls last course call member timer passed
    obtain ⟨ran, least⟩ := run_course turns (.inl ⟨rfl, rfl⟩) ends
    obtain ⟨rfl, rfl⟩ := course.unique ran
    apply (announces_iff least passedExpiries_waiting serves.done).mp serves.announced
    exact List.mem_flatMap.mpr ⟨call, member, List.mem_map_of_mem passed⟩
  · intro remain
    obtain ⟨run, ends⟩ := run_ends handlers _ .unset world (Nat.lt_succ_self _)
    obtain ⟨course, least⟩ := run_course _ (.inl ⟨rfl, rfl⟩) ends
    obtain ⟨once, served⟩ := course.served
    refine ⟨_, run, ends, course.reached, once, served, course.finished, ?_⟩
    refine (announces_iff least passedExpiries_waiting course.finished).mpr fun expires before => ?_
    obtain ⟨call, member, noted⟩ := List.mem_flatMap.mp before
    obtain ⟨timer, passed, rfl⟩ := List.mem_map.mp noted
    exact remain _ _ course call member timer passed

/-- Two timers: the second has expired, and its handler stops the first. -/
def stopsFirst : Handlers Bool Unit 100 where
  func timer _ := (if timer then [.stop false] else [], ())
  later timer world := by
    cases timer <;> simp [Action.NotBefore]

/-- Both are pending, and the first has five to go. -/
def firstWaits : World Bool Unit where
  timers := {
    queue := [false, true]
    expires := fun timer => if timer then 90 else 105
    pending := fun _ => true
    listed := by decide
    nodup := by decide }
  host := ()

/-- No timer is left, and the answer is the time the stopped one would have had to go. -/
theorem stopped_timer_announced : ¬RunsTimers stopsFirst firstWaits := by
  rintro ⟨turns, run, ends, serves⟩
  rcases turns with _ | _ | turns
  · cases ends
  · cases ends
  · obtain rfl := Option.some.inj ends
    have none : (5 : Int) = -1 := serves.announced.idle (by decide)
    exact absurd none (by decide)

end Vstuff.Q931.TimerRun
