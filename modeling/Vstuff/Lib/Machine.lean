import Mathlib.Logic.Basic

/-! Runs of an event-driven machine. A step may be refused: the event cannot
happen in that state, or what the program does with it is not defined. A run
records the condition each event met in the state that took it, so that an
invariant can be claimed for the runs that avoid a known defect. -/
namespace Transition
set_option linter.all false

variable {σ ε : Type} {step : σ → ε → Option σ} {ok ok' : σ → ε → Prop} {s t u : σ} {es : List ε}

/-- The events lead from the first state to the last, and each of them met
`ok` in the state that took it. -/
inductive Run (step : σ → ε → Option σ) (ok : σ → ε → Prop) : σ → List ε → σ → Prop where
  | nil (s : σ) : Run step ok s [] s
  | cons {s t u : σ} {e : ε} {es : List ε} (met : ok s e) (took : step s e = some t)
      (rest : Run step ok t es u) : Run step ok s (e :: es) u

/-- No condition on the events: every order the machine accepts. -/
def Any : σ → ε → Prop := fun _ _ => True

instance (s : σ) (e : ε) : Decidable (Any s e) := inferInstanceAs (Decidable True)

theorem Run.append {es' : List ε} (run : Run step ok s es t) (rest : Run step ok t es' u) : Run step ok s (es ++ es') u := by
  induction run with
  | nil => exact rest
  | cons met took _ ih => exact .cons met took (ih rest)

/-- A condition that the events of the run meet as well. -/
theorem Run.imp (run : Run step ok s es t) (meets : ∀ s, ∀ e ∈ es, ok s e → ok' s e) : Run step ok' s es t := by
  induction run with
  | nil => exact .nil _
  | cons met took _ ih =>
    exact .cons (meets _ _ List.mem_cons_self met) took (ih fun s e member => meets s e (List.mem_cons_of_mem _ member))

/-- What one step preserves, a whole run preserves. -/
theorem Run.invariant (inv : σ → Prop)
    (preserved : ∀ {s t e}, inv s → ok s e → step s e = some t → inv t)
    (run : Run step ok s es t) (held : inv s) : inv t := by
  induction run with
  | nil => exact held
  | cons met took _ ih => exact ih (preserved held met took)

/-- Some event of the list has the property in the state that takes it. -/
def Somewhere (step : σ → ε → Option σ) (p : σ → ε → Prop) : σ → List ε → Prop
  | _, [] => False
  | s, e :: es => p s e ∨ (step s e).elim False fun t => Somewhere step p t es

instance Somewhere.decidable (p : σ → ε → Prop) [∀ s e, Decidable (p s e)] (s : σ) (es : List ε) :
    Decidable (Somewhere step p s es) :=
  match es with
  | [] => inferInstanceAs (Decidable False)
  | e :: es =>
    have : Decidable ((step s e).elim False fun t => Somewhere step p t es) :=
      match step s e with
      | none => inferInstanceAs (Decidable False)
      | some t => Somewhere.decidable p t es
    inferInstanceAs (Decidable (_ ∨ _))

theorem Somewhere.mono {p q : σ → ε → Prop} (weaker : ∀ s e, p s e → q s e)
    (there : Somewhere step p s es) : Somewhere step q s es := by
  induction es generalizing s with
  | nil => exact there
  | cons e es ih =>
    obtain here | later := there
    · exact .inl (weaker s e here)
    · refine .inr ?_
      cases took : step s e with
      | none => rw [took] at later; exact later
      | some t => rw [took] at later; exact ih later

/-- What each step preserves or gives up in a known way, a run preserves unless
it happened somewhere. -/
theorem Run.preserved_or_somewhere {p : σ → ε → Prop} (inv : σ → Prop) (good : σ → Prop)
    (preserved : ∀ {s t e}, inv s → ok s e → step s e = some t → inv t)
    (kept : ∀ {s t e}, inv s → ok s e → step s e = some t → good s → good t ∨ p s e)
    (run : Run step ok s es t) (held : inv s) (start : good s) : good t ∨ Somewhere step p s es := by
  induction run with
  | nil => exact .inl start
  | cons met took _ ih =>
    obtain still | here := kept held met took start
    · refine (ih (preserved held met took) still).imp_right fun later => .inr ?_
      rw [took]
      exact later
    · exact .inr (.inl here)

/-- Every event has the property in the state that takes it, as far as they are taken. -/
def Throughout (step : σ → ε → Option σ) (p : σ → ε → Prop) : σ → List ε → Prop
  | _, [] => True
  | s, e :: es => p s e ∧ (step s e).elim True fun t => Throughout step p t es

instance Throughout.decidable (p : σ → ε → Prop) [∀ s e, Decidable (p s e)] (s : σ) (es : List ε) :
    Decidable (Throughout step p s es) :=
  match es with
  | [] => inferInstanceAs (Decidable True)
  | e :: es =>
    have : Decidable ((step s e).elim True fun t => Throughout step p t es) :=
      match step s e with
      | none => inferInstanceAs (Decidable True)
      | some t => Throughout.decidable p t es
    inferInstanceAs (Decidable (_ ∧ _))

theorem Throughout.left {p : σ → ε → Prop} {es' : List ε} (through : Throughout step p s (es ++ es')) :
    Throughout step p s es := by
  induction es generalizing s with
  | nil => trivial
  | cons e es ih =>
    refine ⟨through.1, ?_⟩
    have rest := through.2
    cases took : step s e with
    | none => trivial
    | some t =>
      rw [took] at rest
      exact ih rest

/-- Every state reached is good on the runs of the events that have the property, and on no others. -/
theorem good_iff {p : σ → ε → Prop} (inv good : σ → Prop)
    (kept : ∀ {s e}, inv s → good s → ((∀ t, step s e = some t → good t) ↔ p s e))
    (preserved : ∀ {s t e}, inv s → step s e = some t → inv t) (es : List ε) :
    ∀ {s}, inv s → good s →
      ((∀ before, before <+: es → ∀ t, Run step Any s before t → good t) ↔ Throughout step p s es) := by
  induction es with
  | nil =>
    intro s _ start
    refine ⟨fun _ => trivial, fun _ before nothing t run => ?_⟩
    rw [List.prefix_nil.mp nothing] at run
    cases run
    exact start
  | cons e es ih =>
    intro s held start
    have later {t : σ} (took : step s e = some t) (good_t : good t) :
        (∀ before, before <+: es → ∀ u, Run step Any t before u → good u) ↔ Throughout step p t es :=
      ih (preserved held took) good_t
    constructor
    · intro reached
      have first : ∀ t, step s e = some t → good t :=
        fun t took => reached [e] (by simp) t (.cons trivial took (.nil t))
      refine ⟨(kept held start).mp first, ?_⟩
      cases took : step s e with
      | none => trivial
      | some t =>
        refine (later took (first t took)).mp fun before leads u run => ?_
        exact reached (e :: before) (List.cons_prefix_cons.mpr ⟨rfl, leads⟩) u (.cons trivial took run)
    · rintro ⟨met, through⟩ before leads u run
      cases run with
      | nil => exact start
      | cons _ took rest =>
        obtain ⟨rfl, shorter⟩ := List.cons_prefix_cons.mp leads
        have good_t := (kept held start).mpr met _ took
        rw [took] at through
        exact (later took good_t).mpr through _ shorter u rest

/-- Executes a list of events, refusing those that do not meet the condition. -/
def follow (step : σ → ε → Option σ) (ok : σ → ε → Prop) [∀ s e, Decidable (ok s e)] :
    σ → List ε → Option σ
  | s, [] => some s
  | s, e :: es => if ok s e then (step s e).bind (fun t => follow step ok t es) else none

theorem follow_run (step : σ → ε → Option σ) (ok : σ → ε → Prop) [∀ s e, Decidable (ok s e)]
    (s : σ) (es : List ε) {t : σ} (done : follow step ok s es = some t) : Run step ok s es t := by
  induction es generalizing s with
  | nil =>
    simp only [follow, Option.some.injEq] at done
    subst done
    exact .nil s
  | cons e es ih =>
    simp only [follow] at done
    split at done
    · rename_i met
      obtain ⟨next, took, rest⟩ := Option.bind_eq_some_iff.mp done
      exact .cons met took (ih next rest)
    · cases done

theorem run_follow [∀ s e, Decidable (ok s e)] (run : Run step ok s es t) : follow step ok s es = some t := by
  induction run with
  | nil => rfl
  | cons met took _ ih =>
    rw [follow, if_pos met, took]
    exact ih

/-! ## Machines that can fail -/

variable {φ : Type} {fallible : σ → ε → Except φ σ}

theorem bind_ok {α β : Type} {first : Except φ α} {second : α → Except φ β} {b : β}
    (ok : first >>= second = .ok b) : ∃ a, first = .ok a ∧ second a = .ok b := by
  cases first with
  | error fault => cases ok
  | ok a => exact ⟨a, rfl, ok⟩

/-- The steps that do not fail. -/
def taken (fallible : σ → ε → Except φ σ) (s : σ) (e : ε) : Option σ := (fallible s e).toOption

theorem taken_eq_some {e : ε} : taken fallible s e = some t ↔ fallible s e = .ok t := by
  unfold taken
  cases fallible s e <;> simp [Except.toOption]

/-- A machine whose steps succeed exactly on the events that have the property succeeds
on the runs of such events, with the invariant that makes it so. -/
theorem foldlM_ok_iff {p : σ → ε → Prop} (inv : σ → Prop)
    (succeeds : ∀ {s e}, inv s → ((∃ t, fallible s e = .ok t) ↔ p s e))
    (preserved : ∀ {s t e}, inv s → fallible s e = .ok t → inv t) (es : List ε) :
    ∀ {s}, inv s → ((∃ t, es.foldlM fallible s = .ok t) ↔ Throughout (taken fallible) p s es) := by
  induction es with
  | nil => exact fun _ => ⟨fun _ => trivial, fun _ => ⟨_, rfl⟩⟩
  | cons e es ih =>
    intro s held
    rw [List.foldlM_cons]
    constructor
    · rintro ⟨u, done⟩
      obtain ⟨t, took, rest⟩ := bind_ok done
      refine ⟨(succeeds held).mp ⟨t, took⟩, ?_⟩
      rw [taken_eq_some.mpr took]
      exact (ih (preserved held took)).mp ⟨u, rest⟩
    · rintro ⟨met, through⟩
      obtain ⟨t, took⟩ := (succeeds held).mpr met
      rw [taken_eq_some.mpr took] at through
      obtain ⟨u, rest⟩ := (ih (preserved held took)).mpr through
      exact ⟨u, by rw [took]; exact rest⟩

/-- On the runs of the events that have the property, and on no others, every state
reached is good and the run does not end in a bad failure. -/
theorem foldlM_good_iff {p : σ → ε → Prop} (inv good : σ → Prop) (bad : φ → Prop)
    (kept : ∀ {s e}, inv s → good s →
      ((∀ t, fallible s e = .ok t → good t) ∧ (∀ fault, fallible s e = .error fault → ¬ bad fault) ↔ p s e))
    (preserved : ∀ {s t e}, inv s → fallible s e = .ok t → inv t) (es : List ε) :
    ∀ {s}, inv s → good s →
      ((∀ before, before <+: es → ∀ t, before.foldlM fallible s = .ok t → good t) ∧
        (∀ fault, es.foldlM fallible s = .error fault → ¬ bad fault) ↔ Throughout (taken fallible) p s es) := by
  induction es with
  | nil =>
    intro s _ start
    refine ⟨fun _ => trivial, fun _ => ⟨?_, fun _ failed => by cases failed⟩⟩
    intro before nothing t done
    rw [List.prefix_nil.mp nothing] at done
    cases done
    exact start
  | cons e es ih =>
    intro s held start
    cases step : fallible s e with
    | error fault =>
      have failed : (e :: es).foldlM fallible s = .error fault := by
        rw [List.foldlM_cons, step]
        rfl
      have stopped : taken fallible s e = none := by rw [taken, step]; rfl
      constructor
      · rintro ⟨-, harmless⟩
        refine ⟨(kept held start).mp ⟨fun t took => (by simp [step] at took), ?_⟩, ?_⟩
        · intro other same
          rw [step] at same
          cases same
          exact harmless _ failed
        · rw [stopped]
          trivial
      · rintro ⟨met, -⟩
        refine ⟨?_, ?_⟩
        · intro before leads t done
          cases before with
          | nil =>
            cases done
            exact start
          | cons first rest =>
            obtain ⟨rfl, -⟩ := List.cons_prefix_cons.mp leads
            rw [List.foldlM_cons, step] at done
            cases done
        · intro other same
          rw [failed] at same
          cases same
          exact ((kept held start).mpr met).2 _ step
    | ok t =>
      have whole : (e :: es).foldlM fallible s = es.foldlM fallible t := by
        rw [List.foldlM_cons, step]
        rfl
      have took : taken fallible s e = some t := taken_eq_some.mpr step
      constructor
      · rintro ⟨reached, harmless⟩
        have good_t : good t := reached [e] (by simp) t (by rw [List.foldlM_cons, step]; rfl)
        refine ⟨(kept held start).mp ⟨?_, fun other failed => (by simp [step] at failed)⟩, ?_⟩
        · intro other same
          rw [step] at same
          cases same
          exact good_t
        · rw [took]
          refine (ih (preserved held step) good_t).mp ⟨?_, whole ▸ harmless⟩
          intro before leads u done
          refine reached (e :: before) (List.cons_prefix_cons.mpr ⟨rfl, leads⟩) u ?_
          rw [List.foldlM_cons, step]
          exact done
      · rintro ⟨met, through⟩
        have good_t : good t := ((kept held start).mpr met).1 t step
        rw [took] at through
        obtain ⟨reached, harmless⟩ := (ih (preserved held step) good_t).mpr through
        refine ⟨?_, whole ▸ harmless⟩
        intro before leads u done
        cases before with
        | nil =>
          cases done
          exact start
        | cons first rest =>
          obtain ⟨rfl, shorter⟩ := List.cons_prefix_cons.mp leads
          rw [List.foldlM_cons, step] at done
          exact reached rest shorter u done

end Transition
