import Mathlib.Logic.Basic

/-! Programs that look at and change a shared state one step at a time, and ask an environment for
what they cannot know. Between two steps others may change the state too, as far as a relation
lets them; the assertions on the way have to be stable under it. -/

/-- A program over states `σ` that asks questions `ν` and returns an `α`. -/
inductive Script (σ ν α : Type) : Type where
  | pure (a : α)
  | act (change : σ → σ) (rest : Script σ ν α)
  | look (pick : σ → Script σ ν α)
  | ask (question : ν) (answer : Bool → Script σ ν α)

namespace Script
set_option linter.all false
variable {σ ν α β : Type}

protected def bind : Script σ ν α → (α → Script σ ν β) → Script σ ν β
  | .pure a, f => f a
  | .act change rest, f => .act change (rest.bind f)
  | .look pick, f => .look fun s => (pick s).bind f
  | .ask question answer, f => .ask question fun b => (answer b).bind f

instance : Monad (Script σ ν) where
  pure := .pure
  bind := Script.bind

/-- Changes the state. -/
def modify (change : σ → σ) : Script σ ν Unit := .act change (.pure ())

/-- Reads something of the state. -/
def read (field : σ → α) : Script σ ν α := .look fun s => .pure (field s)

def query (question : ν) : Script σ ν Bool := .ask question .pure

/-- One step, with the answer to the question if it asks one. -/
def step (script : Script σ ν α) (s : σ) (b : Bool) : Option (Script σ ν α × σ) :=
  match script with
  | .pure _ => none
  | .act change rest => some (rest, change s)
  | .look pick => some (pick s, s)
  | .ask _ answer => some (answer b, s)

/-- What the next step asks. -/
def question? : Script σ ν α → Option ν
  | .ask question _ => some question
  | _ => none

/-- The program has returned. -/
def returned : Script σ ν α → Bool
  | .pure _ => true
  | _ => false

section Assertions
variable {rely : σ → σ → Prop} {clean : ν → Bool → Prop} {goal : α → σ → Prop} {s t : σ}
  {script script' : Script σ ν α}

/-- The program ends with the goal, whatever the others do and whichever clean answers it gets. -/
def Leads (rely : σ → σ → Prop) (clean : ν → Bool → Prop) (goal : α → σ → Prop) : Script σ ν α → σ → Prop
  | .pure a, s => goal a s
  | .act change rest, s => ∀ t, rely s t → rest.Leads rely clean goal (change t)
  | .look pick, s => ∀ t, rely s t → (pick t).Leads rely clean goal t
  | .ask question answer, s => ∀ t, rely s t → ∀ b, clean question b → (answer b).Leads rely clean goal t

/-- Others do not harm an assertion. -/
def Stable (rely : σ → σ → Prop) (P : σ → Prop) : Prop := ∀ s t, rely s t → P s → P t

/-- And so does its own next step. -/
theorem Leads.step {b : Bool} (refl : ∀ s, rely s s)
    (answered : ∀ question, script.question? = some question → clean question b)
    (leads : script.Leads rely clean goal s) (took : script.step s b = some (script', t)) :
    script'.Leads rely clean goal t := by
  cases script with
  | pure a => cases took
  | act change rest =>
    cases took
    exact leads s (refl s)
  | look pick =>
    cases took
    exact leads s (refl s)
  | ask question answer =>
    cases took
    exact leads s (refl s) b (answered question rfl)

theorem Leads.returned (leads : script.Leads rely clean goal s) (done : script.returned = true) :
    ∃ a, goal a s := by
  cases script with
  | pure a => exact ⟨a, leads⟩
  | act | look | ask => cases done

/-- A program after another. -/
theorem Leads.bind {R : α → σ → Prop} {f : α → Script σ ν β} {goal : β → σ → Prop}
    (leads : script.Leads rely clean R s) (rest : ∀ a t, R a t → (f a).Leads rely clean goal t) :
    (script >>= f).Leads rely clean goal s := by
  induction script generalizing s with
  | pure a => exact rest a s leads
  | act change script ih => exact fun t others => ih (leads t others)
  | look pick ih => exact fun t others => ih t (leads t others)
  | ask question answer ih => exact fun t others b answered => ih b (leads t others b answered)

theorem Leads.mono {goal' : α → σ → Prop} (leads : script.Leads rely clean goal s)
    (weaker : ∀ a s, goal a s → goal' a s) : script.Leads rely clean goal' s := by
  induction script generalizing s with
  | pure a => exact weaker a s leads
  | act change script ih => exact fun t others => ih (leads t others)
  | look pick ih => exact fun t others => ih t (leads t others)
  | ask question answer ih => exact fun t others b answered => ih b (leads t others b answered)

/-- From states with the one assertion, the program leads to the other. -/
def Triple (rely : σ → σ → Prop) (clean : ν → Bool → Prop) (P : σ → Prop) (script : Script σ ν α)
    (Q : α → σ → Prop) : Prop :=
  ∀ s, P s → script.Leads rely clean Q s

variable {P P' : σ → Prop} {Q R : α → σ → Prop}

theorem Triple.pure (a : α) (held : ∀ s, P s → Q a s) : Triple rely clean P (.pure a : Script σ ν α) Q := held

theorem Triple.modify {Q : Unit → σ → Prop} {change : σ → σ} (stable : Stable rely P)
    (changes : ∀ s, P s → Q () (change s)) : Triple rely clean P (modify change : Script σ ν Unit) Q :=
  fun s held t others => changes t (stable s t others held)

theorem Triple.read {field : σ → α} (stable : Stable rely P) (reads : ∀ s, P s → Q (field s) s) :
    Triple rely clean P (read field : Script σ ν α) Q :=
  fun s held t others => reads t (stable s t others held)

theorem Triple.query {question : ν} {Q : Bool → σ → Prop} (stable : Stable rely P)
    (answers : ∀ b, clean question b → ∀ s, P s → Q b s) :
    Triple rely clean P (query question : Script σ ν Bool) Q :=
  fun s held t others b answered => answers b answered t (stable s t others held)

theorem Triple.bind {f : α → Script σ ν β} {R : β → σ → Prop} (first : Triple rely clean P script Q)
    (rest : ∀ a, Triple rely clean (Q a) (f a) R) : Triple rely clean P (script >>= f) R :=
  fun s held => (first s held).bind fun a t => rest a t

theorem Triple.ite {c : Prop} [Decidable c] (yes : c → Triple rely clean P script Q)
    (no : ¬c → Triple rely clean P script' Q) : Triple rely clean P (if c then script else script') Q := by
  split
  · exact yes ‹c›
  · exact no ‹¬c›

theorem Triple.mono (triple : Triple rely clean P script Q) (stronger : ∀ s, P' s → P s)
    (weaker : ∀ a s, Q a s → R a s) : Triple rely clean P' script R :=
  fun s held => (triple s (stronger s held)).mono weaker

end Assertions

/-- Whatever the program does to the state, the relation allows. -/
def Within (allowed : σ → σ → Prop) : Script σ ν α → Prop
  | .pure _ => True
  | .act change rest => (∀ s, allowed s (change s)) ∧ rest.Within allowed
  | .look pick => ∀ s, (pick s).Within allowed
  | .ask _ answer => ∀ b, (answer b).Within allowed

section Within
variable {allowed : σ → σ → Prop} {script script' : Script σ ν α}

theorem Within.query (question : ν) : (query question : Script σ ν Bool).Within allowed := fun _ => trivial

theorem Within.bind {f : α → Script σ ν β} (first : script.Within allowed) (rest : ∀ a, (f a).Within allowed) :
    (script >>= f).Within allowed := by
  induction script with
  | pure a => exact rest a
  | act change script ih => exact ⟨first.1, ih first.2⟩
  | look pick ih => exact fun s => ih s (first s)
  | ask question answer ih => exact fun b => ih b (first b)

theorem Within.ite {c : Prop} [Decidable c] (yes : script.Within allowed) (no : script'.Within allowed) :
    (if c then script else script').Within allowed := by
  split
  · exact yes
  · exact no

theorem Within.step {s t : σ} {b : Bool}
    (refl : ∀ s, allowed s s) (within : script.Within allowed) (took : script.step s b = some (script', t)) :
    allowed s t ∧ script'.Within allowed := by
  cases script with
  | pure a => cases took
  | act change rest =>
    cases took
    exact ⟨within.1 s, within.2⟩
  | look pick =>
    cases took
    exact ⟨refl s, within s⟩
  | ask question answer =>
    cases took
    exact ⟨refl s, within b⟩

/-- An assertion that no change harms holds all along. -/
theorem Within.triple {rely : σ → σ → Prop} {clean : ν → Bool → Prop} {P : σ → Prop} (stable : Stable rely P)
    (within : script.Within fun s t => P s → P t) : Triple rely clean P script fun _ => P := by
  induction script with
  | pure a => exact fun s held => held
  | act change script ih =>
    exact fun s held t others => ih within.2 _ (within.1 t (stable s t others held))
  | look pick ih => exact fun s held t others => ih t (within t) t (stable s t others held)
  | ask question answer ih =>
    exact fun s held t others b _ => ih b (within b) t (stable s t others held)

end Within

end Script
