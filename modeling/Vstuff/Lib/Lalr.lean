import Mathlib.Data.List.Basic

/-! The driver of a table-driven parser without an error symbol: a token that does not fit is left
out, and only the end of the input makes the parse fail. -/
namespace Lalr
set_option linter.all false

/-- What the tables tell the driver to do. -/
inductive Action (σ ρ : Type) where
  | shift (state : σ)
  | reduce (rule : ρ)
  | error
  | accept
  deriving Repr, DecidableEq

/-- The tables of a parser for the tokens `τ`, and its actions, which make values and work on what
the caller passes on to them. The end of the input is looked up as `none`. -/
structure Parser (τ σ ν ρ μ ε : Type) where
  start : σ
  depth : Nat
  shiftAction : σ → Option τ → Action σ ρ
  reduceAction : σ → ν → Action σ ρ
  lhs : ρ → ν
  nrhs : ρ → Nat
  act : ρ → List μ → ε → μ × ε
  accepted : ε → ε
  failed : ε → ε
  overflowed : ε → ε

/-- What a turn of the driver ends with: it looks at the token once more, or it is through with
it. A stack that is `none` has been given up. -/
inductive Turn (σ μ ε : Type) where
  | again (stack : List (σ × μ)) (extra : ε)
  | finished (stack : Option (List (σ × μ))) (extra : ε)

variable {τ σ ν ρ μ ε : Type}

namespace Parser

variable (p : Parser τ σ ν ρ μ ε)

/-- The state on top of a stack. At its bottom is the first one. -/
def top : List (σ × μ) → σ
  | [] => p.start
  | entry :: _ => entry.1

/-- One entry more, if there is room. -/
def push (stack : List (σ × μ)) (state : σ) (minor : μ) (extra : ε) : Option (List (σ × μ)) × ε :=
  if stack.length + 1 < p.depth then (some ((state, minor) :: stack), extra) else (none, p.overflowed extra)

/-- The entries of a rule give way to its left side. -/
def reduce (stack : List (σ × μ)) (rule : ρ) (extra : ε) : Turn σ μ ε :=
  let (minor, extra) := p.act rule ((stack.take (p.nrhs rule)).reverse.map (·.2)) extra
  let rest := stack.drop (p.nrhs rule)
  match p.reduceAction (p.top rest) (p.lhs rule) with
  | .shift state =>
    match p.push rest state minor extra with
    | (some stack, extra) => .again stack extra
    | (none, extra) => .finished none extra
  | .accept => .finished none (p.accepted extra)
  | _ => .again rest extra

/-- A look at the token. -/
def turn (stack : List (σ × μ)) (major : Option τ) (minor : μ) (extra : ε) : Turn σ μ ε :=
  match p.shiftAction (p.top stack) major with
  | .shift state =>
    match p.push stack state minor extra with
    | (some stack, extra) => if major.isNone then .again stack extra else .finished (some stack) extra
    | (none, extra) => .finished none extra
  | .reduce rule => p.reduce stack rule extra
  | .error => if major.isNone then .finished none (p.failed extra) else .finished (some stack) extra
  | .accept => .finished none (p.accepted extra)

/-- The turns for a token, if they come to an end. -/
def turns : Nat → List (σ × μ) → Option τ → μ → ε → Option (Option (List (σ × μ)) × ε)
  | 0, _, _, _, _ => none
  | fuel + 1, stack, major, minor, extra =>
    match p.turn stack major minor extra with
    | .again stack extra => turns fuel stack major minor extra
    | .finished stack extra => some (stack, extra)

/-- What the driver does with a token. A stack that has been given up is begun anew. -/
def feed (fuel : Nat) (stack : Option (List (σ × μ))) (major : Option τ) (minor : μ) (extra : ε) :
    Option (Option (List (σ × μ)) × ε) :=
  p.turns fuel (stack.getD []) major minor extra

section Turns
variable {p} {stack : List (σ × μ)} {t : τ} {minor : μ} {extra : ε}

theorem turns_shift {state : σ} (fits : p.shiftAction (p.top stack) (some t) = .shift state) (room : stack.length + 1 < p.depth)
    (fuel : Nat) : p.turns (fuel + 1) stack (some t) minor extra = some (some ((state, minor) :: stack), extra) := by
  rw [turns, turn, fits]
  dsimp only
  rw [push, if_pos room]
  rfl

theorem turns_error (unfit : p.shiftAction (p.top stack) (some t) = .error) (fuel : Nat) :
    p.turns (fuel + 1) stack (some t) minor extra = some (some stack, extra) := by
  rw [turns, turn, unfit]
  rfl

theorem turns_end (unfit : p.shiftAction (p.top stack) none = .error) (fuel : Nat) :
    p.turns (fuel + 1) stack none minor extra = some (none, p.failed extra) := by
  rw [turns, turn, unfit]
  rfl

end Turns

/-- More turns change nothing. -/
theorem turns_mono {fuel : Nat} {major : Option τ} {minor : μ} {result : Option (List (σ × μ)) × ε} :
    ∀ {stack : List (σ × μ)} {extra : ε}, p.turns fuel stack major minor extra = some result →
      ∀ more, p.turns (fuel + more) stack major minor extra = some result := by
  induction fuel with
  | zero => exact nofun
  | succ fuel ih =>
    intro stack extra ended more
    rw [Nat.succ_add, turns]
    rw [turns] at ended
    cases turned : p.turn stack major minor extra with
    | again stack' extra' =>
      rw [turned] at ended
      exact ih ended more
    | finished stack' extra' =>
      rw [turned] at ended
      exact ended

theorem feed_mono {fuel fuel' : Nat} (le : fuel ≤ fuel') {stack : Option (List (σ × μ))} {major : Option τ} {minor : μ}
    {extra : ε} {result : Option (List (σ × μ)) × ε} (fed : p.feed fuel stack major minor extra = some result) :
    p.feed fuel' stack major minor extra = some result := by
  obtain ⟨more, rfl⟩ := Nat.exists_eq_add_of_le le
  exact p.turns_mono fed more

end Parser

/-! ## Configurations -/

/-- A machine whose configurations a parser has on its stack between two tokens `κ`. -/
structure Simulation (p : Parser τ σ ν ρ μ ε) (κ γ : Type) where
  major : κ → τ
  minor : κ → μ
  Holds : γ → List (σ × μ) → ε → Prop
  next : γ → κ → γ
  Ended : γ → ε → Prop
  fuel : Nat
  feed : ∀ {c stack extra}, Holds c stack extra → ∀ t, ∃ stack' extra',
    p.feed fuel (some stack) (some (major t)) (minor t) extra = some (some stack', extra') ∧ Holds (next c t) stack' extra'
  feed_end : ∀ {c stack extra}, Holds c stack extra → ∀ m, ∃ extra',
    p.feed fuel (some stack) none m extra = some (none, extra') ∧ Ended c extra'

namespace Simulation

variable {κ γ : Type} {p : Parser τ σ ν ρ μ ε} (l : Simulation p κ γ)

/-- The configuration after some tokens. -/
def after (c : γ) (tokens : List κ) : γ := tokens.foldl l.next c

theorem after_append (c : γ) (tokens tokens' : List κ) : l.after c (tokens ++ tokens') = l.after (l.after c tokens) tokens' :=
  List.foldl_append

variable {c : γ} {stack : List (σ × μ)} {extra : ε}

theorem feed_le {fuel : Nat} (enough : l.fuel ≤ fuel) (holds : l.Holds c stack extra) (t : κ) : ∃ stack' extra',
    p.feed fuel (some stack) (some (l.major t)) (l.minor t) extra = some (some stack', extra') ∧
      l.Holds (l.next c t) stack' extra' := by
  obtain ⟨stack', extra', fed, holds'⟩ := l.feed holds t
  exact ⟨stack', extra', p.feed_mono enough fed, holds'⟩

theorem feed_end_le {fuel : Nat} (enough : l.fuel ≤ fuel) (holds : l.Holds c stack extra) (m : μ) : ∃ extra',
    p.feed fuel (some stack) none m extra = some (none, extra') ∧ l.Ended c extra' := by
  obtain ⟨extra', fed, ended⟩ := l.feed_end holds m
  exact ⟨extra', p.feed_mono enough fed, ended⟩

end Simulation

end Lalr
