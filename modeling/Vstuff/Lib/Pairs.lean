import Vstuff.Lib.Machine
import Mathlib.Logic.Function.Basic
import Mathlib.Data.List.Nodup

/-! Traces of operations that come in pairs, a first one that may be refused
and a second one that takes it back. A monitor reads the trace and keeps what
is in effect; a trace it reads to the end alternates in every pair, and takes
nothing back while something that rests on it is in effect. -/
namespace Pairs
open Transition
set_option linter.all false

variable {κ : Type} [DecidableEq κ] {above : κ → List κ} {up up' : κ → Bool} {key : κ}

inductive Call (κ : Type) where
  | raise (key : κ) (took : Bool)
  | lower (key : κ)
  deriving DecidableEq

def Call.about : Call κ → κ
  | .raise key _ => key
  | .lower key => key

/-- One call, with what rests on its key given by `above`. -/
def observe (above : κ → List κ) (up : κ → Bool) : Call κ → Option (κ → Bool)
  | .raise key took =>
    if up key then none else some (if took then Function.update up key true else up)
  | .lower key =>
    if up key ∧ ∀ o ∈ above key, up o = false then some (Function.update up key false) else none

/-- The monitor reads the calls to the end, from what is in effect before them
to what is in effect after. -/
def Orderly (above : κ → List κ) (up : κ → Bool) (calls : List (Call κ)) (up' : κ → Bool) : Prop :=
  Run (observe above) Any up calls up'

/-- How often the first of the pair was called and took. -/
def raised (key : κ) (calls : List (Call κ)) : Nat := calls.count (.raise key true)

/-- How often the second of the pair was called. -/
def lowered (key : κ) (calls : List (Call κ)) : Nat := calls.count (.lower key)

theorem raised_elsewhere {calls : List (Call κ)} (other : ∀ call ∈ calls, call.about ≠ key) : raised key calls = 0 :=
  List.count_eq_zero.mpr fun member => other _ member rfl

theorem lowered_elsewhere {calls : List (Call κ)} (other : ∀ call ∈ calls, call.about ≠ key) : lowered key calls = 0 :=
  List.count_eq_zero.mpr fun member => other _ member rfl

theorem Orderly.nil : Orderly above up [] up := Run.nil _

theorem Orderly.append {calls calls' : List (Call κ)} {up'' : κ → Bool} (first : Orderly above up calls up')
    (rest : Orderly above up' calls' up'') : Orderly above up (calls ++ calls') up'' :=
  Run.append first rest

theorem Orderly.refused (free : up key = false) : Orderly above up [.raise key false] up := by
  refine .cons trivial ?_ (.nil _)
  simp [observe, free]

theorem Orderly.took (free : up key = false) :
    Orderly above up [.raise key true] (Function.update up key true) := by
  refine .cons trivial ?_ (.nil _)
  simp [observe, free]

theorem Orderly.lower (there : up key = true) (bare : ∀ o ∈ above key, up o = false) :
    Orderly above up [.lower key] (Function.update up key false) := by
  refine .cons trivial ?_ (.nil _)
  simp only [observe]
  rw [if_pos ⟨there, bare⟩]

/-- Every key of the list, none of which was in effect. -/
theorem Orderly.raises {keys : List κ} (nodup : keys.Nodup) (free : ∀ key ∈ keys, up key = false)
    (after : ∀ key, up' key = true ↔ up key = true ∨ key ∈ keys) :
    Orderly above up (keys.map (.raise · true)) up' := by
  induction keys generalizing up with
  | nil =>
    obtain rfl : up' = up := funext fun key => Bool.eq_iff_iff.mpr ((after key).trans (by simp))
    exact Orderly.nil
  | cons key keys ih =>
    obtain ⟨new, nodup⟩ := List.nodup_cons.mp nodup
    refine Orderly.append (Orderly.took (free key List.mem_cons_self)) (ih nodup ?_ ?_)
    · intro other member
      have different : other ≠ key := fun same => new (same ▸ member)
      rw [Function.update_of_ne different]
      exact free other (List.mem_cons_of_mem _ member)
    · intro other
      rw [after]
      by_cases here : other = key
      · simp [here]
      · simp [here]

/-- Every key of the list, all of them in effect and nothing resting on them. -/
theorem Orderly.lowers {keys : List κ} (nodup : keys.Nodup) (there : ∀ key ∈ keys, up key = true)
    (bare : ∀ key ∈ keys, ∀ o ∈ above key, up o = false)
    (after : ∀ key, up' key = true ↔ up key = true ∧ key ∉ keys) : Orderly above up (keys.map .lower) up' := by
  induction keys generalizing up with
  | nil =>
    obtain rfl : up' = up := funext fun key => Bool.eq_iff_iff.mpr ((after key).trans (by simp))
    exact Orderly.nil
  | cons key keys ih =>
    obtain ⟨new, nodup⟩ := List.nodup_cons.mp nodup
    refine Orderly.append (Orderly.lower (there key List.mem_cons_self) (bare key List.mem_cons_self))
      (ih nodup ?_ ?_ ?_)
    · intro other member
      have different : other ≠ key := fun same => new (same ▸ member)
      rw [Function.update_of_ne different]
      exact there other (List.mem_cons_of_mem _ member)
    · intro other member o rests
      by_cases here : o = key
      · rw [here, Function.update_self]
      · rw [Function.update_of_ne here]
        exact bare other (List.mem_cons_of_mem _ member) o rests
    · intro other
      rw [after]
      by_cases here : other = key
      · simp [here]
      · simp [here]

/-- What an orderly trace raised and lowered differ by what it left in effect. -/
theorem Orderly.balance {calls : List (Call κ)} (orderly : Orderly above up calls up') (key : κ) :
    (up key).toNat + raised key calls = (up' key).toNat + lowered key calls := by
  induction orderly with
  | nil => rfl
  | @cons up next up' call calls _ took _ ih =>
    cases call with
    | raise other took' =>
      simp only [observe] at took
      split at took
      · cases took
      rename_i free
      cases took
      by_cases here : other = key
      · subst here
        cases took' with
        | false => simp_all [raised, lowered]
        | true =>
          simp_all [raised, lowered]
          omega
      · cases took' <;> simp_all [raised, lowered, Function.update_of_ne (Ne.symm here)]
    | lower other =>
      simp only [observe] at took
      split at took
      · rename_i there
        cases took
        by_cases here : other = key
        · subst here
          simp_all [raised, lowered]
          omega
        · simp_all [raised, lowered, Function.update_of_ne (Ne.symm here)]
      · cases took

end Pairs
