import Mathlib.Data.List.Basic

/-! A reader that takes what it can from the front of a buffer as soon as it can tell what
it is. If more to come does not change what was told, it does not matter in which pieces
the input arrives. -/
namespace Chunks
set_option linter.all false

variable {σ β : Type}

/-- The reader takes something when it acts, nothing that is not there, and the same when
more has arrived. -/
structure Stable (act : σ → List β → Option (σ × Nat)) : Prop where
  progress : ∀ {s b t n}, act s b = some (t, n) → 0 < n
  inside : ∀ {s b t n}, act s b = some (t, n) → n ≤ b.length
  stable : ∀ {s b t n}, act s b = some (t, n) → ∀ more, act s (b ++ more) = some (t, n)

/-- The reader acts as long as it can. -/
inductive Settles (act : σ → List β → Option (σ × Nat)) : σ → List β → σ → List β → Prop where
  | done {s : σ} {b : List β} (waits : act s b = none) : Settles act s b s b
  | more {s t u : σ} {b r : List β} {n : Nat} (acts : act s b = some (t, n))
      (rest : Settles act t (b.drop n) u r) : Settles act s b u r

variable {act : σ → List β → Option (σ × Nat)} {s t u : σ} {b r v more : List β} {n : Nat}

/-- What it makes of its input is determined by it. -/
theorem Settles.unique (settles : Settles act s b t r) (other : Settles act s b u v) : t = u ∧ r = v := by
  induction settles with
  | done waits =>
    cases other with
    | done => exact ⟨rfl, rfl⟩
    | more acts => rw [waits] at acts; cases acts
  | more acts _ ih =>
    cases other with
    | done waits => rw [waits] at acts; cases acts
    | more acts' rest =>
      rw [acts] at acts'
      cases acts'
      exact ih rest

/-- The reader acts on what has arrived as it would if more had. -/
theorem Settles.act_append (stable : Stable act) (acts : act s b = some (t, n))
    (rest : Settles act t (b.drop n ++ more) u v) : Settles act s (b ++ more) u v := by
  refine .more (stable.stable acts more) ?_
  rw [List.drop_append_of_le_length (stable.inside acts)]
  exact rest

/-! ## Frames -/

/-- Cuts off frames, each as long as its front tells; `size` is none where there is no
frame any more. -/
def frames (size : List β → Option Nat) : Nat → List β → List (List β)
  | 0, _ => []
  | turns + 1, b =>
    match size b with
    | none => []
    | some n => b.take n :: frames size turns (b.drop n)

/-- Frames that tell their own lengths are found again. -/
theorem frames_flatten {size : List β → Option Nat} {turns : Nat} {fs : List (List β)}
    (sized : ∀ f ∈ fs, ∀ more, size (f ++ more) = some f.length) (empty : size [] = none)
    (enough : fs.length ≤ turns) : frames size turns fs.flatten = fs := by
  induction fs generalizing turns with
  | nil =>
    cases turns with
    | zero => rfl
    | succ turns => simp [frames, empty]
  | cons f fs ih =>
    obtain ⟨turns, rfl⟩ : ∃ more, turns = more + 1 := ⟨turns - 1, by
      rw [List.length_cons] at enough
      omega⟩
    have first := sized f List.mem_cons_self fs.flatten
    have rest := ih (fun g member => sized g (List.mem_cons_of_mem _ member)) (Nat.le_of_succ_le_succ enough)
    simp [frames, first, rest]

end Chunks
