import Mathlib.Logic.Function.Basic

/-! Objects that are counted by the references to them. A program takes references
and puts them back; an object whose count is 0 is gone. -/
namespace RefCount
set_option linter.all false

variable {α β γ : Type}

/-- What stops a program: a put on an object whose count is 0, or something else. -/
inductive Fault where
  | put
  | stopped
  deriving Repr, DecidableEq

/-- The counts, and how many more references the program has taken than it has put back. -/
structure Refs (α : Type) where
  refcnt : α → Nat
  due : α → Int

/-! ## Programs -/

/-- What a program returns has the property, and it does not put an object that is gone. -/
def Safe (post : β → Prop) : Except Fault β → Prop
  | .ok b => post b
  | .error fault => fault = .stopped

theorem safe_bind_iff {post : γ → Prop} {first : Except Fault β} {second : β → Except Fault γ} :
    Safe post (first >>= second) ↔ Safe (fun b => Safe post (second b)) first := by
  cases first with
  | ok b => exact Iff.rfl
  | error fault => exact Iff.rfl

theorem Safe.mono {post post' : β → Prop} {program : Except Fault β} (safe : Safe post program)
    (weaker : ∀ b, program = .ok b → post b → post' b) : Safe post' program := by
  cases program with
  | ok b => exact weaker b rfl safe
  | error fault => exact safe

/-- What each step of a loop keeps, the loop keeps. -/
theorem Safe.foldlM (inv : β → Prop) {step : β → γ → Except Fault β} (kept : ∀ b c, inv b → Safe inv (step b c)) (cs : List γ) :
    ∀ b, inv b → Safe inv (cs.foldlM step b) := by
  induction cs with
  | nil => exact fun b holds => holds
  | cons c cs ih =>
    intro b holds
    rw [List.foldlM_cons, safe_bind_iff]
    exact (kept b c holds).mono fun next _ => ih next

/-! ## Operations -/

namespace Refs
variable [DecidableEq α] {refs : Refs α} {a : α}

/-- A new object with a reference that the program has taken. -/
def alloc (refs : Refs α) (a : α) : Refs α where
  refcnt := Function.update refs.refcnt a 1
  due := Function.update refs.due a (refs.due a + 1)

/-- A reference for an object that keeps it. -/
def keep (refs : Refs α) (a : α) : Except Fault (Refs α) :=
  if refs.refcnt a = 0 then .error .stopped
  else .ok { refs with refcnt := Function.update refs.refcnt a (refs.refcnt a + 1) }

/-- Puts the reference of an object that has kept it. -/
def drop (refs : Refs α) (a : α) : Except Fault (Refs α) :=
  if refs.refcnt a = 0 then .error .put
  else .ok { refs with refcnt := Function.update refs.refcnt a (refs.refcnt a - 1) }

/-- Takes a reference. -/
def get (refs : Refs α) (a : α) : Except Fault (Refs α) := do
  let refs ← refs.keep a
  .ok { refs with due := Function.update refs.due a (refs.due a + 1) }

/-- Puts a reference back. -/
def put (refs : Refs α) (a : α) : Except Fault (Refs α) := do
  let refs ← refs.drop a
  .ok { refs with due := Function.update refs.due a (refs.due a - 1) }

theorem keep_eq (alive : 0 < refs.refcnt a) :
    refs.keep a = .ok { refs with refcnt := Function.update refs.refcnt a (refs.refcnt a + 1) } := if_neg (by omega)

theorem drop_eq (alive : 0 < refs.refcnt a) :
    refs.drop a = .ok { refs with refcnt := Function.update refs.refcnt a (refs.refcnt a - 1) } := if_neg (by omega)

theorem get_eq (alive : 0 < refs.refcnt a) :
    refs.get a = .ok
      { refcnt := Function.update refs.refcnt a (refs.refcnt a + 1)
        due := Function.update refs.due a (refs.due a + 1) } := by
  rw [get, keep_eq alive]
  rfl

theorem put_eq (alive : 0 < refs.refcnt a) :
    refs.put a = .ok
      { refcnt := Function.update refs.refcnt a (refs.refcnt a - 1)
        due := Function.update refs.due a (refs.due a - 1) } := by
  rw [put, drop_eq alive]
  rfl

theorem put_gone (gone : refs.refcnt a = 0) : refs.put a = .error .put := by
  rw [put, drop, if_pos gone]
  rfl

end Refs

/-! ## Counts and those who hold -/

section Holders
variable [DecidableEq α]

theorem update_add_one (f : α → Nat) (a b : α) : Function.update f a (f a + 1) b = f b + [a].count b := by
  by_cases here : b = a
  · subst here
    rw [Function.update_self, List.count_singleton_self]
  · rw [Function.update_of_ne here, List.count_cons_of_ne (Ne.symm here), List.count_nil, Nat.add_zero]

theorem update_sub_one {f : α → Nat} {a : α} (alive : 0 < f a) (b : α) :
    Function.update f a (f a - 1) b + [a].count b = f b := by
  by_cases here : b = a
  · subst here
    rw [Function.update_self, List.count_singleton_self, Nat.sub_add_cancel alive]
  · rw [Function.update_of_ne here, List.count_cons_of_ne (Ne.symm here), List.count_nil, Nat.add_zero]

end Holders

end RefCount
