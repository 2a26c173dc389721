import Vstuff.Vgsm.Comm

/-! What the matching functions see of the buffer: the string in front of the first NUL,
and of this only the beginning. -/
namespace Vstuff.Vgsm
open Comm
open Lapd (Octets)
set_option linter.all false

variable {cells t more : Octets} {k n stop : Nat}

/-! ## The string and what is behind it -/

theorem zero_not_mem_cString (cells : Octets) : (0 : UInt8) ∉ cString cells := by
  intro member
  have kept := List.all_eq_true.mp List.all_takeWhile 0 member
  simp at kept

/-- A terminated buffer is its string, a NUL and the rest. -/
theorem exists_behind (ends : (0 : UInt8) ∈ cells) : ∃ behind, cells = cString cells ++ 0 :: behind := by
  induction cells with
  | nil => cases ends
  | cons x rest ih =>
    by_cases zero : x = 0
    · exact ⟨rest, by simp [cString, zero]⟩
    · obtain ⟨behind, same⟩ := ih (List.mem_of_ne_of_mem (Ne.symm zero) ends)
      refine ⟨behind, ?_⟩
      have first : cString (x :: rest) = x :: cString rest := by simp [cString, zero]
      rw [first, List.cons_append, ← same]

theorem cString_append (clean : (0 : UInt8) ∉ t) (behind : Octets) : cString (t ++ 0 :: behind) = t := by
  have all : ∀ x ∈ t, (x != 0) = true := by
    intro x member
    refine bne_iff_ne.mpr ?_
    rintro rfl
    exact clean member
  rw [cString, List.takeWhile_append_of_pos all]
  simp

theorem cString_drop (ends : (0 : UInt8) ∈ cells) (within : k ≤ (cString cells).length) :
    cString (cells.drop k) = (cString cells).drop k ∧ (0 : UInt8) ∈ cells.drop k := by
  obtain ⟨behind, same⟩ := exists_behind ends
  have clean : (0 : UInt8) ∉ (cString cells).drop k := fun member =>
    zero_not_mem_cString cells (List.mem_of_mem_drop member)
  have split : cells.drop k = (cString cells).drop k ++ 0 :: behind := by
    conv_lhs => rw [same]
    rw [List.drop_append_of_le_length within]
  rw [split]
  exact ⟨cString_append clean behind, by simp⟩

/-- A line that was ended in place. -/
theorem cString_drop_set (ends : (0 : UInt8) ∈ cells) (begins : k ≤ stop) (within : stop < (cString cells).length) :
    cString ((cells.set stop 0).drop k) = ((cString cells).drop k).take (stop - k) := by
  obtain ⟨behind, same⟩ := exists_behind ends
  generalize string : cString cells = t at same within
  have clean : (0 : UInt8) ∉ (t.drop k).take (stop - k) := by
    intro member
    rw [← string] at member
    exact zero_not_mem_cString cells (List.mem_of_mem_drop (List.mem_of_mem_take member))
  have split : (cells.set stop 0).drop k = (t.drop k).take (stop - k) ++ 0 :: (t.drop (stop + 1) ++ 0 :: behind) := by
    rw [same, List.set_append_left _ _ within, List.drop_append_of_le_length (by simp; omega), List.set_eq_take_append_cons_drop,
      if_pos within, List.drop_append_of_le_length (by simp; omega), List.drop_take]
    simp
  rw [split, cString_append clean]

/-! ## What was told stays true when more arrives -/

theorem findCrlf_append (more : Octets) (found : findCrlf t = some n) : findCrlf (t ++ more) = some n := by
  induction t generalizing n with
  | nil => cases found
  | cons x rest ih =>
    cases rest with
    | nil => simp [findCrlf] at found
    | cons y rest =>
      have same : (y :: rest ++ more).head? = (y :: rest).head? := rfl
      rw [findCrlf] at found
      rw [List.cons_append, findCrlf, same]
      split at found
      · rename_i here
        rw [if_pos here]
        exact found
      · rename_i later
        obtain ⟨offset, before, rfl⟩ := Option.map_eq_some_iff.mp found
        rw [if_neg later, ih before]
        rfl

theorem findCrlf_within (found : findCrlf t = some n) : n + 2 ≤ t.length := by
  induction t generalizing n with
  | nil => cases found
  | cons x rest ih =>
    rw [findCrlf] at found
    split at found
    · rename_i here
      cases found
      cases rest with
      | nil => simp at here
      | cons y rest => simp
    · obtain ⟨offset, before, rfl⟩ := Option.map_eq_some_iff.mp found
      have within := ih before
      simp only [List.length_cons]
      omega

theorem matchEcho_append (more : Octets) {sent : Octets} (told : matchEcho t sent n ≠ 0) :
    matchEcho (t ++ more) sent n = matchEcho t sent n := by
  induction sent generalizing t n with
  | nil => cases t <;> cases more <;> rfl
  | cons y sent ih =>
    cases t with
    | nil => exact absurd rfl told
    | cons x t =>
      rw [matchEcho] at told
      rw [List.cons_append, matchEcho, matchEcho]
      split at told
      · rename_i same
        rw [if_pos same, if_pos same]
        exact ih told
      · rename_i other
        rw [if_neg other, if_neg other]

theorem matchEcho_within {sent : Octets} : matchEcho t sent n ≤ n + t.length := by
  induction sent generalizing t n with
  | nil =>
    have all : matchEcho t [] n = n := by cases t <;> rfl
    omega
  | cons y sent ih =>
    cases t with
    | nil => simp [matchEcho]
    | cons x t =>
      rw [matchEcho]
      split
      · refine (ih).trans ?_
        simp only [List.length_cons]
        omega
      · simp only [List.length_cons]
        omega

theorem urcBegin_append (more : Octets) (told : urcBegin t ≠ .inl 0) : urcBegin (t ++ more) = urcBegin t := by
  match t with
  | [] => exact absurd rfl told
  | x :: rest =>
    by_cases cr : x = 13
    · subst cr
      match rest with
      | [] => exact absurd rfl told
      | y :: rest =>
        by_cases lf : y = 10
        · subst lf
          match rest with
          | [] => exact absurd rfl told
          | z :: rest =>
            by_cases cr : z = 13
            · subst cr
              match rest with
              | [] => exact absurd rfl told
              | _ :: _ => rfl
            · simp [urcBegin, cr]
        · simp [urcBegin, lf]
    · simp [urcBegin, cr]

theorem urcBegin_within : Sum.elim id id (urcBegin t) ≤ t.length := by
  match t with
  | [] => rfl
  | x :: rest =>
    by_cases cr : x = 13
    · subst cr
      match rest with
      | [] => exact Nat.zero_le _
      | y :: rest =>
        by_cases lf : y = 10
        · subst lf
          match rest with
          | [] => exact Nat.zero_le _
          | z :: rest =>
            by_cases cr : z = 13
            · subst cr
              match rest with
              | [] => exact Nat.zero_le _
              | w :: rest => by_cases lf : w = 10 <;> simp [urcBegin, lf]
            · simp [urcBegin, cr]
        · simp [urcBegin, lf]
    · by_cases plain : x = 43 ∨ x = 94 <;> simp [urcBegin, cr, plain]

theorem responseBegin_append (more : Octets) (told : responseBegin t = some k) :
    responseBegin (t ++ more) = some k ∧ k ≤ 2 ∧ k ≤ t.length := by
  match t with
  | [] => cases told
  | x :: rest =>
    by_cases cr : x = 13
    · subst cr
      match rest with
      | [] => cases told
      | y :: rest => by_cases lf : y = 10 <;> simp [responseBegin, lf] at told ⊢ <;> simp [← told]
    · by_cases lf : x = 10 <;> simp [responseBegin, cr, lf] at told ⊢ <;> simp [← told]

end Vstuff.Vgsm
