import Vstuff.Q931.Message

/-! The call references of outbound calls: the cursor of the interface goes around the
references, and the search for a free one goes with it (`intf.c`, `call.c`). -/
namespace Vstuff.Q931
set_option linter.all false

/-- The fields of `struct q931_call` the search looks at. -/
structure ActiveCall where
  direction : CallDirection
  callReference : Int
  deriving DecidableEq, Repr

/-- An outbound call has the reference. -/
def InUse (calls : List ActiveCall) (callReference : Int) : Prop :=
  ∃ call ∈ calls, call.direction = .outbound ∧ call.callReference = callReference

instance (calls : List ActiveCall) (callReference : Int) : Decidable (InUse calls callReference) :=
  inferInstanceAs (Decidable (∃ call ∈ calls, _))

/-- The references of an interface. -/
def CallrefInRange (len : Nat) (callReference : Int) : Prop :=
  1 ≤ callReference ∧ callReference < callrefLimit len

/-- `next_call_reference++`, which starts again behind the highest reference. -/
def advance (len : Nat) (next : Int) : Int := if next + 1 ≥ callrefLimit len then 1 else next + 1

/-- `q931_intf_find_free_call_reference` with as many jumps to `try_again` as are left: the
reference or -1, and `next_call_reference`. Nothing comes out when they do not suffice. -/
def findFreeCallReference (len : Nat) (calls : List ActiveCall) : Nat → Int → Option (Int × Int)
  | 0, _ => none
  | turns + 1, next =>
    if InUse calls next then
      if next = advance len next then some (-1, advance len next)
      else findFreeCallReference len calls turns (advance len next)
    else some (next, advance len next)

/-- The cursor `q931_intf_open` begins with, for a value of `rand`. -/
def firstCallReference (len : Nat) (rand : Nat) : Int :=
  (rand &&& ((callrefLimit len).toNat - 2) : Nat) + 1

/-- The search comes to an end, with a free reference if there is one and with -1 exactly
if there is none, and the cursor stays in its range. -/
def FindsReference (len : Nat) (calls : List ActiveCall) (next : Int) : Prop :=
  ∃ turns result next', findFreeCallReference len calls turns next = some (result, next') ∧
    ((∃ free, CallrefInRange len free ∧ ¬InUse calls free) →
      CallrefInRange len result ∧ ¬InUse calls result) ∧
    (result = -1 ↔ ∀ used, CallrefInRange len used → InUse calls used) ∧
    CallrefInRange len next'

section Search
variable {len : Nat} {calls : List ActiveCall} {next : Int}

/-- There are 127 references, or 32767. -/
theorem limit_large (length : len = 1 ∨ len = 2) : 128 ≤ callrefLimit len := by
  rcases length with rfl | rfl <;> decide

theorem advance_inRange (length : len = 1 ∨ len = 2) (inRange : CallrefInRange len next) :
    CallrefInRange len (advance len next) := by
  have large := limit_large length
  unfold CallrefInRange advance at *
  split <;> omega

/-- With more than one reference the cursor always moves. -/
theorem advance_ne (length : len = 1 ∨ len = 2) (inRange : CallrefInRange len next) :
    next ≠ advance len next := by
  have large := limit_large length
  unfold CallrefInRange advance at *
  split <;> omega

theorem firstCallReference_inRange (length : len = 1 ∨ len = 2) (rand : Nat) :
    CallrefInRange len (firstCallReference len rand) := by
  have large := limit_large length
  have small : rand &&& ((callrefLimit len).toNat - 2) ≤ (callrefLimit len).toNat - 2 := Nat.and_le_right
  unfold CallrefInRange firstCallReference
  omega

/-- How far the cursor has to go to a reference. -/
def distance (len : Nat) (next free : Int) : Int :=
  if next ≤ free then free - next else free - next + (callrefLimit len - 1)

theorem distance_advance (inRange : CallrefInRange len next) {free : Int} (there : CallrefInRange len free)
    (other : next ≠ free) : distance len (advance len next) free = distance len next free - 1 := by
  unfold CallrefInRange distance advance at *
  split_ifs <;> omega

/-- The cursor reaches a free reference before it has gone around. -/
theorem find_free (length : len = 1 ∨ len = 2) {free : Int} (there : CallrefInRange len free)
    (unused : ¬InUse calls free) (turns : Nat) :
    ∀ next, CallrefInRange len next → distance len next free < turns →
      ∃ result next', findFreeCallReference len calls turns next = some (result, next') ∧
        CallrefInRange len result ∧ ¬InUse calls result ∧ CallrefInRange len next' := by
  induction turns with
  | zero =>
    intro next inRange near
    unfold CallrefInRange distance at *
    split at near <;> omega
  | succ turns further =>
    intro next inRange near
    rw [findFreeCallReference]
    by_cases used : InUse calls next
    · have other : next ≠ free := fun same => unused (same ▸ used)
      have closer := distance_advance inRange there other
      rw [if_pos used, if_neg (advance_ne length inRange)]
      exact further _ (advance_inRange length inRange) (by push_cast at near; omega)
    · rw [if_neg used]
      exact ⟨next, _, rfl, inRange, used, advance_inRange length inRange⟩

/-- Without a free reference the search does not come to an end. -/
theorem find_none (length : len = 1 ∨ len = 2) (full : ∀ used, CallrefInRange len used → InUse calls used)
    (turns : Nat) :
    ∀ next, CallrefInRange len next → findFreeCallReference len calls turns next = none := by
  induction turns with
  | zero => exact fun _ _ => rfl
  | succ turns further =>
    intro next inRange
    rw [findFreeCallReference, if_pos (full next inRange), if_neg (advance_ne length inRange)]
    exact further _ (advance_inRange length inRange)

end Search

/-- The search is as it should be exactly if there is a free reference. -/
theorem call_reference_found_iff {len : Nat} (length : len = 1 ∨ len = 2) (calls : List ActiveCall)
    {next : Int} (inRange : CallrefInRange len next) :
    FindsReference len calls next ↔ ∃ free, CallrefInRange len free ∧ ¬InUse calls free := by
  constructor
  · rintro ⟨turns, result, next', found, -⟩
    by_contra! full
    rw [find_none length full turns next inRange] at found
    cases found
  · rintro ⟨free, there, unused⟩
    have near : distance len next free < ((distance len next free).toNat + 1 : Nat) := by omega
    obtain ⟨result, next', found, resultIn, resultFree, nextIn⟩ :=
      find_free length there unused _ next inRange near
    refine ⟨_, result, next', found, fun _ => ⟨resultIn, resultFree⟩, ?_, nextIn⟩
    constructor
    · rintro rfl
      exact absurd resultIn.1 (by decide)
    · exact fun full => absurd (full free there) unused

/-- One outbound call has the reference under the cursor. -/
theorem next_reference_is_found : FindsReference 1 [⟨.outbound, 127⟩, ⟨.inbound, 1⟩] 127 :=
  (call_reference_found_iff (.inl rfl) _ ⟨by decide, by decide⟩).mpr ⟨1, ⟨by decide, by decide⟩, by decide⟩

/-- All references of a basic rate interface in use. -/
def allOutbound : List ActiveCall := (List.range 127).map fun i : Nat => ⟨.outbound, i + 1⟩

/-- With 127 outbound calls on a basic rate interface the search goes on for ever. -/
theorem full_search_does_not_end : ¬FindsReference 1 allOutbound 1 := by
  rintro ⟨turns, result, next', found, -⟩
  have full : ∀ used, CallrefInRange 1 used → InUse allOutbound used := by
    intro used inRange
    have limit : callrefLimit 1 = 128 := by decide
    obtain ⟨low, high⟩ := inRange
    refine ⟨⟨.outbound, used⟩, List.mem_map.mpr ⟨(used - 1).toNat, List.mem_range.mpr (by omega), ?_⟩, rfl, rfl⟩
    have back : (((used - 1).toNat : Nat) : Int) + 1 = used := by omega
    rw [back]
  rw [find_none (.inl rfl) full turns 1 ⟨by decide, by decide⟩] at found
  cases found

end Vstuff.Q931
