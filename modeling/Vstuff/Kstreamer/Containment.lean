import Vstuff.Kstreamer.Handlers
import Vstuff.Kstreamer.Membership
import Vstuff.Kstreamer.TopologyLock
import Mathlib.Data.List.Perm.Subperm
import Mathlib.Logic.Function.Iterate

/-! Which octets the handlers look at. An attribute may end less than a word behind
its header, and the last one of a message then has its word cut off; whether a
handler gets to such an attribute, and to the assertions it has, is a matter of
the message and of the state it finds. -/
namespace Vstuff.Kstreamer
open Peek (cell block)
set_option linter.all false

@[simp] theorem reach_u16 (i : Nat) (m : Nat → UInt8) : (u16 i).reach m = i + 2 := by
  simp only [u16, Peek.reach_bind, Peek.reach_cell, Peek.reach_pure]
  omega

theorem align_pos {len : Nat} (some : 4 ≤ len) : 4 ≤ align len := Nat.le_trans some (le_align len)

/-- The attributes a loop can come to. -/
def heads (m : Nat → UInt8) : Nat → Nat → Nat → List Head
  | 0, _, _ => []
  | turns + 1, pos, rest =>
    let len := (u16 pos).value m
    if rest < 4 then []
    else if len < 4 ∨ rest < len then []
    else ⟨pos, (u16 (pos + 2)).value m, len⟩ :: heads m turns (pos + align len) (rest - align len)

section walk

variable {σ ρ : Type} {body : σ → Head → Peek UInt8 (Except ρ σ)} {m : Nat → UInt8} {turns pos rest bound : Nat} {s t : σ}
  {before after : List Head} {h : Head}

/-- What the body makes of attributes in a row. -/
def course (body : σ → Head → Peek UInt8 (Except ρ σ)) (m : Nat → UInt8) : σ → List Head → Except ρ σ
  | s, [] => .ok s
  | s, h :: hs =>
    match (body s h).value m with
    | .error result => .error result
    | .ok s => course body m s hs

theorem split_cons {α : Type} {h h' : α} {hs before after : List α} : h' :: hs = before ++ h :: after ↔
    before = [] ∧ h' = h ∧ hs = after ∨ ∃ rest, before = h' :: rest ∧ hs = rest ++ h :: after := by
  cases before with
  | nil => simp
  | cons b before =>
    simp only [List.cons_append, List.cons.injEq, reduceCtorEq, false_and, false_or]
    refine ⟨?_, ?_⟩
    · rintro ⟨rfl, rfl⟩
      exact ⟨before, ⟨rfl, rfl⟩, rfl⟩
    · rintro ⟨rest, ⟨rfl, rfl⟩, rfl⟩
      exact ⟨rfl, rfl⟩

/-- A loop does to the attributes in a row what its body does, and stays below a
bound if the body does at every attribute it comes to. -/
theorem walk_spec (enough : rest < turns) (inside : rest < 4 ∨ pos + rest ≤ bound) :
    ((walk body turns pos rest s).value m =
      match course body m s (heads m turns pos rest) with
      | .ok t => .ok t
      | .error result => .error (some result)) ∧
    ((walk body turns pos rest s).reach m ≤ bound ↔ ∀ before h after t, heads m turns pos rest = before ++ h :: after →
      course body m s before = .ok t → (body t h).reach m ≤ bound) := by
  induction turns generalizing pos rest s with
  | zero => omega
  | succ turns ih =>
    rw [walk, heads]
    by_cases more : rest < 4
    · rw [if_pos more, if_pos more]
      refine ⟨rfl, iff_of_true (Nat.zero_le _) ?_⟩
      intro before h after t none
      cases before <;> cases none
    rw [if_neg more, if_neg more]
    simp only [Peek.value_bind, Peek.reach_bind, reach_u16]
    have room : pos + rest ≤ bound := inside.resolve_left more
    generalize (u16 pos).value m = len
    generalize (u16 (pos + 2)).value m = type
    by_cases bad : len < 4 ∨ rest < len
    · rw [if_pos bad, if_pos bad]
      refine ⟨rfl, iff_of_true ?_ ?_⟩
      · rw [Peek.reach_pure]
        omega
      · intro before h after t none
        cases before <;> cases none
    rw [if_neg bad, if_neg bad]
    obtain ⟨some, fits⟩ := not_or.mp bad
    have aligned := align_pos (Nat.not_lt.mp some)
    simp only [Peek.value_bind, Peek.reach_bind]
    cases here : (body s ⟨pos, type, len⟩).value m with
    | error result =>
      simp only [course, here, Peek.reach_pure]
      refine ⟨rfl, ?_⟩
      constructor
      · intro below before h after t all ran
        obtain ⟨rfl, rfl, -⟩ | ⟨before, rfl, -⟩ := split_cons.mp all
        · cases ran
          omega
        · rw [course, here] at ran
          cases ran
      · intro below
        have := below [] _ _ s rfl rfl
        omega
    | ok t =>
      simp only [course, here]
      obtain ⟨value, reach⟩ := @ih (pos + align len) (rest - align len) t (by omega) (by omega)
      refine ⟨value, ?_⟩
      constructor
      · intro below before h after u all ran
        obtain ⟨rfl, rfl, -⟩ | ⟨before, rfl, later⟩ := split_cons.mp all
        · cases ran
          omega
        · rw [course, here] at ran
          exact reach.mp (by omega) before h after u later ran
      · intro below
        have := below [] _ _ s rfl rfl
        have := reach.mpr fun before h after u all ran =>
          below (_ :: before) h after u (split_cons.mpr (.inr ⟨before, rfl, all⟩)) (by rw [course, here]; exact ran)
        omega

end walk

/-- The attributes of a message. -/
def attributes (m : Nat → UInt8) (len : Nat) : List Head := heads m (len + 1) 16 (len - 16)

/-- An attribute with the word behind its header. -/
def Head.attr (m : Nat → UInt8) (h : Head) : Attr := ⟨h.type, h.word.value m⟩

/-- The word behind the header lies inside the message. -/
def Head.Whole (len : Nat) (h : Head) : Prop := h.pos + 8 ≤ len

/-- A property of everything a loop comes to, where it goes on behind what was
before. -/
def Visited {α : Type} (hs : List α) (goesOn : List α → Prop) (p : α → Prop) : Prop :=
  ∀ before h after, hs = before ++ h :: after → goesOn before → p h

section walkAttrs

variable {σ ρ : Type} {body : σ → Head → Peek UInt8 (Except ρ σ)} {m : Nat → UInt8} {len : Nat} {s : σ}
  {goesOn : List Head → Prop} {p : Head → Prop}

end walkAttrs

section search

variable {α : Type} {get : Nat → Option α} {m : Nat → UInt8} {len : Nat}

/-- An ID attribute. -/
def Head.isId (h : Head) : Bool := h.type = 1

end search

/-! ## Ids -/

namespace Kernel

variable {k : Kernel} {pipe : Pipe} {status : Nat} {attr : Attr} {attrs : List Attr} {answers : Answers}

/-- An id that no pipeline has. -/
def Roomy (k : Kernel) : Prop := ∃ id, 0 < id ∧ id < 2 ^ 31 ∧ ∀ pipe ∈ k.pipelines, pipe.id ≠ id

end Kernel

/-- A status or a channel id. -/
def Head.isParsed (h : Head) : Bool := h.type = 3 || h.type = 4

/-- An id or a status. -/
def Head.isUpdated (h : Head) : Bool := h.type = 1 || h.type = 3

namespace World

variable {w : World} {m : Nat → UInt8} {len : Nat}

/-- What `ks_pipeline_update_from_nlsmsg` needs of an attribute: its word is not cut
off, and an ID is the one of the pipeline. -/
def Updates (pipe : Pipe) (m : Nat → UInt8) (len : Nat) (h : Head) : Prop :=
  (h.isUpdated → h.Whole len) ∧ (h.isId → h.word.value m = pipe.id)

/-- Its loop goes on behind these. -/
def Updated (pipe : Pipe) (m : Nat → UInt8) (before : List Head) : Prop :=
  ∀ h ∈ before, h.isUpdated ∧ (h.isId → h.word.value m = pipe.id)

/-- The ID attribute a request is looked up with. -/
def idAttr (m : Nat → UInt8) (len : Nat) : Option Head := (attributes m len).find? Head.isId

/-- The pipeline a request is about. -/
def pipe (w : World) (m : Nat → UInt8) (len : Nat) : Option Pipe :=
  (idAttr m len).bind fun h => w.kernel.pipeline (h.word.value m)

/-- Attributes of any object; what is not one of them is left to the driver. -/
def plain (h : Head) : Bool := 1 ≤ h.type ∧ h.type ≤ 4

/-- What the driver looks at lies inside the message. -/
def Inside (set_attr : Option SetAttr) (len : Nat) (h : Head) : Prop :=
  plain h ∨ ∀ set ∈ set_attr, (set h.type (h.len - 4)).1 = 0 ∨ h.pos + 4 + (set h.type (h.len - 4)).1 ≤ len

/-- The driver takes these attributes. -/
def Taken (set_attr : Option SetAttr) (before : List Head) : Prop :=
  ∀ h ∈ before, plain h ∨ ∀ set ∈ set_attr, 0 ≤ (set h.type (h.len - 4)).2

/-- The channel a request is about. -/
def chan (w : World) (m : Nat → UInt8) (len : Nat) : Option Chan :=
  (idAttr m len).bind fun h => w.kernel.chan (h.word.value m)

/-- A request to change a channel, in the state it finds: no word and no descriptor
is cut off that is looked at. -/
structure ChanSet (w : World) (m : Nat → UInt8) (len : Nat) : Prop where
  id : ∀ h, idAttr m len = some h → h.Whole len
  rest : ∀ chan, w.chan m len = some chan →
    Visited (attributes m len) (Taken (w.setAttr chan.id)) (Inside (w.setAttr chan.id) len)

/-- A request for a new pipeline: no word is cut off of an attribute behind accepted
ones, and there is an id left if the pipeline comes about. -/
structure PipelineNew (w : World) (m : Nat → UInt8) (len : Nat) : Prop where
  words : Visited (attributes m len) (fun before => (w.kernel.accepted (before.map (Head.attr m))).isSome)
    fun h => h.isParsed → h.Whole len
  id : (w.kernel.create ((attributes m len).map (Head.attr m)) w.answers).2 < 0 ∨ w.kernel.Roomy

/-- A request to change a pipeline: no word is cut off that is looked at, and no ID
that is looked at is another one. -/
structure PipelineSet (w : World) (m : Nat → UInt8) (len : Nat) : Prop where
  id : ∀ h, idAttr m len = some h → h.Whole len
  rest : ∀ pipe, w.pipe m len = some pipe → Visited (attributes m len) (Updated pipe m) (Updates pipe m len)

/-- What the object requests have to be like. -/
structure Fit (w : World) (m : Nat → UInt8) (type len : Nat) : Prop where
  chanSet : type = KS_NETLINK_CHAN_SET → w.ChanSet m len
  pipelineNew : type = KS_NETLINK_PIPELINE_NEW → w.alloc → w.PipelineNew m len
  pipelineDel : type = KS_NETLINK_PIPELINE_DEL → ∀ h, idAttr m len = some h → h.Whole len
  pipelineSet : type = KS_NETLINK_PIPELINE_SET → w.PipelineSet m len

/-- Somebody else has the lock, and the message stays in its packet. -/
def Postponed (w : World) (nlh : Nlmsghdr) : Prop := nlh.served ∧ w.barred nlh

/-- Who asks for the lock has a name. -/
def Named (nlh : Nlmsghdr) : Prop := nlh.locks → nlh.nlmsg_pid ≠ 0

/-- What a message has to be like in the state it finds, if it is handled. -/
structure Careful (w : World) (m : Nat → UInt8) (len : Nat) (nlh : Nlmsghdr) : Prop where
  named : Named nlh
  fit : w.Fit m nlh.nlmsg_type len

end World

/-! ## A packet -/

/-- A message of a packet: its turn, where it is, and how long it is. -/
structure Message where
  turn : Nat
  pos : Nat
  len : Nat

/-- The messages that a packet of `left` octets from `pos` on falls into. -/
def messages (m : Nat → UInt8) : Nat → Nat → Nat → Nat → List Message
  | 0, _, _, _ => []
  | turns + 1, turn, pos, left =>
    let len := (u32 0).value («from» m pos)
    if left < 16 then []
    else if len < 16 ∨ left < len then []
    else ⟨turn, pos, len⟩ :: messages m turns (turn + 1) (pos + min (align len) left) (left - min (align len) left)

section packet

variable {found : Nat → World} {m : Nat → UInt8}

/-- The header of a message, as the state that it finds takes it. -/
def nlh (found : Nat → World) (m : Nat → UInt8) (msg : Message) : Nlmsghdr :=
  (found msg.turn).header.value («from» m msg.pos)

/-- The loop goes on behind messages that are not put off. -/
def Answered (found : Nat → World) (m : Nat → UInt8) (before : List Message) : Prop :=
  ∀ msg ∈ before, ¬ (found msg.turn).Postponed (nlh found m msg)

/-- What is asked of a message that the loop comes to. -/
def Message.Careful (found : Nat → World) (m : Nat → UInt8) (msg : Message) : Prop :=
  (nlh found m msg).served → ¬ (found msg.turn).barred (nlh found m msg) →
    (found msg.turn).Careful («from» m msg.pos) msg.len (nlh found m msg)

/-- A message was handled without a look behind its end, and its handler has
returned. -/
def Visit.Contained (visit : Visit) : Prop := visit.reach ≤ visit.len ∧ ∃ err, visit.ending = .done err

/-- The octets of a packet. -/
def octets (bytes : List UInt8) (i : Nat) : UInt8 := bytes.getD i 0

end packet
end Vstuff.Kstreamer
