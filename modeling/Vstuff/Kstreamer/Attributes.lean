import Vstuff.Kstreamer.Answer
import Vstuff.Kstreamer.Containment
import Mathlib.Data.List.GetD

/-! Attributes in the memory of a message: how `ks_netlink_put_attr` and
`ks_netlink_put_attr_path` write them behind each other, and how the loops over
the attributes of a message find them again. The library has the first of these
functions once more, word for word. -/
namespace Vstuff.Kstreamer
open Peek (block)
set_option linter.all false

def ENOBUFS : Int := 105

def memcpy (m : Nat → UInt8) (dest : Nat) (src : List UInt8) : Nat → UInt8 := fun i =>
  if dest ≤ i ∧ i < dest + src.length then src.getD (i - dest) 0 else m i

/-- struct sk_buff: the memory from `head` on, with `tail` and `end` counted from
there. A buffer for messages is allocated with NLMSG_GOODSIZE octets in the
module and with at most NLMSG_SPACE(8192) in the library, far below 64 KiB. -/
structure Skb where
  memory : Nat → UInt8
  tail : Nat
  size : Nat
  inside : tail ≤ size
  small : size < 2 ^ 16

namespace Skb

def tailroom (skb : Skb) : Nat := skb.size - skb.tail

/-- `skb_put`, and the memory written behind the old tail. -/
def put (skb : Skb) (len : Nat) (memory : Nat → UInt8) (room : ¬skb.tailroom < len) : Skb where
  memory := memory
  tail := skb.tail + len
  size := skb.size
  inside := by
    unfold tailroom at room
    have := skb.inside
    omega
  small := skb.small

/-- `type` and `len` of a struct ks_attr. -/
def putHeader (skb : Skb) (type len : Nat) : Nat → UInt8 :=
  memcpy (memcpy skb.memory (skb.tail + 2) (le16 type)) skb.tail (le16 len)

end Skb

/-- struct kobject, with the objects above it. -/
inductive Kobject where
  | root (name : List UInt8)
  | child (name : List UInt8) (parent : Kobject)
  deriving Repr, DecidableEq

/-- The names of an object and of those above it, as the loops over `cur->parent` come to them. -/
def Kobject.names : Kobject → List (List UInt8)
  | .root name => [name]
  | .child name parent => name :: parent.names

/-- The first loop of `ks_kobj_make_path`. -/
def pathLength (names : List (List UInt8)) : Nat := names.foldl (fun length name => length + (name.length + 1)) 0

/-- A turn of the second loop: the memory and `pos`. -/
def writeName (buf : Nat) (at_ : (Nat → UInt8) × Nat) (name : List UInt8) : (Nat → UInt8) × Nat :=
  let pos := at_.2 - name.length
  let m := memcpy at_.1 (buf + pos) name
  let pos := pos - 1
  (memcpy m (buf + pos) [47], pos)

/-- `ks_kobj_make_path`: the memory, and what it returns. -/
def kobjMakePath (kobj : Kobject) (m : Nat → UInt8) (buf : Option Nat) : (Nat → UInt8) × Nat :=
  let length := pathLength kobj.names
  match buf with
  | none => (m, length)
  | some buf => ((kobj.names.foldl (writeName buf) (m, length)).1, length)

/-- `ks_netlink_put_attr` -/
def netlinkPutAttr (skb : Skb) (type : Nat) (data : Option (List UInt8)) (data_len : Nat) : Skb × Int :=
  if room : skb.tailroom < align (4 + data_len) then (skb, -ENOBUFS)
  else
    let header := skb.putHeader type (4 + data_len)
    (skb.put (align (4 + data_len))
      (match data with
        | some data => memcpy header (skb.tail + 4) (data.take data_len)
        | none => header) room, 0)

/-- `ks_netlink_put_attr_path` -/
def netlinkPutAttrPath (skb : Skb) (type : Nat) (kobj : Kobject) : Skb × Int :=
  let len := (kobjMakePath kobj skb.memory none).2
  if room : skb.tailroom < align (4 + len) then (skb, -ENOBUFS)
  else (skb.put (align (4 + len)) (kobjMakePath kobj (skb.putHeader type (4 + len)) (some (skb.tail + 4))).1 room, 0)

/-- The payload of an attribute. -/
def Head.payload (head : Head) : Peek UInt8 (List UInt8) := block (head.pos + 4) (head.len - 4)

/-- A body that collects the types and payloads. -/
def collect (seen : List (Nat × List UInt8)) (head : Head) : Peek UInt8 (Except Unit (List (Nat × List UInt8))) := do
  let data ← head.payload
  pure (.ok (seen ++ [(head.type, data)]))

/-- What is put into a message. -/
inductive Put where
  | attr (type : UInt16) (data : List UInt8) (small : data.length ≤ 65531)
  | path (type : UInt16) (kobj : Kobject)

namespace Put

def put (skb : Skb) : Put → Skb × Int
  | .attr type data _ => netlinkPutAttr skb type.toNat (some data) data.length
  | .path type kobj => netlinkPutAttrPath skb type.toNat kobj

/-- The names from the root object down, each behind a slash. -/
def pathOf (kobj : Kobject) : List UInt8 := 47 :: List.intercalate [47] kobj.names.reverse

/-- The type and the payload it should be read back with. -/
def wanted : Put → Nat × List UInt8
  | .attr type data _ => (type.toNat, data)
  | .path type kobj => (type.toNat, pathOf kobj)

end Put

/-- Puts one after the other, as long as each returns 0. -/
def Skb.append (skb : Skb) : List Put → Option Skb
  | [] => some skb
  | p :: ps => if (p.put skb).2 = 0 then (p.put skb).1.append ps else none

/-! ## Memory -/

section Memory
variable {m : Nat → UInt8} {dest pos : Nat} {front back : List UInt8}

/-- The memory holds these octets at a place. -/
def Holds (m : Nat → UInt8) (pos : Nat) (octets : List UInt8) : Prop :=
  ∀ i < octets.length, m (pos + i) = octets.getD i 0

theorem holds_append : Holds m pos (front ++ back) ↔ Holds m pos front ∧ Holds m (pos + front.length) back := by
  constructor
  · intro holds
    refine ⟨fun i below => ?_, fun i below => ?_⟩
    · rw [holds i (by rw [List.length_append]; omega), List.getD_append _ _ _ _ below]
    · rw [Nat.add_assoc, holds (front.length + i) (by rw [List.length_append]; omega),
        List.getD_append_right _ _ _ _ (by omega), Nat.add_sub_cancel_left]
  · rintro ⟨first, second⟩ i below
    rw [List.length_append] at below
    rcases Nat.lt_or_ge i front.length with here | there
    · rw [first i here, List.getD_append _ _ _ _ here]
    · have at_ := second (i - front.length) (by omega)
      rw [Nat.add_assoc, Nat.add_sub_cancel' there] at at_
      rw [at_, List.getD_append_right _ _ _ _ there]

theorem holds_memcpy (src : List UInt8) : Holds (memcpy m dest src) dest src := by
  intro i below
  rw [memcpy, if_pos (by omega), Nat.add_sub_cancel_left]

/-- What lies in front of what is copied stays. -/
theorem Holds.memcpy (holds : Holds m pos front) (before : pos + front.length ≤ dest) (src : List UInt8) :
    Holds (memcpy m dest src) pos front := by
  intro i below
  rw [Kstreamer.memcpy, if_neg (by omega), holds i below]

/-- Two copies that meet are one, whichever is made first. -/
theorem memcpy_back (front back : List UInt8) :
    memcpy (memcpy m dest front) (dest + front.length) back = memcpy m dest (front ++ back) := by
  funext i
  simp only [memcpy, List.length_append]
  split_ifs with h₁ h₂ h₃ h₄ h₅ <;> try omega
  · rw [List.getD_append_right _ _ _ _ (by omega), Nat.sub_add_eq]
  · rw [List.getD_append _ _ _ _ (by omega)]
  · rfl

theorem memcpy_front (front back : List UInt8) :
    memcpy (memcpy m (dest + front.length) back) dest front = memcpy m dest (front ++ back) := by
  funext i
  simp only [memcpy, List.length_append]
  split_ifs with h₁ h₂ h₃ h₄ h₅ <;> try omega
  · rw [List.getD_append _ _ _ _ (by omega)]
  · rw [List.getD_append_right _ _ _ _ (by omega), Nat.sub_add_eq]
  · rfl

end Memory

/-! ## What is written -/

section Written
variable {m : Nat → UInt8} {skb after : Skb}

/-- The name of an object stands behind the path of its parent. -/
theorem makePath_cons (name : List UInt8) (names : List (List UInt8)) :
    PutAttr.makePath (name :: names) = PutAttr.makePath names ++ 47 :: name := by
  have longer (names : List (List UInt8)) : ∀ path,
      names.foldl (fun path name => 47 :: name ++ path) path = PutAttr.makePath names ++ path := by
    unfold PutAttr.makePath
    induction names with
    | nil => exact fun _ => rfl
    | cons name names ih =>
      intro path
      rw [List.foldl_cons, List.foldl_cons, ih, ih (47 :: name ++ []), List.append_nil, List.append_assoc]
  rw [PutAttr.makePath, List.foldl_cons, longer, List.append_nil]

theorem pathLength_eq (names : List (List UInt8)) : pathLength names = (PutAttr.makePath names).length := by
  have from_ (names : List (List UInt8)) : ∀ n,
      names.foldl (fun length name => length + (name.length + 1)) n = (PutAttr.makePath names).length + n := by
    induction names with
    | nil => exact fun n => (Nat.zero_add n).symm
    | cons name names ih =>
      intro n
      rw [List.foldl_cons, ih, makePath_cons, List.length_append, List.length_cons]
      omega
  exact from_ names 0

/-- The names that are left are written in front of those that have been. -/
theorem writeNames (buf : Nat) (names : List (List UInt8)) : ∀ (path : List UInt8),
    names.foldl (writeName buf) (memcpy m (buf + (PutAttr.makePath names).length) path, (PutAttr.makePath names).length) =
      (memcpy m buf (PutAttr.makePath names ++ path), 0) := by
  induction names with
  | nil => exact fun _ => rfl
  | cons name names ih =>
    intro path
    have length : (PutAttr.makePath (name :: names)).length = (PutAttr.makePath names).length + 1 + name.length := by
      rw [makePath_cons, List.length_append, List.length_cons]
      omega
    have turn : writeName buf (memcpy m (buf + (PutAttr.makePath (name :: names)).length) path,
          (PutAttr.makePath (name :: names)).length) name =
        (memcpy m (buf + (PutAttr.makePath names).length) (47 :: name ++ path), (PutAttr.makePath names).length) := by
      simp only [writeName, length, Nat.add_sub_cancel]
      rw [← Nat.add_assoc, memcpy_front, ← Nat.add_assoc]
      exact congrArg (·, _) (memcpy_front [47] (name ++ path))
    rw [List.foldl_cons, turn, ih, makePath_cons, List.append_assoc]

/-- ks_kobj_make_path writes as many octets as it announces. -/
theorem kobjMakePath_eq (kobj : Kobject) (m : Nat → UInt8) (buf : Nat) :
    kobjMakePath kobj m (some buf) =
      (memcpy m buf (PutAttr.makePath kobj.names), (PutAttr.makePath kobj.names).length) := by
  have written := writeNames (m := m) buf kobj.names []
  have nothing : memcpy m (buf + (PutAttr.makePath kobj.names).length) [] = m := by
    funext i
    exact if_neg fun between => by simp at between; omega
  rw [nothing, List.append_nil] at written
  rw [kobjMakePath, pathLength_eq, written]

/-- Each name behind a slash: the names joined, behind one. -/
theorem flatMap_slash (names : List (List UInt8)) (some : names ≠ []) :
    names.flatMap (47 :: ·) = 47 :: List.intercalate [47] names := by
  induction names with
  | nil => exact absurd rfl some
  | cons name names ih =>
    cases names with
    | nil => simp
    | cons next names => rw [List.flatMap_cons, ih (List.cons_ne_nil _ _), List.intercalate_cons_cons, List.append_assoc]; rfl

theorem makePath_eq (kobj : Kobject) : PutAttr.makePath kobj.names = Put.pathOf kobj := by
  have reversed (names : List (List UInt8)) : PutAttr.makePath names = names.reverse.flatMap (47 :: ·) := by
    induction names with
    | nil => rfl
    | cons name names ih =>
      rw [makePath_cons, ih, List.reverse_cons, List.flatMap_append, List.flatMap_singleton]
  have some : kobj.names ≠ [] := by cases kobj <;> exact List.cons_ne_nil _ _
  rw [reversed, flatMap_slash _ (mt List.reverse_eq_nil_iff.mp some), Put.pathOf]

/-- The octets of an attribute, with what the buffer held behind its payload. -/
def Skb.stale (skb : Skb) (len i : Nat) : UInt8 := skb.memory (skb.tail + (4 + len) + i)

/-- What a call that returns 0 has written. -/
def Put.octets (skb : Skb) (p : Put) : PutAttr where
  type := p.wanted.1
  data := p.wanted.2
  stale := skb.stale p.wanted.2.length

theorem putHeader_eq (skb : Skb) (type len : Nat) :
    skb.putHeader type len = memcpy skb.memory skb.tail (le16 len ++ le16 type) := memcpy_front (le16 len) (le16 type)

/-- A call writes its attribute behind the tail, or leaves the buffer as it is. -/
theorem put_cases (skb : Skb) (p : Put) :
    p.put skb = (skb, -ENOBUFS) ∨
      (p.put skb).2 = 0 ∧ align (4 + p.wanted.2.length) ≤ skb.tailroom ∧
        (p.put skb).1.memory = memcpy skb.memory skb.tail (le16 (4 + p.wanted.2.length) ++ le16 p.wanted.1 ++ p.wanted.2) ∧
        (p.put skb).1.tail = skb.tail + align (4 + p.wanted.2.length) ∧ (p.put skb).1.size = skb.size := by
  have behind (header data : List UInt8) (four : header.length = 4) :
      memcpy (memcpy skb.memory skb.tail header) (skb.tail + 4) data = memcpy skb.memory skb.tail (header ++ data) := by
    rw [← four, memcpy_back]
  cases p with
  | attr type data small =>
    rw [Put.put, netlinkPutAttr]
    split_ifs with room
    · exact .inl rfl
    · refine .inr ⟨rfl, Nat.not_lt.mp room, ?_, rfl, rfl⟩
      simp only [Skb.put, putHeader_eq, List.take_length, Put.wanted]
      exact behind _ data rfl
  | path type kobj =>
    have length : (kobjMakePath kobj skb.memory none).2 = (Put.pathOf kobj).length := by
      rw [← makePath_eq, ← pathLength_eq]
      rfl
    rw [Put.put, netlinkPutAttrPath, length]
    split_ifs with room
    · exact .inl rfl
    · refine .inr ⟨rfl, Nat.not_lt.mp room, ?_, rfl, rfl⟩
      simp only [Skb.put, putHeader_eq, kobjMakePath_eq, makePath_eq, Put.wanted]
      exact behind _ (Put.pathOf kobj) rfl

/-- The memory behind the old tail holds the attribute. -/
theorem put_holds (skb : Skb) (p : Put) (done : (p.put skb).2 = 0) :
    Holds (p.put skb).1.memory skb.tail (p.octets skb).octets ∧
      (p.put skb).1.tail = skb.tail + (p.octets skb).octets.length ∧ (p.octets skb).len < 2 ^ 16 := by
  rcases put_cases skb p with failed | ⟨-, room, memory, tail, -⟩
  · rw [failed] at done
    cases done
  · have fits : (p.octets skb).len < 2 ^ 16 := by
      have below := le_align (p.octets skb).len
      have small := skb.small
      unfold Skb.tailroom at room
      change align (p.octets skb).len ≤ _ at room
      omega
    refine ⟨?_, ?_, fits⟩
    · rw [memory, PutAttr.octets]
      refine holds_append.mpr ⟨holds_memcpy _, fun i below => ?_⟩
      rw [List.length_map, List.length_range] at below
      have there : (le16 (p.octets skb).len ++ le16 (p.octets skb).type ++ (p.octets skb).data).length =
          4 + p.wanted.2.length := by
        rw [List.length_append]
        rfl
      rw [List.getD_eq_getElem _ _ (by simpa using below), List.getElem_map, List.getElem_range, there, memcpy,
        if_neg (by rw [show (le16 (4 + p.wanted.2.length) ++ le16 p.wanted.1 ++ p.wanted.2).length = _ from there]; omega)]
      rfl
    · rw [tail, PutAttr.octets_length]
      rfl

end Written

/-! ## What is found -/

section Found
variable {m : Nat → UInt8} {turns pos rest : Nat}

theorem u16_holds {n : Nat} {back : List UInt8} (holds : Holds m pos (le16 n ++ back)) :
    (u16 pos).value m = n % 2 ^ 16 := by
  have low := holds 0 (by simp [le16])
  have high := holds 1 (by simp [le16])
  simp only [le16, List.cons_append, List.getD_cons_zero, List.getD_cons_succ, Nat.add_zero] at low high
  simp only [u16, Peek.value_bind, Peek.value_cell, Peek.value_pure, low, high, UInt8.toNat_ofNat']
  omega

theorem payload_holds {type len : Nat} {data : List UInt8} (holds : Holds m (pos + 4) data) (whole : len = 4 + data.length) :
    (Head.mk pos type len).payload.value m = data := by
  subst whole
  refine List.ext_getElem (by simp [Head.payload]) fun i _ below => ?_
  have at_ := holds i below
  rw [List.getD_eq_getElem _ _ below] at at_
  simpa [Head.payload] using at_

/-- The loop comes to the attributes that are there, one after the other. -/
theorem heads_octets (attrs : List PutAttr) (fits : ∀ attr ∈ attrs, attr.len < 2 ^ 16) (typed : ∀ attr ∈ attrs, attr.type < 2 ^ 16) :
    ∀ turns pos, (attrs.flatMap PutAttr.octets).length < turns → Holds m pos (attrs.flatMap PutAttr.octets) →
      (heads m turns pos (attrs.flatMap PutAttr.octets).length).map (fun h => (h.type, h.payload.value m)) =
        attrs.map fun attr => (attr.type, attr.data) := by
  induction attrs with
  | nil =>
    intro turns pos enough holds
    obtain ⟨turns, rfl⟩ := Nat.exists_eq_add_one_of_ne_zero (Nat.ne_of_gt enough)
    rfl
  | cons attr attrs ih =>
    intro turns pos enough holds
    obtain ⟨turns, rfl⟩ := Nat.exists_eq_add_one_of_ne_zero (Nat.ne_of_gt (Nat.zero_lt_of_lt enough))
    obtain ⟨fit, fits⟩ := List.forall_mem_cons.mp fits
    obtain ⟨small, typed⟩ := List.forall_mem_cons.mp typed
    rw [List.flatMap_cons] at enough holds ⊢
    obtain ⟨here, later⟩ := holds_append.mp holds
    have octets := attr.octets_length
    have below := le_align attr.len
    have four : 4 ≤ attr.len := Nat.le_add_right 4 _
    obtain ⟨header, -⟩ := holds_append.mp here
    obtain ⟨header, payload⟩ := holds_append.mp header
    have len : (u16 pos).value m = attr.len := (u16_holds header).trans (Nat.mod_eq_of_lt fit)
    have second : Holds m (pos + 2) (le16 attr.type ++ []) := by simpa [le16] using (holds_append.mp header).2
    have type : (u16 (pos + 2)).value m = attr.type := (u16_holds second).trans (Nat.mod_eq_of_lt small)
    have data : (Head.mk pos attr.type attr.len).payload.value m = attr.data := payload_holds payload rfl
    rw [List.length_append, octets] at enough ⊢
    rw [heads, if_neg (by omega), len, type, if_neg (by omega), List.map_cons, List.map_cons, data, Nat.add_sub_cancel_left,
      ih fits typed turns _ (by omega) (by rw [← octets]; exact later)]

theorem course_collect (hs : List Head) : ∀ seen, course collect m seen hs =
    .ok (seen ++ hs.map fun h => (h.type, h.payload.value m)) := by
  induction hs with
  | nil => exact fun seen => congrArg _ (List.append_nil seen).symm
  | cons h hs ih =>
    intro seen
    rw [course]
    simp only [collect, Peek.value_bind, Peek.value_pure]
    rw [ih, List.map_cons, List.append_assoc]
    rfl

/-- Every attribute the loop comes to ends inside what was left. -/
theorem heads_inside : ∀ turns pos rest, ∀ h ∈ heads m turns pos rest, pos ≤ h.pos ∧ 4 ≤ h.len ∧ h.pos + h.len ≤ pos + rest := by
  intro turns
  induction turns with
  | zero => exact fun _ _ _ member => absurd member List.not_mem_nil
  | succ turns ih =>
    intro pos rest h member
    rw [heads] at member
    split_ifs at member with short bad
    · exact absurd member List.not_mem_nil
    · exact absurd member List.not_mem_nil
    · have below := le_align ((u16 pos).value m)
      rcases List.mem_cons.mp member with rfl | later
      · dsimp only
        omega
      · have inside := ih _ _ h later
        have some := inside.2.1
        omega

/-- More turns than octets change nothing. -/
theorem heads_turns {more : Nat} (enough : rest < turns) (also : rest < more) : heads m turns pos rest = heads m more pos rest := by
  induction turns generalizing more pos rest with
  | zero => exact absurd enough (Nat.not_lt_zero _)
  | succ turns ih =>
    obtain ⟨more, rfl⟩ := Nat.exists_eq_add_one_of_ne_zero (Nat.ne_of_gt (Nat.zero_lt_of_lt also))
    rw [heads, heads]
    split_ifs with short bad
    · rfl
    · rfl
    · have aligned := align_pos (show 4 ≤ (u16 pos).value m by omega)
      exact congrArg _ (ih (by omega) (by omega))

/-- The loop over any octets comes to an end without looking behind them. -/
theorem walk_collect (enough : rest < turns) (seen : List (Nat × List UInt8)) :
    (walk collect turns pos rest seen).value m =
        .ok (seen ++ (heads m turns pos rest).map fun h => (h.type, h.payload.value m)) ∧
      (walk collect turns pos rest seen).reach m ≤ pos + rest := by
  have inside : rest < 4 ∨ pos + rest ≤ pos + rest := .inr (Nat.le_refl _)
  have spec := @walk_spec _ _ collect m turns pos rest (pos + rest) seen enough inside
  rw [course_collect] at spec
  refine ⟨spec.1, spec.2.mpr fun before h after t all ran => ?_⟩
  have inside := heads_inside turns pos rest h (by rw [all]; exact List.mem_append_right _ List.mem_cons_self)
  simp only [collect, Head.payload, Peek.reach_bind, Peek.reach_block, Peek.reach_pure]
  split <;> omega

end Found

/-! ## There and back -/

/-- What was written stays in front of the tail. -/
theorem append_keeps {pos : Nat} {octets : List UInt8} (ps : List Put) : ∀ {skb after : Skb}, skb.append ps = some after →
    pos + octets.length ≤ skb.tail → Holds skb.memory pos octets → Holds after.memory pos octets := by
  induction ps with
  | nil =>
    intro skb after done before holds
    cases done
    exact holds
  | cons p ps ih =>
    intro skb after done before holds
    rw [Skb.append] at done
    split_ifs at done with zero
    rcases put_cases skb p with failed | ⟨-, -, memory, tail, -⟩
    · rw [failed] at zero
      cases zero
    · refine ih done (by rw [tail]; omega) ?_
      rw [memory]
      exact holds.memcpy before _

/-- Calls that return 0 leave their attributes behind each other. -/
theorem append_holds (ps : List Put) : ∀ {skb after : Skb}, skb.append ps = some after →
    ∃ attrs : List PutAttr, attrs.map (fun attr => (attr.type, attr.data)) = ps.map Put.wanted ∧
      (∀ attr ∈ attrs, attr.len < 2 ^ 16) ∧ (∀ attr ∈ attrs, attr.type < 2 ^ 16) ∧
      Holds after.memory skb.tail (attrs.flatMap PutAttr.octets) ∧
      after.tail = skb.tail + (attrs.flatMap PutAttr.octets).length := by
  induction ps with
  | nil =>
    intro skb after done
    cases done
    exact ⟨[], rfl, nofun, nofun, fun _ below => absurd below (Nat.not_lt_zero _), rfl⟩
  | cons p ps ih =>
    intro skb after done
    rw [Skb.append] at done
    split_ifs at done with zero
    obtain ⟨written, tail, fits⟩ := put_holds skb p zero
    obtain ⟨attrs, wanted, sized, typed, holds, ends⟩ := ih done
    have small : p.wanted.1 < 2 ^ 16 := by cases p <;> exact UInt16.toNat_lt _
    refine ⟨p.octets skb :: attrs, ?_, List.forall_mem_cons.mpr ⟨fits, sized⟩, List.forall_mem_cons.mpr ⟨small, typed⟩, ?_, ?_⟩
    · rw [List.map_cons, List.map_cons, wanted]
      rfl
    · rw [List.flatMap_cons]
      refine holds_append.mpr ⟨append_keeps ps done (Nat.le_of_eq tail.symm) written, ?_⟩
      rw [← tail]
      exact holds
    · rw [ends, tail, List.flatMap_cons, List.length_append, Nat.add_assoc]

/-- Attributes are read back as they were put, a path is written as long as it is announced, a
call without room changes nothing, and the loop over any octets ends inside them. -/
theorem attributes_round_trip :
    (∀ (skb after : Skb) (ps : List Put), skb.append ps = some after →
      ∀ turns, after.tail - skb.tail < turns →
        (walk collect turns skb.tail (after.tail - skb.tail) []).value after.memory = .ok (ps.map Put.wanted)) ∧
    (∀ (kobj : Kobject) (m : Nat → UInt8) (buf : Nat),
      kobjMakePath kobj m none = (m, (Put.pathOf kobj).length) ∧
        kobjMakePath kobj m (some buf) = (memcpy m buf (Put.pathOf kobj), (Put.pathOf kobj).length)) ∧
    (∀ (skb : Skb) (p : Put), (p.put skb).2 = 0 ∨ p.put skb = (skb, -ENOBUFS)) ∧
    (∀ (m : Nat → UInt8) (pos rest : Nat), ∃ seen, ∀ turns, rest < turns →
      (walk collect turns pos rest []).value m = .ok seen ∧ (walk collect turns pos rest []).reach m ≤ pos + rest) := by
  refine ⟨?_, ?_, ?_, ?_⟩
  · intro skb after ps done turns enough
    obtain ⟨attrs, wanted, sized, typed, holds, ends⟩ := append_holds ps done
    have length : after.tail - skb.tail = (attrs.flatMap PutAttr.octets).length := by omega
    rw [length] at enough ⊢
    rw [(walk_collect enough []).1, heads_octets attrs sized typed turns _ enough holds, wanted, List.nil_append]
  · intro kobj m buf
    rw [kobjMakePath_eq, makePath_eq]
    exact ⟨by rw [kobjMakePath, pathLength_eq, makePath_eq], rfl⟩
  · intro skb p
    rcases put_cases skb p with failed | ⟨zero, -⟩
    · exact .inr failed
    · exact .inl zero
  · intro m pos rest
    refine ⟨(heads m (rest + 1) pos rest).map fun h => (h.type, h.payload.value m), fun turns enough => ?_⟩
    have same : heads m turns pos rest = heads m (rest + 1) pos rest := heads_turns enough (Nat.lt_succ_self rest)
    rw [← same]
    exact walk_collect enough []

/-- A buffer for 32 octets behind the header of a message. -/
def freshSkb : Skb where
  memory _ := 0
  tail := 16
  size := 48
  inside := by decide
  small := by decide

theorem two_attributes_round_trip : ∃ after,
    freshSkb.append [.attr 7 [1, 2, 3, 4, 5] (by decide), .path 2 (.child [98, 99] (.root [97]))] = some after ∧
      (walk collect (after.tail - 16 + 1) 16 (after.tail - 16) []).value after.memory =
        .ok [(7, [1, 2, 3, 4, 5]), (2, [47, 97, 47, 98, 99])] := by
  obtain ⟨after, done⟩ : ∃ after,
      freshSkb.append [.attr 7 [1, 2, 3, 4, 5] (by decide), .path 2 (.child [98, 99] (.root [97]))] = some after :=
    Option.isSome_iff_exists.mp rfl
  exact ⟨after, done, attributes_round_trip.1 freshSkb after _ done _ (Nat.lt_succ_self _)⟩

end Vstuff.Kstreamer
