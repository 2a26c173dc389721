import Vstuff.Kstreamer.Attributes
import Mathlib.Data.List.Basic

/-! The feature values of a channel the library knows: they come with the message
that announces the channel, and messages of type CHAN_SET are to change them. -/
namespace Vstuff.Libkstreamer
open Kstreamer
set_option linter.all false

/-- A message in memory. -/
structure Message where
  memory : Nat → UInt8
  nlmsg_len : Nat

/-- struct ks_attr: its payload, and the word that `*(__u32 *)KS_ATTR_DATA(attr)` reads. -/
structure Attr where
  type : Nat
  data : List UInt8
  word : Nat
  deriving Repr, DecidableEq

/-- The attributes a loop with KS_ATTR_OK and KS_ATTR_NEXT comes to. -/
def Message.attrs (msg : Message) : List Attr :=
  (attributes msg.memory msg.nlmsg_len).map fun head =>
    { type := head.type, data := head.payload.value msg.memory, word := head.word.value msg.memory }

namespace Features

/-- struct ks_feature_value, with the id of its feature; `len` is the length of the payload. -/
structure FeatureValue where
  feature : Nat
  payload : List UInt8
  deriving Repr, DecidableEq

namespace FeatureValue

def len (featval : FeatureValue) : Nat := featval.payload.length

/-- What memcpy leaves of the payload. -/
def memcpy (featval : FeatureValue) (data : List UInt8) : FeatureValue :=
  { featval with payload := data.take featval.len ++ featval.payload.drop data.length }

end FeatureValue

/-- struct ks_chan -/
structure Chan where
  id : Nat := 0
  path : Option (List UInt8) := none
  «from» : Option Nat := none
  «to» : Option Nat := none
  features : List FeatureValue := []
  deriving Repr, DecidableEq

/-- KS_CHANATTR_ID, KS_CHANATTR_PATH, KS_CHANATTR_FROM, KS_CHANATTR_TO -/
def isOwn (attr : Attr) : Bool := 1 ≤ attr.type && attr.type ≤ 4

/-- A turn of the loop of `ks_chan_update_from_nlmsg`, with whether something has been written
behind a payload. An assertion that fails leaves nothing. -/
def updateAttr (s : Chan × Bool) (attr : Attr) : Option (Chan × Bool) :=
  if isOwn attr then some s
  else
    match s.1.features with
    | [] => some s
    -- the test has no braces, so that memcpy and break follow for the first value in any case
    | featval :: more =>
      if featval.feature = attr.type ∧ featval.len ≠ attr.data.length then none
      else some ({ s.1 with features := featval.memcpy attr.data :: more }, s.2 || decide (featval.len < attr.data.length))

/-- `ks_chan_update_from_nlmsg` -/
def chanUpdateFromNlmsg (chan : Chan) (msg : Message) : Option (Chan × Bool) := msg.attrs.foldlM updateAttr (chan, false)

/-- A turn of the loop of `ks_chan_create_from_nlmsg`, for the nodes and features that are known. -/
def createAttr (nodes features : Nat → Bool) (chan : Chan) (attr : Attr) : Option Chan :=
  if attr.type = 1 then some { chan with id := attr.word }
  else if attr.type = 2 then
    if chan.path.isSome then none else some { chan with path := some (attr.data.takeWhile (· ≠ 0)) }
  else if attr.type = 3 then
    if chan.from.isSome then none else some { chan with «from» := if nodes attr.word then some attr.word else none }
  else if attr.type = 4 then
    if chan.to.isSome then none else some { chan with «to» := if nodes attr.word then some attr.word else none }
  else if features attr.type then
    some { chan with features := { feature := attr.type, payload := attr.data } :: chan.features }
  else some chan

/-- `ks_chan_create_from_nlmsg` -/
def chanCreateFromNlmsg (nodes features : Nat → Bool) (msg : Message) : Option Chan := do
  let (chan, _) ← chanUpdateFromNlmsg {} msg
  msg.attrs.foldlM (createAttr nodes features) chan

/-! ## What a message is to change -/

/-- The attributes that carry values of features. -/
def carried (attrs : List Attr) : List Attr := attrs.filter fun attr => !isOwn attr

/-- The attribute has the id of the feature and the stored length. -/
def gives (featval : FeatureValue) (attr : Attr) : Bool :=
  attr.type == featval.feature && attr.data.length == featval.len

/-- The value after a message: the payload of the last attribute that gives one. -/
def wanted (attrs : List Attr) (featval : FeatureValue) : FeatureValue :=
  match ((carried attrs).filter (gives featval)).getLast? with
  | none => featval
  | some attr => { featval with payload := attr.data }

/-- The function returns, having changed the values the message names and nothing else, and
without writing behind a payload. -/
def Follows (chan : Chan) (msg : Message) : Prop :=
  chanUpdateFromNlmsg chan msg = some ({ chan with features := chan.features.map (wanted msg.attrs) }, false)

/-- The last of the attributes that reaches an octet. -/
def reaching (attrs : List Attr) (i : Nat) : Option Attr :=
  ((carried attrs).filter fun attr => i < attr.data.length).getLast?

/-- All attributes go well with the first value: none is longer, and its own are as long; every
octet of it is brought, by the last attribute that reaches so far, as it should be. The message
changes no other value. -/
def OnlyFirst (attrs : List Attr) : List FeatureValue → Prop
  | [] => True
  | featval :: more =>
    (∀ attr ∈ carried attrs, attr.data.length ≤ featval.len ∧ (attr.type = featval.feature → attr.data.length = featval.len)) ∧
    (∀ i < featval.len, ∀ attr ∈ reaching attrs i, attr.data[i]? = (wanted attrs featval).payload[i]?) ∧
    ∀ other ∈ more, wanted attrs other = other

/-! ## What the loop does -/

section Loop
variable {featval : FeatureValue} {more : List FeatureValue} {chan : Chan} {attrs : List Attr}

@[simp] theorem memcpy_feature (data : List UInt8) : (featval.memcpy data).feature = featval.feature := rfl

@[simp] theorem memcpy_len (data : List UInt8) : (featval.memcpy data).len = featval.len := by
  simp only [FeatureValue.memcpy, FeatureValue.len, List.length_append, List.length_take, List.length_drop]
  omega

theorem memcpy_getElem? (data : List UInt8) {i : Nat} (below : i < featval.len) :
    (featval.memcpy data).payload[i]? = if i < data.length then data[i]? else featval.payload[i]? := by
  unfold FeatureValue.len at below
  simp only [FeatureValue.memcpy, FeatureValue.len, List.getElem?_append, List.length_take, List.getElem?_take,
    List.getElem?_drop]
  split_ifs with h₁ h₂ h₃ <;> first | rfl | omega | skip
  exact congrArg _ (by omega)

/-- The first value after all attributes. -/
def copied (featval : FeatureValue) (attrs : List Attr) : FeatureValue :=
  (carried attrs).foldl (fun featval attr => featval.memcpy attr.data) featval

theorem carried_cons (attr : Attr) (attrs : List Attr) :
    carried (attr :: attrs) = if isOwn attr then carried attrs else attr :: carried attrs := by
  unfold carried
  cases own : isOwn attr <;> simp [own]

@[simp] theorem copied_nil : copied featval [] = featval := rfl

theorem copied_cons (attr : Attr) (attrs : List Attr) :
    copied featval (attr :: attrs) = if isOwn attr then copied featval attrs else copied (featval.memcpy attr.data) attrs := by
  unfold copied
  rw [carried_cons]
  split <;> rfl

theorem copied_keeps (attrs : List Attr) : ∀ featval : FeatureValue,
    (copied featval attrs).feature = featval.feature ∧ (copied featval attrs).len = featval.len := by
  induction attrs with
  | nil => exact fun _ => ⟨rfl, rfl⟩
  | cons attr attrs ih =>
    intro featval
    rw [copied_cons]
    split
    · exact ih featval
    · simpa using ih (featval.memcpy attr.data)

/-- With no value stored, nothing happens. -/
theorem update_none (empty : chan.features = []) : ∀ beyond, attrs.foldlM updateAttr (chan, beyond) = some (chan, beyond) := by
  induction attrs with
  | nil => exact fun _ => rfl
  | cons attr attrs ih =>
    intro beyond
    have turn : updateAttr (chan, beyond) attr = some (chan, beyond) := by
      simp [updateAttr, empty]
    rw [List.foldlM_cons, turn]
    exact ih beyond

/-- Otherwise an attribute goes to the first value. -/
theorem updateAttr_first {attr : Attr} (other : ¬isOwn attr) (beyond : Bool) :
    updateAttr ({ chan with features := featval :: more }, beyond) attr =
      if featval.feature = attr.type ∧ featval.len ≠ attr.data.length then none
      else some ({ chan with features := featval.memcpy attr.data :: more }, beyond || decide (featval.len < attr.data.length)) :=
  if_neg other

theorem update_first (chan : Chan) (more : List FeatureValue) (attrs : List Attr) : ∀ (featval : FeatureValue) (beyond : Bool),
    attrs.foldlM updateAttr ({ chan with features := featval :: more }, beyond) =
      if ∀ attr ∈ carried attrs, attr.type = featval.feature → attr.data.length = featval.len then
        some ({ chan with features := copied featval attrs :: more },
          beyond || (carried attrs).any fun attr => decide (featval.len < attr.data.length))
      else none := by
  induction attrs with
  | nil =>
    intro featval beyond
    simp [carried, copied]
  | cons attr attrs ih =>
    intro featval beyond
    rw [List.foldlM_cons, carried_cons, copied_cons]
    by_cases own : isOwn attr
    · have turn : updateAttr ({ chan with features := featval :: more }, beyond) attr =
          some ({ chan with features := featval :: more }, beyond) := if_pos own
      rw [if_pos own, if_pos own, turn]
      exact ih featval beyond
    · rw [if_neg own, if_neg own, updateAttr_first own]
      by_cases aborts : featval.feature = attr.type ∧ featval.len ≠ attr.data.length
      · rw [if_pos aborts, if_neg fun all => aborts.2 (all attr List.mem_cons_self aborts.1.symm).symm]
        rfl
      · have fits : attr.type = featval.feature → attr.data.length = featval.len := fun same =>
          (not_not.mp fun other => aborts ⟨same.symm, other⟩).symm
        have all : (∀ a ∈ attr :: carried attrs, a.type = featval.feature → a.data.length = featval.len) ↔
            ∀ a ∈ carried attrs, a.type = featval.feature → a.data.length = featval.len := by
          rw [List.forall_mem_cons]
          exact and_iff_right fits
        rw [if_neg aborts]
        refine (ih _ _).trans ?_
        simp only [memcpy_feature, memcpy_len, all, List.any_cons, Bool.or_assoc]

/-- An octet of the first value is the one of the last attribute that reaches it. -/
theorem copied_getElem? (attrs : List Attr) {i : Nat} : ∀ featval : FeatureValue, i < featval.len →
    (copied featval attrs).payload[i]? = match reaching attrs i with
      | none => featval.payload[i]?
      | some attr => attr.data[i]? := by
  unfold reaching copied
  induction carried attrs with
  | nil => exact fun _ _ => rfl
  | cons attr attrs ih =>
    intro featval below
    rw [List.foldl_cons, ih _ (by simpa using below), memcpy_getElem? _ below]
    by_cases reaches : i < attr.data.length
    · rw [List.filter_cons_of_pos (by simpa using reaches), List.getLast?_cons]
      cases (attrs.filter fun attr => decide (i < attr.data.length)).getLast? <;> simp [reaches]
    · rw [List.filter_cons_of_neg (by simpa using reaches)]
      cases (attrs.filter fun attr => decide (i < attr.data.length)).getLast? <;> simp [reaches]

theorem gives_reaches {attr : Attr} {i : Nat} (giving : gives featval attr = true) (below : i < featval.len) :
    i < attr.data.length := by
  rw [gives, Bool.and_eq_true, beq_iff_eq, beq_iff_eq] at giving
  omega

theorem wanted_keeps (attrs : List Attr) (featval : FeatureValue) :
    (wanted attrs featval).feature = featval.feature ∧ (wanted attrs featval).len = featval.len := by
  unfold wanted
  cases last : ((carried attrs).filter (gives featval)).getLast? with
  | none => exact ⟨rfl, rfl⟩
  | some attr =>
    have giving := (List.mem_filter.mp (List.mem_of_getLast? last)).2
    rw [gives, Bool.and_eq_true, beq_iff_eq, beq_iff_eq] at giving
    exact ⟨rfl, giving.2⟩

/-- Where no attribute reaches, none gives the value. -/
theorem wanted_unreached {i : Nat} (below : i < featval.len) (nobody : reaching attrs i = none) : wanted attrs featval = featval := by
  have none : (carried attrs).filter (gives featval) = [] := by
    refine List.filter_eq_nil_iff.mpr fun attr member giving => ?_
    have reached := List.filter_eq_nil_iff.mp (List.getLast?_eq_none_iff.mp nobody) attr member
    exact reached (by simpa using gives_reaches giving below)
  rw [wanted, none]
  rfl

theorem copied_eq_wanted_iff : copied featval attrs = wanted attrs featval ↔
    ∀ i < featval.len, ∀ attr ∈ reaching attrs i, attr.data[i]? = (wanted attrs featval).payload[i]? := by
  obtain ⟨feature, len⟩ := copied_keeps attrs featval
  obtain ⟨feature', len'⟩ := wanted_keeps attrs featval
  constructor
  · intro same i below attr reached
    rw [← same, copied_getElem? attrs featval below, Option.mem_def.mp reached]
  · intro octets
    have payload : (copied featval attrs).payload = (wanted attrs featval).payload := by
      refine List.ext_getElem? fun i => ?_
      rcases Nat.lt_or_ge i featval.len with below | beyond
      · rw [copied_getElem? attrs featval below]
        cases reached : reaching attrs i with
        | none => rw [wanted_unreached below reached]
        | some attr => exact octets i below attr reached
      · unfold FeatureValue.len at len len' beyond
        rw [List.getElem?_eq_none (by omega), List.getElem?_eq_none (by omega)]
    cases left : copied featval attrs
    cases right : wanted attrs featval
    rw [left] at payload feature
    rw [right] at payload feature'
    cases payload
    cases feature
    cases feature'
    rfl

end Loop

/-- A message of type CHAN_SET changes what it names where it has nothing but for the first value. -/
theorem values_follow_iff (chan : Chan) (msg : Message) : Follows chan msg ↔ OnlyFirst msg.attrs chan.features := by
  unfold Follows chanUpdateFromNlmsg
  cases stored : chan.features with
  | nil =>
    rw [update_none stored]
    cases chan
    cases stored
    exact iff_of_true rfl trivial
  | cons featval more =>
    have shape : chan = { chan with features := featval :: more } := by
      cases chan
      cases stored
      rfl
    have result := update_first chan more msg.attrs featval false
    rw [← shape] at result
    have kept : more.map (wanted msg.attrs) = more ↔ ∀ other ∈ more, wanted msg.attrs other = other := by
      have pointwise : more.map (wanted msg.attrs) = more.map id ↔ ∀ other ∈ more, wanted msg.attrs other = id other :=
        List.map_inj_left
      rwa [List.map_id] at pointwise
    rw [result, OnlyFirst, ← copied_eq_wanted_iff, ← kept]
    constructor
    · intro done
      split_ifs at done with fits
      simp only [Option.some.injEq, Prod.mk.injEq, Chan.mk.injEq, true_and, List.map_cons, List.cons.injEq, Bool.false_or,
        List.any_eq_false, decide_eq_true_eq, Nat.not_lt] at done
      obtain ⟨⟨first, others⟩, inside⟩ := done
      exact ⟨fun attr member => ⟨inside attr member, fits attr member⟩, first, others.symm⟩
    · rintro ⟨fits, first, others⟩
      rw [if_pos fun attr member => (fits attr member).2, first, List.map_cons, others]
      refine congrArg some (congrArg (Prod.mk _) ?_)
      simpa [List.any_eq_false] using fun attr member => (fits attr member).1

/-- The message that announces a channel with a value of feature 17, then one of feature 18. -/
def twoValues : Message where
  memory i := ([0, 0, 0, 0, 0, 0, 0, 0, 0, 0, 0, 0, 0, 0, 0, 0,
    8, 0, 1, 0, 5, 0, 0, 0, 8, 0, 17, 0, 1, 1, 1, 1, 6, 0, 18, 0, 2, 2, 0, 0] : List UInt8).getD i 0
  nlmsg_len := 40

/-- A message that sets the value of feature 17. -/
def setFirst : Message where
  memory i := ([0, 0, 0, 0, 0, 0, 0, 0, 0, 0, 0, 0, 0, 0, 0, 0,
    8, 0, 1, 0, 5, 0, 0, 0, 8, 0, 17, 0, 3, 3, 3, 3] : List UInt8).getD i 0
  nlmsg_len := 32

/-- The value of feature 18 is overwritten, and two octets behind it are. -/
theorem value_of_other_feature : ∃ chan, chanCreateFromNlmsg (fun _ => false) (fun _ => true) twoValues = some chan ∧
    ¬Follows chan setFirst := by
  refine ⟨{ id := 5, features := [{ feature := 18, payload := [2, 2] }, { feature := 17, payload := [1, 1, 1, 1] }] },
    by decide, ?_⟩
  unfold Follows
  decide

end Features
end Vstuff.Libkstreamer
