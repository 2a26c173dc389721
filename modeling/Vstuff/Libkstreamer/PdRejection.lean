import Mathlib.Data.List.Induction
import Vstuff.Libkstreamer.PdReading

/-! Strings that are no pipeline description. The parser leaves out each token that does not fit, and an
illegal one ends the input as if nothing came behind it. -/
namespace Vstuff.Libkstreamer.Pd
open Lapd (Octets)
set_option linter.all false

/-! ## The grammar -/

/-- assignment ::= IDENTIFIER EQ STRING | IDENTIFIER EQ INTEGER -/
inductive Assignment : List TokenId → Prop where
  | string : Assignment [.word .identifier, .eq, .word .string]
  | integer : Assignment [.word .identifier, .eq, .word .integer]

/-- parameters ::= assignment | parameters COMMA assignment -/
inductive Parameters : List TokenId → Prop where
  | assignment {ass : List TokenId} : Assignment ass → Parameters ass
  | more {b ass : List TokenId} : Parameters b → Assignment ass → Parameters (b ++ .comma :: ass)

/-- chandescr ::= chanid | chanid LPAREN parameters RPAREN, where chanid is a word. -/
inductive Chandescr : List TokenId → Prop where
  | chanid (id : Word) : Chandescr [.word id]
  | parameters (id : Word) {pars : List TokenId} : Parameters pars → Chandescr (.word id :: .lparen :: (pars ++ [.rparen]))

/-- chanlist ::= chandescr | chanlist GT chandescr -/
inductive Chanlist : List TokenId → Prop where
  | chandescr {chan : List TokenId} : Chandescr chan → Chanlist chan
  | more {b chan : List TokenId} : Chanlist b → Chandescr chan → Chanlist (b ++ .gt :: chan)

/-- pipeline ::= nodeid GT chanlist GT nodeid, where nodeid is a word. -/
inductive Pipeline : List TokenId → Prop where
  | pipeline (ep1 ep2 : Word) {ch : List TokenId} : Chanlist ch → Pipeline (.word ep1 :: .gt :: (ch ++ [.gt, .word ep2]))

/-- A sentence can go on from here. -/
def Viable (ids : List TokenId) : Prop := ∃ rest, Pipeline (ids ++ rest)

/-! ## What is taken and what is left out -/

/-- The tokens that fit. -/
def Config.takes : Config → TokenId → Bool
  | .start, .word _ | .gt .., .word _ => true
  | .nodeWord .., .gt | .node .., .gt | .chanlist .., .gt | .rparen .., .gt => true
  | .word .., .gt | .word .., .lparen => true
  | .lparen .., .word .identifier | .comma .., .word .identifier => true
  | .name .., .eq => true
  | .eq .., .word .string | .eq .., .word .integer => true
  | .value .., .comma | .value .., .rparen | .parameters .., .comma | .parameters .., .rparen => true
  | _, _ => false

/-- Behind a `>`. -/
def KeptGt : Option (List PdChannel) → List TokenId → Prop
  | none, ids => ∃ ep1, ids = [.word ep1, .gt]
  | some _, ids => ∃ ep1 ch, Chanlist ch ∧ ids = .word ep1 :: .gt :: (ch ++ [.gt])

/-- Behind the `(` of a channel. -/
def KeptLparen (ch : Option (List PdChannel)) (ids : List TokenId) : Prop :=
  ∃ front id, KeptGt ch front ∧ ids = front ++ [.word id, .lparen]

/-- In front of a parameter. -/
def KeptComma (ch : Option (List PdChannel)) : Option (List PdParameter) → List TokenId → Prop
  | none, ids => KeptLparen ch ids
  | some _, ids => ∃ front pars, KeptLparen ch front ∧ Parameters pars ∧ ids = front ++ pars ++ [.comma]

/-- The tokens that lead to a configuration. -/
def Config.Kept : Config → List TokenId → Prop
  | .start, ids => ids = []
  | .nodeWord .., ids => ∃ ep1, ids = [.word ep1]
  | .node .., ids => ∃ ep1, ids = [.word ep1]
  | .gt _ ch, ids => KeptGt ch ids
  | .word _ ch _ _, ids => ∃ front id, KeptGt ch front ∧ ids = front ++ [.word id]
  | .chanlist .., ids => ∃ ep1 ch, Chanlist ch ∧ ids = .word ep1 :: .gt :: ch
  | .lparen _ ch _, ids => KeptLparen ch ids
  | .name _ ch _ pars _, ids => ∃ front, KeptComma ch pars front ∧ ids = front ++ [.word .identifier]
  | .eq _ ch _ pars _, ids => ∃ front, KeptComma ch pars front ∧ ids = front ++ [.word .identifier, .eq]
  | .value _ ch _ pars _ _ _, ids => ∃ front ass, KeptComma ch pars front ∧ Assignment ass ∧ ids = front ++ ass
  | .parameters _ ch _ _, ids => ∃ front pars, KeptLparen ch front ∧ Parameters pars ∧ ids = front ++ pars
  | .comma _ ch _ pars, ids => KeptComma ch (some pars) ids
  | .rparen _ ch _ _, ids => ∃ front pars, KeptLparen ch front ∧ Parameters pars ∧ ids = front ++ pars ++ [.rparen]

section Kept
variable {zeroed : Nat → Bool} {ch : Option (List PdChannel)} {ids : List TokenId}

/-- A channel more. -/
theorem keptGt_chandescr {chan : List TokenId} (kept : KeptGt ch ids) (described : Chandescr chan) :
    ∃ ep1 list, Chanlist list ∧ ids ++ chan = .word ep1 :: .gt :: list := by
  cases ch with
  | none =>
    obtain ⟨ep1, rfl⟩ := kept
    exact ⟨ep1, chan, .chandescr described, rfl⟩
  | some ch =>
    obtain ⟨ep1, list, listed, rfl⟩ := kept
    refine ⟨ep1, list ++ .gt :: chan, .more listed described, ?_⟩
    rw [List.cons_append, List.cons_append, List.append_assoc]
    rfl

/-- A parameter more. -/
theorem keptComma_assignment {pars : Option (List PdParameter)} {ass : List TokenId} (kept : KeptComma ch pars ids)
    (assigned : Assignment ass) : ∃ front list, KeptLparen ch front ∧ Parameters list ∧ ids ++ ass = front ++ list := by
  cases pars with
  | none => exact ⟨ids, ass, kept, .assignment assigned, rfl⟩
  | some pars =>
    obtain ⟨front, list, kept, listed, rfl⟩ := kept
    refine ⟨front, list ++ .comma :: ass, kept, .more listed assigned, ?_⟩
    rw [List.append_assoc, List.append_assoc]
    rfl

/-- The parameters of a channel make it whole. -/
theorem keptLparen_parameters {list : List TokenId} (kept : KeptLparen ch ids) (listed : Parameters list) :
    ∃ front chan, KeptGt ch front ∧ Chandescr chan ∧ ids ++ list ++ [.rparen] = front ++ chan := by
  obtain ⟨front, id, kept, rfl⟩ := kept
  refine ⟨front, .word id :: .lparen :: (list ++ [.rparen]), kept, .parameters id listed, ?_⟩
  rw [List.append_assoc, List.append_assoc]
  rfl

/-- What has been kept has been kept in the settled configuration too. -/
theorem kept_settled {c : Config} (kept : c.Kept ids) : (c.settled zeroed).Kept ids := by
  cases c with
  | word ep1 ch kind id =>
    obtain ⟨front, kind', kept, rfl⟩ := kept
    exact keptGt_chandescr kept (.chanid kind')
  | value ep1 ch id pars key isString text =>
    obtain ⟨front, ass, kept, assigned, rfl⟩ := kept
    exact keptComma_assignment kept assigned
  | rparen ep1 ch id pars =>
    obtain ⟨front, list, kept, listed, rfl⟩ := kept
    obtain ⟨front', chan, kept, described, joined⟩ := keptLparen_parameters kept listed
    rw [joined]
    exact keptGt_chandescr kept described
  | _ => exact kept

/-- A token that fits in a settled configuration is kept. -/
theorem kept_shift {c : Config} {t : PdToken} (kept : c.Kept ids) (settled : c.settled zeroed = c) (fits : c.takes t.id) :
    (c.shift t).Kept (ids ++ [t.id]) := by
  obtain ⟨id, text⟩ := t
  cases c with
  | start =>
    subst kept
    cases id with
    | word kind => exact ⟨kind, rfl⟩
    | _ => cases fits
  | node ep1 =>
    obtain ⟨kind, rfl⟩ := kept
    cases id with
    | gt => exact ⟨kind, rfl⟩
    | _ => cases fits
  | gt ep1 ch =>
    cases id with
    | word kind => exact ⟨ids, kind, kept, rfl⟩
    | _ => cases fits
  | chanlist ep1 ch =>
    obtain ⟨kind, list, listed, rfl⟩ := kept
    cases id with
    | gt => exact ⟨kind, list, listed, rfl⟩
    | _ => cases fits
  | lparen ep1 ch id' =>
    cases id with
    | word kind =>
      cases kind with
      | identifier => exact ⟨ids, kept, rfl⟩
      | _ => cases fits
    | _ => cases fits
  | name ep1 ch id' pars key =>
    obtain ⟨front, kept, rfl⟩ := kept
    cases id with
    | eq => exact ⟨front, kept, List.append_assoc ..⟩
    | _ => cases fits
  | eq ep1 ch id' pars key =>
    obtain ⟨front, kept, rfl⟩ := kept
    cases id with
    | word kind =>
      cases kind with
      | string => exact ⟨front, _, kept, .string, List.append_assoc ..⟩
      | integer => exact ⟨front, _, kept, .integer, List.append_assoc ..⟩
      | _ => cases fits
    | _ => cases fits
  | parameters ep1 ch id' pars =>
    obtain ⟨front, list, kept, listed, rfl⟩ := kept
    cases id with
    | comma => exact ⟨front, list, kept, listed, rfl⟩
    | rparen => exact ⟨front, list, kept, listed, rfl⟩
    | _ => cases fits
  | comma ep1 ch id' pars =>
    cases id with
    | word kind =>
      cases kind with
      | identifier => exact ⟨ids, kept, rfl⟩
      | _ => cases fits
    | _ => cases fits
  | _ => cases settled

/-- The parenthesis behind the name of a channel is the only token that fits only where nothing has been
reduced. -/
theorem takes_settled (c : Config) (id : TokenId) : (c.settled zeroed).takes id ↔ c.takes id ∧ id ≠ .lparen := by
  cases id with
  | lparen => exact iff_of_false (by cases c <;> exact Bool.false_ne_true) fun other => other.2 rfl
  | _ =>
    rw [and_iff_left nofun]
    cases c <;> rfl

/-- A token that does not fit only has the stack reduced. -/
theorem next_unfit {c : Config} {t : PdToken} (unfit : ¬c.takes t.id) : c.next zeroed t = c.settled zeroed := by
  have left (c : Config) (unfit : ¬c.takes t.id) : c.shift t = c := by
    unfold Config.shift
    split
    all_goals first | rfl | simp_all [Config.takes]
  unfold Config.next
  split
  · next ep1 ch kind id lparen =>
    rw [lparen] at unfit
    exact absurd rfl unfit
  · exact left _ fun fits => unfit ((takes_settled _ _).mp fits).1

/-- For all tokens but that parenthesis it does not matter whether the configuration has been settled. -/
theorem next_settled {c : Config} {t : PdToken} (other : t.id ≠ .lparen) : (c.settled zeroed).next zeroed t = c.next zeroed t := by
  have next (c : Config) : c.next zeroed t = (c.settled zeroed).shift t := by
    unfold Config.next
    split
    · next lparen => exact absurd lparen other
    · rfl
  rw [next, next, settled_settled]

/-- A token that fits is kept. -/
theorem kept_next {c : Config} {t : PdToken} (kept : c.Kept ids) (fits : c.takes t.id) :
    (c.next zeroed t).Kept (ids ++ [t.id]) := by
  by_cases opens : ∃ ep1 ch kind id, c = .word ep1 ch kind id ∧ t.id = .lparen
  · obtain ⟨ep1, ch, kind, id, rfl, lparen⟩ := opens
    obtain ⟨front, kind', kept, rfl⟩ := kept
    have next : (Config.word ep1 ch kind id).next zeroed t = .lparen ep1 ch id := by
      simp only [Config.next, lparen]
    rw [next, lparen]
    exact ⟨front, kind', kept, List.append_assoc ..⟩
  · have next : c.next zeroed t = (c.settled zeroed).shift t := by
      unfold Config.next
      split
      · next ep1 ch kind id lparen => exact absurd ⟨ep1, ch, kind, id, rfl, lparen⟩ opens
      · rfl
    have other : (c.settled zeroed).takes t.id := by
      refine (takes_settled c t.id).mpr ⟨fits, fun lparen => opens ?_⟩
      rw [lparen] at fits
      cases c with
      | word ep1 ch kind id => exact ⟨ep1, ch, kind, id, rfl, lparen⟩
      | _ => cases fits
    rw [next]
    exact kept_shift (kept_settled kept) (settled_settled zeroed c) other

end Kept

/-! ## Sentences -/

section Viable
variable {ch : Option (List PdChannel)} {ids : List TokenId}

/-- The second endpoint behind a channel. -/
theorem pipeline_chandescr {chan : List TokenId} (kept : KeptGt ch ids) (described : Chandescr chan) (ep2 : Word) :
    Pipeline (ids ++ chan ++ [.gt, .word ep2]) := by
  obtain ⟨ep1, list, listed, joined⟩ := keptGt_chandescr kept described
  rw [joined]
  exact .pipeline ep1 ep2 listed

theorem viable_parameters {front list : List TokenId} (kept : KeptLparen ch front) (listed : Parameters list) :
    Viable (front ++ list) := by
  obtain ⟨front', chan, kept, described, joined⟩ := keptLparen_parameters kept listed
  refine ⟨[.rparen, .gt, .word .string], ?_⟩
  have split : front ++ list ++ [TokenId.rparen, .gt, .word .string] =
      front ++ list ++ [TokenId.rparen] ++ [TokenId.gt, .word .string] :=
    (List.append_assoc (front ++ list) [TokenId.rparen] _).symm
  rw [split, joined]
  exact pipeline_chandescr kept described .string

theorem viable_of_append {rest : List TokenId} (viable : Viable (ids ++ rest)) : Viable ids := by
  obtain ⟨more, sentence⟩ := viable
  exact ⟨rest ++ more, List.append_assoc .. ▸ sentence⟩

theorem viable_assignment {pars : Option (List PdParameter)} (kept : KeptComma ch pars ids) {ass : List TokenId}
    (assigned : Assignment ass) : Viable (ids ++ ass) := by
  obtain ⟨front, list, kept, listed, joined⟩ := keptComma_assignment kept assigned
  rw [joined]
  exact viable_parameters kept listed

theorem viable_gt (kept : KeptGt ch ids) (chan : Word) : Viable (ids ++ [TokenId.word chan]) :=
  ⟨_, pipeline_chandescr kept (.chanid chan) .string⟩

/-- What is kept can go on to a sentence. -/
theorem viable_of_kept {c : Config} (kept : c.Kept ids) : Viable ids := by
  have first (ep1 : Word) : Viable [.word ep1, .gt] := viable_of_append (viable_gt (show KeptGt none _ from ⟨ep1, rfl⟩) .string)
  cases c with
  | start =>
    subst kept
    exact viable_of_append (first .string)
  | nodeWord kind ep1 =>
    obtain ⟨kind', rfl⟩ := kept
    exact viable_of_append (first kind')
  | node ep1 =>
    obtain ⟨kind', rfl⟩ := kept
    exact viable_of_append (first kind')
  | gt ep1 ch => exact viable_of_append (viable_gt kept .string)
  | word ep1 ch kind id =>
    obtain ⟨front, kind', kept, rfl⟩ := kept
    exact viable_gt kept kind'
  | chanlist ep1 ch =>
    obtain ⟨kind', list, listed, rfl⟩ := kept
    exact ⟨[.gt, .word .string], .pipeline kind' .string listed⟩
  | lparen ep1 ch id => exact viable_of_append (viable_parameters kept (.assignment .string))
  | name ep1 ch id pars key =>
    obtain ⟨front, kept, rfl⟩ := kept
    have viable : Viable (front ++ [TokenId.word .identifier] ++ [TokenId.eq, .word .string]) :=
      (List.append_assoc front [TokenId.word .identifier] _).symm ▸ viable_assignment kept .string
    exact viable_of_append viable
  | eq ep1 ch id pars key =>
    obtain ⟨front, kept, rfl⟩ := kept
    have viable : Viable (front ++ [TokenId.word .identifier, .eq] ++ [TokenId.word .string]) :=
      (List.append_assoc front [TokenId.word .identifier, .eq] _).symm ▸ viable_assignment kept .string
    exact viable_of_append viable
  | value ep1 ch id pars key isString text =>
    obtain ⟨front, ass, kept, assigned, rfl⟩ := kept
    exact viable_assignment kept assigned
  | parameters ep1 ch id pars =>
    obtain ⟨front, list, kept, listed, rfl⟩ := kept
    exact viable_parameters kept listed
  | comma ep1 ch id pars =>
    have kept : KeptComma ch (some pars) ids := kept
    exact viable_of_append (viable_assignment kept .string)
  | rparen ep1 ch id pars =>
    obtain ⟨front, list, kept, listed, rfl⟩ := kept
    obtain ⟨front', chan, kept, described, joined⟩ := keptLparen_parameters kept listed
    rw [joined]
    exact ⟨_, pipeline_chandescr kept described .string⟩

/-- The second endpoint ends a sentence. -/
theorem pipeline_of_kept {ep1 id : PdToken} {ch : List PdChannel} {kind : Word}
    (kept : (Config.word ep1 (some ch) kind id).Kept ids) : Pipeline ids := by
  obtain ⟨front, ep2, ⟨ep1', list, listed, rfl⟩, rfl⟩ := kept
  have joined : TokenId.word ep1' :: TokenId.gt :: (list ++ [TokenId.gt]) ++ [TokenId.word ep2] =
      TokenId.word ep1' :: TokenId.gt :: (list ++ [TokenId.gt, .word ep2]) := by
    rw [List.cons_append, List.cons_append, List.append_assoc]
    rfl
  rw [joined]
  exact .pipeline ep1' ep2 listed

end Viable

/-! ## The run through a sentence -/

/-- All tokens fit, one after the other. -/
def Taken (zeroed : Nat → Bool) : Config → List PdToken → Prop
  | _, [] => True
  | c, t :: tokens => c.takes t.id ∧ Taken zeroed (c.next zeroed t) tokens

/-- Tokens with these ids all fit, and lead to a configuration of a kind. -/
def Leads (zeroed : Nat → Bool) (c : Config) (ids : List TokenId) (P : Config → Prop) : Prop :=
  ∀ tokens : List PdToken, tokens.map PdToken.id = ids → Taken zeroed c tokens ∧ P ((simulation zeroed).after c tokens)

section Leads
variable {zeroed : Nat → Bool} {c : Config} {ids : List TokenId} {P Q : Config → Prop}

theorem taken_append {tokens tokens' : List PdToken} : Taken zeroed c (tokens ++ tokens') ↔
    Taken zeroed c tokens ∧ Taken zeroed ((simulation zeroed).after c tokens) tokens' := by
  induction tokens generalizing c with
  | nil => exact (and_iff_right trivial).symm
  | cons t tokens ih =>
    rw [List.cons_append, Taken, ih, Taken, and_assoc]
    rfl

theorem leads_nil (here : P c) : Leads zeroed c [] P := by
  intro tokens same
  rw [List.map_eq_nil_iff] at same
  subst same
  exact ⟨trivial, here⟩

/-- One token, and then the others. -/
theorem leads_cons {id : TokenId} (fits : c.takes id)
    (further : ∀ text, Leads zeroed (c.next zeroed { id, text }) ids P) : Leads zeroed c (id :: ids) P := by
  intro tokens same
  obtain ⟨⟨id', text⟩, tokens, rfl, is, others⟩ := List.map_eq_cons_iff.mp same
  obtain rfl : id' = id := is
  obtain ⟨taken, there⟩ := further text tokens others
  exact ⟨⟨fits, taken⟩, there⟩

/-- Some tokens, and then others. -/
theorem leads_append {ids' : List TokenId} (first : Leads zeroed c ids Q)
    (further : ∀ c', Q c' → Leads zeroed c' ids' P) : Leads zeroed c (ids ++ ids') P := by
  intro tokens same
  obtain ⟨tokens, tokens', rfl, same, same'⟩ := List.map_eq_append_iff.mp same
  obtain ⟨taken, there⟩ := first tokens same
  obtain ⟨taken', there'⟩ := further _ there tokens' same'
  refine ⟨taken_append.mpr ⟨taken, taken'⟩, ?_⟩
  rw [(simulation zeroed).after_append]
  exact there'

variable {ep1 id : PdToken} {ch : Option (List PdChannel)}

/-- A parameter, from where its name is expected. -/
theorem leads_assignment {pars : Option (List PdParameter)} {ass : List TokenId} (assigned : Assignment ass)
    (expected : c.takes (.word .identifier))
    (named : ∀ text, c.next zeroed { id := .word .identifier, text } = .name ep1 ch id pars { id := .word .identifier, text }) :
    Leads zeroed c ass fun c' => ∃ pars key isString text, c' = .value ep1 ch id pars key isString text := by
  cases assigned with
  | string =>
    refine leads_cons expected fun key => ?_
    rw [named key]
    exact leads_cons rfl fun eq => leads_cons rfl fun text => leads_nil ⟨pars, _, true, _, rfl⟩
  | integer =>
    refine leads_cons expected fun key => ?_
    rw [named key]
    exact leads_cons rfl fun eq => leads_cons rfl fun text => leads_nil ⟨pars, _, false, _, rfl⟩

/-- Parameters, from the parenthesis to the last value. -/
theorem leads_parameters {list : List TokenId} (listed : Parameters list) :
    Leads zeroed (.lparen ep1 ch id) list fun c' => ∃ pars key isString text, c' = .value ep1 ch id pars key isString text := by
  induction listed with
  | assignment assigned => exact leads_assignment assigned rfl fun text => rfl
  | more listed assigned ih =>
    refine leads_append ih fun c' there => ?_
    obtain ⟨pars, key, isString, text, rfl⟩ := there
    exact leads_cons rfl fun comma => leads_assignment assigned rfl fun text => rfl

/-- The configurations behind a channel. -/
def BehindChannel (zeroed : Nat → Bool) (ep1 : PdToken) (c : Config) : Prop :=
  c.takes .gt ∧ ∀ text, ∃ ch, c.next zeroed { id := .gt, text } = .gt ep1 (some ch)

/-- A channel, from the `>` in front of it. -/
theorem leads_chandescr {chan : List TokenId} (described : Chandescr chan) :
    Leads zeroed (.gt ep1 ch) chan (BehindChannel zeroed ep1) := by
  cases described with
  | chanid kind => exact leads_cons rfl fun id => leads_nil ⟨rfl, fun text => ⟨_, rfl⟩⟩
  | parameters kind listed =>
    refine leads_cons rfl fun id => leads_cons rfl fun lparen => ?_
    refine leads_append (leads_parameters listed) fun c' there => ?_
    obtain ⟨pars, key, isString, text, rfl⟩ := there
    exact leads_cons rfl fun rparen => leads_nil ⟨rfl, fun text => ⟨_, rfl⟩⟩

/-- Channels, from the first `>`. -/
theorem leads_chanlist {list : List TokenId} (listed : Chanlist list) :
    Leads zeroed (.gt ep1 none) list (BehindChannel zeroed ep1) := by
  induction listed with
  | chandescr described => exact leads_chandescr described
  | more listed described ih =>
    refine leads_append ih fun c' behind => leads_cons behind.1 fun gt => ?_
    obtain ⟨ch, next⟩ := behind.2 gt
    rw [next]
    exact leads_chandescr described

/-- The other endpoint has been read. -/
def Config.Accepting (c : Config) : Prop := ∃ ep1 ch kind id, c = .word ep1 (some ch) kind id

/-- A sentence, from the beginning. -/
theorem leads_pipeline (sentence : Pipeline ids) : Leads zeroed .start ids Config.Accepting := by
  obtain ⟨kind, kind', listed⟩ := sentence
  refine leads_cons rfl fun ep1 => leads_cons rfl fun gt => ?_
  refine leads_append (leads_chanlist listed) fun c' behind => leads_cons behind.1 fun gt => ?_
  obtain ⟨ch, next⟩ := behind.2 gt
  rw [next]
  exact leads_cons rfl fun ep2 => leads_nil ⟨_, ch, kind', _, rfl⟩

end Leads

/-! ## What is left of a string -/

open Classical in
/-- A token more: it is kept if a sentence can go on with it, but behind one that has been left out a
channel cannot have parameters any more. The flag tells whether the last token has been left out. -/
noncomputable def salvageStep (kept : List TokenId × Bool) (id : TokenId) : List TokenId × Bool :=
  if Viable (kept.1 ++ [id]) ∧ ¬(kept.2 = true ∧ id = .lparen) then (kept.1 ++ [id], false) else (kept.1, true)

/-- What is left of tokens. -/
noncomputable def salvage (ids : List TokenId) : List TokenId × Bool := ids.foldl salvageStep ([], false)

theorem salvage_append (ids : List TokenId) (id : TokenId) : salvage (ids ++ [id]) = salvageStep (salvage ids) id :=
  List.foldl_concat ..

section Salvage
variable {zeroed : Nat → Bool}

/-- What has been kept leads to a configuration without anything left out. -/
theorem kept_after {tokens : List PdToken} (taken : Taken zeroed .start tokens) :
    (configAfter zeroed tokens).Kept (tokens.map PdToken.id) := by
  induction tokens using List.reverseRecOn with
  | nil => rfl
  | append_singleton tokens t ih =>
    obtain ⟨taken, fits, -⟩ := taken_append.mp taken
    rw [List.map_append, configAfter, (simulation zeroed).after_append]
    exact kept_next (ih taken) fits

/-- The tokens that fit are those a sentence can go on with. -/
theorem takes_iff_viable {tokens : List PdToken} (taken : Taken zeroed .start tokens) (t : PdToken) :
    (configAfter zeroed tokens).takes t.id ↔ Viable (tokens.map PdToken.id ++ [t.id]) := by
  constructor
  · intro fits
    have kept : ((configAfter zeroed tokens).next zeroed t).Kept _ := kept_next (kept_after taken) fits
    exact viable_of_kept kept
  · rintro ⟨rest, sentence⟩
    have same : (tokens ++ t :: rest.map fun id => { id, text := [] }).map PdToken.id = tokens.map PdToken.id ++ [t.id] ++ rest := by
      simp [Function.comp_def]
    have leads : Leads zeroed .start _ _ := leads_pipeline sentence
    exact (taken_append.mp (leads _ same).1).2.1

/-- The configuration after tokens is the one after what is left of them, settled if the last token has
been left out. -/
theorem after_salvage (zeroed : Nat → Bool) (tokens : List PdToken) : ∃ kept : List PdToken, Taken zeroed .start kept ∧
    (salvage (tokens.map PdToken.id)).1 = kept.map PdToken.id ∧
    configAfter zeroed tokens =
      if (salvage (tokens.map PdToken.id)).2 then (configAfter zeroed kept).settled zeroed else configAfter zeroed kept := by
  induction tokens using List.reverseRecOn with
  | nil => exact ⟨[], trivial, rfl, rfl⟩
  | append_singleton tokens t ih =>
    obtain ⟨kept, taken, left, after⟩ := ih
    have fits_iff := takes_iff_viable taken t
    have next : configAfter zeroed (tokens ++ [t]) = (configAfter zeroed tokens).next zeroed t :=
      (simulation zeroed).after_append _ tokens [t]
    rw [next, List.map_append, List.map_singleton, salvage_append, salvageStep, left]
    generalize (salvage (tokens.map PdToken.id)).2 = gap at after ⊢
    by_cases fits : Viable (kept.map PdToken.id ++ [t.id]) ∧ ¬(gap = true ∧ t.id = .lparen)
    · rw [if_pos fits]
      refine ⟨kept ++ [t], taken_append.mpr ⟨taken, fits_iff.mpr fits.1, trivial⟩, by rw [List.map_append]; rfl, ?_⟩
      have kept_next : configAfter zeroed (kept ++ [t]) = (configAfter zeroed kept).next zeroed t :=
        (simulation zeroed).after_append _ kept [t]
      rw [kept_next, after]
      cases gap with
      | false => rfl
      | true => exact next_settled fun lparen => fits.2 ⟨rfl, lparen⟩
    · rw [if_neg fits]
      refine ⟨kept, taken, rfl, ?_⟩
      rw [after]
      cases gap with
      | false =>
        have unfit : ¬(configAfter zeroed kept).takes t.id := fun takes => fits ⟨fits_iff.mp takes, nofun⟩
        exact next_unfit unfit
      | true =>
        have unfit : ¬((configAfter zeroed kept).settled zeroed).takes t.id := by
          intro takes
          obtain ⟨takes, other⟩ := (takes_settled _ _).mp takes
          exact fits ⟨fits_iff.mp takes, fun lparen => other lparen.2⟩
        exact (next_unfit unfit).trans (settled_settled zeroed _)

/-- Only a configuration behind the other endpoint does not fail at the end of the input. -/
theorem healthy_iff {c : Config} : c.finish.failed = false ↔ c.Accepting := by
  unfold Config.finish Config.Accepting
  split
  · next ep1 ch kind id => exact iff_of_true rfl ⟨ep1, ch, kind, id, rfl⟩
  · next other => exact iff_of_false nofun fun ⟨ep1, ch, kind, id, is⟩ => other ep1 ch kind id is

/-- The parse does not fail exactly if what is left is a sentence whose last token is the last of all. -/
theorem accepted_iff (zeroed : Nat → Bool) (tokens : List PdToken) : (configAfter zeroed tokens).finish.failed = false ↔
    Pipeline (salvage (tokens.map PdToken.id)).1 ∧ (salvage (tokens.map PdToken.id)).2 = false := by
  obtain ⟨kept, taken, left, after⟩ := after_salvage zeroed tokens
  rw [healthy_iff, after, left]
  cases (salvage (tokens.map PdToken.id)).2 with
  | true =>
    refine iff_of_false ?_ fun accepted => Bool.noConfusion accepted.2
    rintro ⟨ep1, ch, kind, id, settled⟩
    have same := settled_settled zeroed (configAfter zeroed kept)
    rw [if_pos rfl] at settled
    rw [settled] at same
    cases same
  | false =>
    rw [and_iff_left rfl]
    constructor
    · rintro ⟨ep1, ch, kind, id, is⟩
      have kept' := kept_after taken
      have is : configAfter zeroed kept = _ := is
      rw [is] at kept'
      exact pipeline_of_kept kept'
    · intro sentence
      exact (leads_pipeline sentence kept rfl).2

end Salvage

/-! ## Rejection -/

/-- All tokens of a string are legal, and they are a sentence of the grammar. -/
def IsSentence (str : Octets) : Prop := (lexed str).whole = true ∧ Pipeline ((lexed str).tokens.map PdToken.id)

/-- A sentence is accepted. -/
theorem sentence_accepted (zeroed : Nat → Bool) {str : Octets} (sentence : IsSentence str) :
    ∃ pd, Returns zeroed str pd ∧ pd.failed = false := by
  have leads : Leads zeroed .start _ Config.Accepting := leads_pipeline sentence.2
  exact ⟨_, returns_iff.mpr rfl, healthy_iff.mpr (leads _ rfl).2⟩

/-- `ks_pd_parse` returns something, which has not failed only for a sentence, and then there is a
pipeline. -/
def RejectsOthers (zeroed : Nat → Bool) (str : Octets) : Prop :=
  (∃ pd, Returns zeroed str pd) ∧
    ∀ pd, Returns zeroed str pd → pd.failed = false → pd.pipeline ≠ none ∧ IsSentence str

/-- If a sentence is left of the tokens in front of the first illegal one when those that no sentence
can have at their place are left out, and if it has the last of them, then nothing has been left out. -/
def NothingLeftOut (str : Octets) : Prop :=
  Pipeline (salvage ((lexed str).tokens.map PdToken.id)).1 ∧ (salvage ((lexed str).tokens.map PdToken.id)).2 = false →
    IsSentence str

/-- Other strings than sentences are rejected exactly if they are not made a sentence by leaving
something out. -/
theorem rejects_others_iff (zeroed : Nat → Bool) (str : Octets) : RejectsOthers zeroed str ↔ NothingLeftOut str := by
  have accepted := accepted_iff zeroed (lexed str).tokens
  have returns : Returns zeroed str (configAfter zeroed (lexed str).tokens).finish := returns_iff.mpr rfl
  constructor
  · rintro ⟨-, rejects⟩ left
    exact (rejects _ returns (accepted.mpr left)).2
  · intro nothing
    refine ⟨⟨_, returns⟩, fun pd returns' healthy => ?_⟩
    obtain rfl := returns_iff.mp returns'
    refine ⟨fun none => ?_, nothing (accepted.mp healthy)⟩
    obtain ⟨ep1, ch, kind, id, accepting⟩ := healthy_iff.mp healthy
    rw [accepting] at none
    cases none

/-- What is returned for `a>b>c$`. -/
def acceptedDollar : KsPd where
  pipeline := some
    { ep1 := ⟨.word .identifier, [97]⟩, ep2 := ⟨.word .identifier, [99]⟩,
      channels := [⟨⟨.word .identifier, [98]⟩, .null⟩] }

/-- `a>b>c$`, where the last character is illegal, is accepted. -/
theorem dollar_is_accepted : ¬RejectsOthers (fun _ => true) [97, 62, 98, 62, 99, 36] := by
  rintro ⟨⟨pd, returns⟩, rejects⟩
  have parsed : ksPdParse (fun _ => true) 10 [97, 62, 98, 62, 99, 36] = some acceptedDollar := by decide +kernel
  have is := returns_unique (by decide) parsed returns
  have whole := (rejects pd returns (by rw [is]; rfl)).2.1
  rw [lexed_token, lexed_token, lexed_token, lexed_token, lexed_token, lexed_illegal] at whole
  · cases whole
  all_goals decide

end Vstuff.Libkstreamer.Pd
