import Vstuff.Lib.Lalr
import Vstuff.Libkstreamer.PdToken

/-! The parser of pipeline descriptions (`ks_pd_parse` of `libkstreamer/pd_parser.c`), with the tables
and actions that the parser generator makes of `pd_grammar.lem`. What it has on its stack between two
tokens is one of a few configurations. -/
namespace Vstuff.Libkstreamer.Pd
open Lapd (Octets)
open Lalr (Action Parser Simulation)
set_option linter.all false

/-- `struct ks_pd_parameter`. -/
structure PdParameter where
  name : PdToken
  value : PdToken
  deriving DecidableEq, Repr

/-- The pointer to the parameters of a channel. A field that nobody has written may have anything in
it. -/
inductive PdParameters where
  | null
  | garbage
  | list (parameters : List PdParameter)
  deriving DecidableEq, Repr

/-- `struct ks_pd_channel`. -/
structure PdChannel where
  name : PdToken
  parameters : PdParameters
  deriving DecidableEq, Repr

/-- `struct ks_pd_pipeline`. -/
structure PdPipeline where
  ep1 : PdToken
  ep2 : PdToken
  channels : List PdChannel
  deriving DecidableEq, Repr

/-- `struct ks_pd`. -/
structure KsPd where
  pipeline : Option PdPipeline := none
  failed : Bool := false
  failureReason : Option String := none
  deriving DecidableEq, Repr

/-! ## The tables -/

/-- The nonterminals of the grammar. -/
inductive Symbol where
  | pipeline | nodeid | chanlist | chandescr | chanid | parameters | assignment
  deriving DecidableEq, Repr

/-- The rules, those for nodes and channels with the token on their right side. -/
inductive Rule where
  | pipeline
  | nodeid (kind : Word)
  | chanlist
  | chanlistMore
  | chandescr
  | chandescrParameters
  | chanid (kind : Word)
  | parameters
  | parametersMore
  | assignmentString
  | assignmentInteger
  deriving DecidableEq, Repr

/-- The states, named by what has been read last. A word can be a node, a channel, or (behind the
second `>`) either. -/
inductive State where
  | start
  | nodeWord (kind : Word)
  | node
  | nodeGt
  | chanWord (kind : Word)
  | eitherWord (kind : Word)
  | chanid
  | chandescr
  | chandescrMore
  | chanlist
  | chanlistGt
  | nodeEnd
  | lparen
  | name
  | eq
  | stringValue
  | integerValue
  | assignment
  | assignmentMore
  | parameters
  | comma
  | rparen
  deriving DecidableEq, Repr

/-- The left side of a rule. -/
def lhs : Rule → Symbol
  | .pipeline => .pipeline
  | .nodeid _ => .nodeid
  | .chanlist => .chanlist
  | .chanlistMore => .chanlist
  | .chandescr => .chandescr
  | .chandescrParameters => .chandescr
  | .chanid _ => .chanid
  | .parameters => .parameters
  | .parametersMore => .parameters
  | .assignmentString => .assignment
  | .assignmentInteger => .assignment

/-- The number of symbols on its right side. -/
def nrhs : Rule → Nat
  | .pipeline => 5
  | .nodeid _ => 1
  | .chanlist => 1
  | .chanlistMore => 3
  | .chandescr => 1
  | .chandescrParameters => 4
  | .chanid _ => 1
  | .parameters => 1
  | .parametersMore => 3
  | .assignmentString => 3
  | .assignmentInteger => 3

/-- What is done with a token. A state with a reduction takes its most frequent one by default, also
for a token that cannot follow: only the end of the input makes a node of a word that can be
either. -/
def shiftAction : State → Option TokenId → Action State Rule
  | .start, some (.word kind) => .shift (.nodeWord kind)
  | .nodeWord kind, _ => .reduce (.nodeid kind)
  | .node, some .gt => .shift .nodeGt
  | .nodeGt, some (.word kind) => .shift (.chanWord kind)
  | .chanWord kind, _ => .reduce (.chanid kind)
  | .eitherWord kind, none => .reduce (.nodeid kind)
  | .eitherWord kind, _ => .reduce (.chanid kind)
  | .chanid, some .lparen => .shift .lparen
  | .chanid, _ => .reduce .chandescr
  | .chandescr, _ => .reduce .chanlist
  | .chandescrMore, _ => .reduce .chanlistMore
  | .chanlist, some .gt => .shift .chanlistGt
  | .chanlistGt, some (.word kind) => .shift (.eitherWord kind)
  | .nodeEnd, _ => .reduce .pipeline
  | .lparen, some (.word .identifier) => .shift .name
  | .name, some .eq => .shift .eq
  | .eq, some (.word .string) => .shift .stringValue
  | .eq, some (.word .integer) => .shift .integerValue
  | .stringValue, _ => .reduce .assignmentString
  | .integerValue, _ => .reduce .assignmentInteger
  | .assignment, _ => .reduce .parameters
  | .assignmentMore, _ => .reduce .parametersMore
  | .parameters, some .comma => .shift .comma
  | .parameters, some .rparen => .shift .rparen
  | .comma, some (.word .identifier) => .shift .name
  | .rparen, _ => .reduce .chandescrParameters
  | _, _ => .error

/-- The state behind a symbol. The start symbol at the bottom of the stack is accepted. -/
def reduceAction : State → Symbol → Action State Rule
  | .start, .pipeline => .accept
  | .start, .nodeid => .shift .node
  | .nodeGt, .chanlist => .shift .chanlist
  | .nodeGt, .chandescr => .shift .chandescr
  | .nodeGt, .chanid => .shift .chanid
  | .chanlistGt, .nodeid => .shift .nodeEnd
  | .chanlistGt, .chandescr => .shift .chandescrMore
  | .chanlistGt, .chanid => .shift .chanid
  | .lparen, .parameters => .shift .parameters
  | .lparen, .assignment => .shift .assignment
  | .comma, .assignment => .shift .assignmentMore
  | _, _ => .error

/-! ## The actions -/

/-- `YYMINORTYPE`. -/
inductive Minor where
  | null
  | token (token : PdToken)
  | pipeline (pipeline : PdPipeline)
  | channels (channels : List PdChannel)
  | channel (channel : PdChannel)
  | parameters (parameters : List PdParameter)
  | parameter (parameter : PdParameter)
  deriving DecidableEq, Repr

/-- `pd`, and how many channels have been allocated. -/
structure Extra where
  pd : KsPd := {}
  channels : Nat := 0
  deriving DecidableEq, Repr

/-- The field `parameters` of a channel that has been allocated and of which only the name is
written. -/
def unwritten (zeroed : Bool) : PdParameters := if zeroed then .null else .garbage

/-- The action of a rule, with the values of its right side. `list_add` puts an entry in front of the
others. `zeroed` tells of which channels the memory is zero where the parameters will be. -/
def act (zeroed : Nat → Bool) : Rule → List Minor → Extra → Minor × Extra
  | .pipeline, [.token ep1, _, .channels ch, _, .token ep2], e =>
    let pipeline : PdPipeline := { ep1, ep2, channels := ch }
    (.pipeline pipeline, { e with pd := { e.pd with pipeline := some pipeline } })
  | .nodeid _, [x], e => (x, e)
  | .chanlist, [.channel chan], e => (.channels [chan], e)
  | .chanlistMore, [.channels b, _, .channel chan], e => (.channels (chan :: b), e)
  | .chandescr, [.token id], e =>
    (.channel { name := id, parameters := unwritten (zeroed e.channels) }, { e with channels := e.channels + 1 })
  | .chandescrParameters, [.token id, _, .parameters pars, _], e =>
    (.channel { name := id, parameters := .list pars }, { e with channels := e.channels + 1 })
  | .chanid _, [x], e => (x, e)
  | .parameters, [.parameter ass], e => (.parameters [ass], e)
  | .parametersMore, [.parameters b, _, .parameter ass], e => (.parameters (ass :: b), e)
  | .assignmentString, [.token name, _, .token value], e => (.parameter { name, value }, e)
  | .assignmentInteger, [.token name, _, .token value], e => (.parameter { name, value }, e)
  | _, _, e => (.null, e)

/-- `ks_pd_parser_`. -/
def pdParser (zeroed : Nat → Bool) : Parser TokenId State Symbol Rule Minor Extra where
  start := .start
  depth := 100
  shiftAction := shiftAction
  reduceAction := reduceAction
  lhs := lhs
  nrhs := nrhs
  act := act zeroed
  accepted e := { e with pd := { e.pd with failed := false } }
  failed e := { e with pd := { e.pd with failed := true, failureReason := some "Invalid pipeline" } }
  overflowed e := { e with pd := { e.pd with failed := true, failureReason := some "Stack overflow" } }

/-- The loop of `ks_pd_parse`, if it comes to an end. -/
def parseLoop (zeroed : Nat → Bool) : Nat → Octets → Option (List (State × Minor)) → Extra →
    Option (Option (List (State × Minor)) × Extra)
  | 0, _, _, _ => none
  | _, [], parser, extra => some (parser, extra)
  | fuel + 1, pos, parser, extra =>
    let got := getToken pos
    if got.token.id = .space then parseLoop zeroed fuel (pos.drop got.nread) parser extra
    else if got.token.id = .illegal then some (parser, extra)
    else do
      let (parser, extra) ← (pdParser zeroed).feed (fuel + 1) parser (some got.token.id) (.token got.token) extra
      if extra.pd.failed then some (parser, extra) else parseLoop zeroed fuel (pos.drop got.nread) parser extra

/-- `ks_pd_parse`. -/
def ksPdParse (zeroed : Nat → Bool) (fuel : Nat) (str : Octets) : Option KsPd := do
  let (parser, extra) ← parseLoop zeroed fuel str none {}
  let (_, extra) ← (pdParser zeroed).feed fuel parser none .null extra
  return extra.pd

/-! ## Configurations -/

/-- What has been read, between two tokens: the first endpoint, the channels in front (`none` behind
the first `>`), the name of a channel, its parameters in front, and so on. -/
inductive Config where
  | start
  | nodeWord (kind : Word) (ep1 : PdToken)
  | node (ep1 : PdToken)
  | gt (ep1 : PdToken) (ch : Option (List PdChannel))
  | word (ep1 : PdToken) (ch : Option (List PdChannel)) (kind : Word) (id : PdToken)
  | chanlist (ep1 : PdToken) (ch : List PdChannel)
  | lparen (ep1 : PdToken) (ch : Option (List PdChannel)) (id : PdToken)
  | name (ep1 : PdToken) (ch : Option (List PdChannel)) (id : PdToken) (pars : Option (List PdParameter)) (name : PdToken)
  | eq (ep1 : PdToken) (ch : Option (List PdChannel)) (id : PdToken) (pars : Option (List PdParameter)) (name : PdToken)
  | value (ep1 : PdToken) (ch : Option (List PdChannel)) (id : PdToken) (pars : Option (List PdParameter)) (name : PdToken)
      (isString : Bool) (value : PdToken)
  | parameters (ep1 : PdToken) (ch : Option (List PdChannel)) (id : PdToken) (pars : List PdParameter)
  | comma (ep1 : PdToken) (ch : Option (List PdChannel)) (id : PdToken) (pars : List PdParameter)
  | rparen (ep1 : PdToken) (ch : Option (List PdChannel)) (id : PdToken) (pars : List PdParameter)
  deriving DecidableEq, Repr

namespace Config

/-- The configuration in which nothing is left to be reduced, if the next token is not one behind the
name of a channel that goes with it. -/
def settled (zeroed : Nat → Bool) : Config → Config
  | .nodeWord _ ep1 => .node ep1
  | .word ep1 ch _ id =>
    .chanlist ep1 ({ name := id, parameters := unwritten (zeroed (ch.getD []).length) } :: ch.getD [])
  | .value ep1 ch id pars key _ text => .parameters ep1 ch id ({ name := key, value := text } :: pars.getD [])
  | .rparen ep1 ch id pars => .chanlist ep1 ({ name := id, parameters := .list pars } :: ch.getD [])
  | c => c

/-- What a token does to it. One that does not fit does nothing. -/
def shift (c : Config) (t : PdToken) : Config :=
  match c, t.id with
  | .start, .word kind => .nodeWord kind t
  | .node ep1, .gt => .gt ep1 none
  | .gt ep1 ch, .word kind => .word ep1 ch kind t
  | .chanlist ep1 ch, .gt => .gt ep1 (some ch)
  | .lparen ep1 ch id, .word .identifier => .name ep1 ch id none t
  | .name ep1 ch id pars key, .eq => .eq ep1 ch id pars key
  | .eq ep1 ch id pars key, .word .string => .value ep1 ch id pars key true t
  | .eq ep1 ch id pars key, .word .integer => .value ep1 ch id pars key false t
  | .parameters ep1 ch id pars, .comma => .comma ep1 ch id pars
  | .parameters ep1 ch id pars, .rparen => .rparen ep1 ch id pars
  | .comma ep1 ch id pars, .word .identifier => .name ep1 ch id (some pars) t
  | c, _ => c

/-- The next configuration. -/
def next (zeroed : Nat → Bool) (c : Config) (t : PdToken) : Config :=
  match c, t.id with
  | .word ep1 ch _ id, .lparen => .lparen ep1 ch id
  | c, _ => (c.settled zeroed).shift t

/-- What the end of the input makes of it: only a word behind the second `>` is the other endpoint. -/
def finish : Config → KsPd
  | .word ep1 (some ch) _ id => { pipeline := some { ep1, ep2 := id, channels := ch } }
  | _ => { failed := true, failureReason := some "Invalid pipeline" }

/-- The channels that have been reduced. -/
def channels : Config → List PdChannel
  | .gt _ ch | .word _ ch _ _ | .lparen _ ch _ | .name _ ch _ _ _ | .eq _ ch _ _ _ | .value _ ch _ _ _ _ _
  | .parameters _ ch _ _ | .comma _ ch _ _ | .rparen _ ch _ _ => ch.getD []
  | .chanlist _ ch => ch
  | _ => []

/-! ## The stack of a configuration -/

/-- Behind a `>`. -/
def OnGt (ep1 : PdToken) : Option (List PdChannel) → List (State × Minor) → Prop
  | none, stack => ∃ m, stack = [(.nodeGt, m), (.node, .token ep1)]
  | some ch, stack => ∃ m m', stack = [(.chanlistGt, m'), (.chanlist, .channels ch), (.nodeGt, m), (.node, .token ep1)]

/-- Behind the `(` of a channel. -/
def OnLparen (ep1 : PdToken) (ch : Option (List PdChannel)) (id : PdToken) (stack : List (State × Minor)) : Prop :=
  ∃ m below, OnGt ep1 ch below ∧ stack = (.lparen, m) :: (.chanid, .token id) :: below

/-- In front of a parameter. -/
def OnComma (ep1 : PdToken) (ch : Option (List PdChannel)) (id : PdToken) :
    Option (List PdParameter) → List (State × Minor) → Prop
  | none, stack => OnLparen ep1 ch id stack
  | some pars, stack =>
    ∃ m below, OnLparen ep1 ch id below ∧ stack = (.comma, m) :: (.parameters, .parameters pars) :: below

/-- The state of a word behind a `>`. -/
def wordState (ch : Option (List PdChannel)) (kind : Word) : State :=
  if ch.isNone then .chanWord kind else .eitherWord kind

/-- The stack of a configuration. -/
def OnStack : Config → List (State × Minor) → Prop
  | .start, stack => stack = []
  | .nodeWord kind ep1, stack => stack = [(.nodeWord kind, .token ep1)]
  | .node ep1, stack => stack = [(.node, .token ep1)]
  | .gt ep1 ch, stack => OnGt ep1 ch stack
  | .word ep1 ch kind id, stack => ∃ below, OnGt ep1 ch below ∧ stack = (wordState ch kind, .token id) :: below
  | .chanlist ep1 ch, stack => ∃ m, stack = [(.chanlist, .channels ch), (.nodeGt, m), (.node, .token ep1)]
  | .lparen ep1 ch id, stack => OnLparen ep1 ch id stack
  | .name ep1 ch id pars key, stack => ∃ below, OnComma ep1 ch id pars below ∧ stack = (.name, .token key) :: below
  | .eq ep1 ch id pars key, stack =>
    ∃ m below, OnComma ep1 ch id pars below ∧ stack = (.eq, m) :: (.name, .token key) :: below
  | .value ep1 ch id pars key isString text, stack =>
    ∃ m below, OnComma ep1 ch id pars below ∧ stack =
      (if isString then .stringValue else .integerValue, .token text) :: (.eq, m) :: (.name, .token key) :: below
  | .parameters ep1 ch id pars, stack =>
    ∃ below, OnLparen ep1 ch id below ∧ stack = (.parameters, .parameters pars) :: below
  | .comma ep1 ch id pars, stack => OnComma ep1 ch id (some pars) stack
  | .rparen ep1 ch id pars, stack =>
    ∃ m below, OnLparen ep1 ch id below ∧ stack = (.rparen, m) :: (.parameters, .parameters pars) :: below

/-- The stack is that of the configuration, and `pd` is untouched. -/
def Holds (c : Config) (stack : List (State × Minor)) (extra : Extra) : Prop :=
  c.OnStack stack ∧ extra = { channels := c.channels.length }

end Config

section Steps
variable {zeroed : Nat → Bool} {c : Config} {stack : List (State × Minor)} {extra : Extra}

theorem OnGt_length {ep1 : PdToken} {ch : Option (List PdChannel)} (on : Config.OnGt ep1 ch stack) : stack.length ≤ 4 := by
  cases ch with
  | none =>
    obtain ⟨m, rfl⟩ := on
    exact Nat.le_add_right 2 2
  | some ch =>
    obtain ⟨m, m', rfl⟩ := on
    exact Nat.le_refl 4

theorem OnLparen_length {ep1 id : PdToken} {ch : Option (List PdChannel)} (on : Config.OnLparen ep1 ch id stack) :
    stack.length ≤ 6 := by
  obtain ⟨m, below, on, rfl⟩ := on
  exact Nat.add_le_add_right (OnGt_length on) 2

theorem OnComma_length {ep1 id : PdToken} {ch : Option (List PdChannel)} {pars : Option (List PdParameter)}
    (on : Config.OnComma ep1 ch id pars stack) : stack.length ≤ 8 := by
  cases pars with
  | none => exact Nat.le_trans (OnLparen_length on) (Nat.le_add_right 6 2)
  | some pars =>
    obtain ⟨m, below, on, rfl⟩ := on
    exact Nat.add_le_add_right (OnLparen_length on) 2

/-- The stack never overflows. -/
theorem OnStack_length (on : c.OnStack stack) : stack.length ≤ 11 := by
  cases c with
  | start => exact Nat.le_trans (Nat.le_of_eq (congrArg List.length on)) (Nat.le_add_left 0 11)
  | nodeWord kind ep1 => exact Nat.le_trans (Nat.le_of_eq (congrArg List.length on)) (Nat.le_add_left 1 10)
  | node ep1 => exact Nat.le_trans (Nat.le_of_eq (congrArg List.length on)) (Nat.le_add_left 1 10)
  | gt ep1 ch => exact Nat.le_trans (OnGt_length on) (Nat.le_add_left 4 7)
  | word ep1 ch kind id =>
    obtain ⟨below, on, rfl⟩ := on
    exact Nat.le_trans (Nat.succ_le_succ (OnGt_length on)) (Nat.le_add_left 5 6)
  | chanlist ep1 ch =>
    obtain ⟨m, rfl⟩ := on
    exact Nat.le_add_left 3 8
  | lparen ep1 ch id => exact Nat.le_trans (OnLparen_length on) (Nat.le_add_left 6 5)
  | name ep1 ch id pars key =>
    obtain ⟨below, on, rfl⟩ := on
    exact Nat.le_trans (Nat.succ_le_succ (OnComma_length on)) (Nat.le_add_left 9 2)
  | eq ep1 ch id pars key =>
    obtain ⟨m, below, on, rfl⟩ := on
    exact Nat.le_trans (Nat.add_le_add_right (OnComma_length on) 2) (Nat.le_add_left 10 1)
  | value ep1 ch id pars key isString text =>
    obtain ⟨m, below, on, rfl⟩ := on
    exact Nat.add_le_add_right (OnComma_length on) 3
  | parameters ep1 ch id pars =>
    obtain ⟨below, on, rfl⟩ := on
    exact Nat.le_trans (Nat.succ_le_succ (OnLparen_length on)) (Nat.le_add_left 7 4)
  | comma ep1 ch id pars =>
    have on : Config.OnComma ep1 ch id (some pars) stack := on
    exact Nat.le_trans (OnComma_length on) (Nat.le_add_left 8 3)
  | rparen ep1 ch id pars =>
    obtain ⟨m, below, on, rfl⟩ := on
    exact Nat.le_trans (Nat.add_le_add_right (OnLparen_length on) 2) (Nat.le_add_left 8 3)

/-- In a settled configuration a token is shifted or left out. -/
theorem shift_cases (on : c.OnStack stack) (settled : c.settled zeroed = c) (t : PdToken) :
    (shiftAction ((pdParser zeroed).top stack) (some t.id) = .error ∧ c.shift t = c) ∨
    ∃ state, shiftAction ((pdParser zeroed).top stack) (some t.id) = .shift state ∧
      (c.shift t).OnStack ((state, .token t) :: stack) ∧ (c.shift t).channels = c.channels := by
  obtain ⟨id, text⟩ := t
  cases c with
  | start =>
    subst on
    cases id with
    | word kind => exact .inr ⟨_, rfl, rfl, rfl⟩
    | _ => exact .inl ⟨rfl, rfl⟩
  | node ep1 =>
    subst on
    cases id with
    | gt => exact .inr ⟨_, rfl, ⟨_, rfl⟩, rfl⟩
    | _ => exact .inl ⟨rfl, rfl⟩
  | gt ep1 ch =>
    cases ch with
    | none =>
      obtain ⟨m, rfl⟩ := on
      cases id with
      | word kind => exact .inr ⟨_, rfl, ⟨_, ⟨m, rfl⟩, rfl⟩, rfl⟩
      | _ => exact .inl ⟨rfl, rfl⟩
    | some ch =>
      obtain ⟨m, m', rfl⟩ := on
      cases id with
      | word kind => exact .inr ⟨_, rfl, ⟨_, ⟨m, m', rfl⟩, rfl⟩, rfl⟩
      | _ => exact .inl ⟨rfl, rfl⟩
  | chanlist ep1 ch =>
    obtain ⟨m, rfl⟩ := on
    cases id with
    | gt => exact .inr ⟨_, rfl, ⟨_, _, rfl⟩, rfl⟩
    | _ => exact .inl ⟨rfl, rfl⟩
  | lparen ep1 ch id' =>
    obtain ⟨m, below, on, rfl⟩ := on
    cases id with
    | word kind =>
      cases kind with
      | identifier => exact .inr ⟨_, rfl, ⟨_, ⟨m, below, on, rfl⟩, rfl⟩, rfl⟩
      | _ => exact .inl ⟨rfl, rfl⟩
    | _ => exact .inl ⟨rfl, rfl⟩
  | name ep1 ch id' pars key =>
    obtain ⟨below, on, rfl⟩ := on
    cases id with
    | eq => exact .inr ⟨_, rfl, ⟨_, below, on, rfl⟩, rfl⟩
    | _ => exact .inl ⟨rfl, rfl⟩
  | eq ep1 ch id' pars key =>
    obtain ⟨m, below, on, rfl⟩ := on
    cases id with
    | word kind =>
      cases kind with
      | string => exact .inr ⟨_, rfl, ⟨m, below, on, rfl⟩, rfl⟩
      | integer => exact .inr ⟨_, rfl, ⟨m, below, on, rfl⟩, rfl⟩
      | _ => exact .inl ⟨rfl, rfl⟩
    | _ => exact .inl ⟨rfl, rfl⟩
  | parameters ep1 ch id' pars =>
    obtain ⟨below, on, rfl⟩ := on
    cases id with
    | comma => exact .inr ⟨_, rfl, ⟨_, below, on, rfl⟩, rfl⟩
    | rparen => exact .inr ⟨_, rfl, ⟨_, below, on, rfl⟩, rfl⟩
    | _ => exact .inl ⟨rfl, rfl⟩
  | comma ep1 ch id' pars =>
    obtain ⟨m, below, on, rfl⟩ := on
    cases id with
    | word kind =>
      cases kind with
      | identifier => exact .inr ⟨_, rfl, ⟨_, ⟨m, below, on, rfl⟩, rfl⟩, rfl⟩
      | _ => exact .inl ⟨rfl, rfl⟩
    | _ => exact .inl ⟨rfl, rfl⟩
  | _ => cases settled

/-- The input cannot end in a settled configuration. -/
theorem shift_end (on : c.OnStack stack) (settled : c.settled zeroed = c) :
    shiftAction ((pdParser zeroed).top stack) none = .error := by
  cases c with
  | start =>
    subst on
    rfl
  | node ep1 =>
    subst on
    rfl
  | gt ep1 ch =>
    cases ch with
    | none =>
      obtain ⟨m, rfl⟩ := on
      rfl
    | some ch =>
      obtain ⟨m, m', rfl⟩ := on
      rfl
  | chanlist ep1 ch =>
    obtain ⟨m, rfl⟩ := on
    rfl
  | lparen ep1 ch id =>
    obtain ⟨m, below, -, rfl⟩ := on
    rfl
  | name ep1 ch id pars key =>
    obtain ⟨below, -, rfl⟩ := on
    rfl
  | eq ep1 ch id pars key =>
    obtain ⟨m, below, -, rfl⟩ := on
    rfl
  | parameters ep1 ch id pars =>
    obtain ⟨below, -, rfl⟩ := on
    rfl
  | comma ep1 ch id pars =>
    obtain ⟨m, below, -, rfl⟩ := on
    rfl
  | _ => cases settled

/-- The reductions that a token sets off lead to the settled configuration. -/
theorem turns_settled (zeroed : Nat → Bool) (holds : c.Holds stack extra) {major : Option TokenId} (minor : Minor)
    (apart : ∀ ep1 ch kind id, c = .word ep1 ch kind id → major ≠ some .lparen ∧ (major = none → ch = none)) (fuel : Nat) :
    ∃ stack' extra' rest, fuel ≤ rest ∧ (c.settled zeroed).Holds stack' extra' ∧
      (pdParser zeroed).turns (fuel + 3) stack major minor extra = (pdParser zeroed).turns rest stack' major minor extra' := by
  obtain ⟨on, rfl⟩ := holds
  cases c with
  | nodeWord kind ep1 =>
    subst on
    exact ⟨_, _, fuel + 2, Nat.le_add_right .., ⟨rfl, rfl⟩, rfl⟩
  | word ep1 ch kind id =>
    obtain ⟨below, on, rfl⟩ := on
    obtain ⟨other, ended⟩ := apart ep1 ch kind id rfl
    cases ch with
    | none =>
      obtain ⟨m, rfl⟩ := on
      refine ⟨_, _, fuel, Nat.le_refl _, ⟨⟨m, rfl⟩, rfl⟩, ?_⟩
      rcases major with _ | major
      · rfl
      · cases major <;> first | rfl | exact absurd rfl other
    | some ch =>
      obtain ⟨m, m', rfl⟩ := on
      refine ⟨_, _, fuel, Nat.le_refl _, ⟨⟨m, rfl⟩, rfl⟩, ?_⟩
      rcases major with _ | major
      · exact absurd (ended rfl) nofun
      · cases major <;> first | rfl | exact absurd rfl other
  | value ep1 ch id pars key isString text =>
    obtain ⟨m, below, on, rfl⟩ := on
    cases pars with
    | none =>
      refine ⟨_, _, fuel + 1, Nat.le_add_right .., ⟨⟨below, on, rfl⟩, rfl⟩, ?_⟩
      obtain ⟨m', below', on, rfl⟩ := on
      cases ch with
      | none =>
        obtain ⟨m₁, rfl⟩ := on
        cases isString <;> rfl
      | some ch =>
        obtain ⟨m₁, m₂, rfl⟩ := on
        cases isString <;> rfl
    | some pars =>
      obtain ⟨m', below', on, rfl⟩ := on
      refine ⟨_, _, fuel + 1, Nat.le_add_right .., ⟨⟨below', on, rfl⟩, rfl⟩, ?_⟩
      obtain ⟨m'', below', on, rfl⟩ := on
      cases ch with
      | none =>
        obtain ⟨m₁, rfl⟩ := on
        cases isString <;> rfl
      | some ch =>
        obtain ⟨m₁, m₂, rfl⟩ := on
        cases isString <;> rfl
  | rparen ep1 ch id pars =>
    obtain ⟨m, below, ⟨m', below', on, rfl⟩, rfl⟩ := on
    cases ch with
    | none =>
      obtain ⟨m₁, rfl⟩ := on
      exact ⟨_, _, fuel + 1, Nat.le_add_right .., ⟨⟨m₁, rfl⟩, rfl⟩, rfl⟩
    | some ch =>
      obtain ⟨m₁, m₂, rfl⟩ := on
      exact ⟨_, _, fuel + 1, Nat.le_add_right .., ⟨⟨m₁, rfl⟩, rfl⟩, rfl⟩
  | _ => exact ⟨stack, _, fuel + 3, Nat.le_add_right .., ⟨on, rfl⟩, rfl⟩

theorem settled_settled (zeroed : Nat → Bool) (c : Config) : (c.settled zeroed).settled zeroed = c.settled zeroed := by
  cases c <;> rfl

/-- What the parser does with a token. -/
theorem feed_holds (holds : c.Holds stack extra) (t : PdToken) :
    ∃ stack' extra', (pdParser zeroed).feed 4 (some stack) (some t.id) (.token t) extra = some (some stack', extra') ∧
      (c.next zeroed t).Holds stack' extra' := by
  -- the token behind the name of a channel that goes with it
  by_cases opens : ∃ ep1 ch kind id, c = .word ep1 ch kind id ∧ t.id = .lparen
  · obtain ⟨ep1, ch, kind, id, rfl, lparen⟩ := opens
    obtain ⟨⟨below, on, rfl⟩, rfl⟩ := holds
    rw [lparen]
    refine ⟨(.lparen, .token t) :: (.chanid, .token id) :: below, { channels := (ch.getD []).length }, ?_, ?_⟩
    · cases ch with
      | none =>
        obtain ⟨m, rfl⟩ := on
        rfl
      | some ch =>
        obtain ⟨m, m', rfl⟩ := on
        rfl
    · have next : Config.next zeroed (.word ep1 ch kind id) t = .lparen ep1 ch id := by
        simp only [Config.next, lparen]
      rw [next]
      exact ⟨⟨_, below, on, rfl⟩, rfl⟩
  · have apart (ep1 : PdToken) (ch : Option (List PdChannel)) (kind : Word) (id : PdToken) (is : c = .word ep1 ch kind id) :
        some t.id ≠ some TokenId.lparen ∧ (some t.id = none → ch = none) :=
      ⟨fun lparen => opens ⟨ep1, ch, kind, id, is, Option.some.inj lparen⟩, nofun⟩
    obtain ⟨stack', extra', rest, enough, holds', turned⟩ := turns_settled zeroed holds (.token t) apart 1
    obtain ⟨rest, rfl⟩ := Nat.exists_eq_add_of_le' enough
    have next : c.next zeroed t = (c.settled zeroed).shift t := by
      unfold Config.next
      split
      · next ep1 ch kind id lparen => exact absurd ⟨ep1, ch, kind, id, rfl, lparen⟩ opens
      · rfl
    rw [next]
    rcases shift_cases holds'.1 (settled_settled zeroed c) t with ⟨unfit, same⟩ | ⟨state, fits, on, channels⟩
    · refine ⟨stack', extra', turned.trans (Parser.turns_error unfit rest), ?_⟩
      rw [same]
      exact holds'
    · have room : stack'.length + 1 < 100 := by
        have short := OnStack_length holds'.1
        omega
      refine ⟨_, extra', turned.trans (Parser.turns_shift fits room rest), on, ?_⟩
      rw [channels]
      exact holds'.2

/-- What the end of the input does. -/
theorem feed_end_holds (holds : c.Holds stack extra) (m : Minor) :
    ∃ extra', (pdParser zeroed).feed 4 (some stack) none m extra = some (none, extra') ∧ extra'.pd = c.finish := by
  by_cases other : ∃ ep1 ch kind id, c = .word ep1 (some ch) kind id
  · obtain ⟨ep1, ch, kind, id, rfl⟩ := other
    obtain ⟨⟨below, ⟨m₁, m₂, rfl⟩, rfl⟩, rfl⟩ := holds
    exact ⟨_, rfl, rfl⟩
  · have apart (ep1 : PdToken) (ch : Option (List PdChannel)) (kind : Word) (id : PdToken) (is : c = .word ep1 ch kind id) :
        none ≠ some TokenId.lparen ∧ ((none : Option TokenId) = none → ch = none) := by
      refine ⟨nofun, fun _ => ?_⟩
      cases ch with
      | none => rfl
      | some ch => exact absurd ⟨ep1, ch, kind, id, is⟩ other
    obtain ⟨stack', extra', rest, enough, holds', turned⟩ := turns_settled zeroed holds m apart 1
    obtain ⟨rest, rfl⟩ := Nat.exists_eq_add_of_le' enough
    refine ⟨_, turned.trans (Parser.turns_end (shift_end holds'.1 (settled_settled zeroed c)) rest), ?_⟩
    rw [holds'.2]
    unfold Config.finish
    split
    · next ep1 ch kind id => exact absurd ⟨ep1, ch, kind, id, rfl⟩ other
    · rfl

end Steps

/-- The configurations stand for what the parser has on its stack. -/
def simulation (zeroed : Nat → Bool) : Simulation (pdParser zeroed) PdToken Config where
  major := PdToken.id
  minor := .token
  Holds := Config.Holds
  next := Config.next zeroed
  Ended c extra := extra.pd = c.finish
  fuel := 4
  feed := feed_holds
  feed_end := feed_end_holds

/-- The configuration after some tokens. -/
def configAfter (zeroed : Nat → Bool) (tokens : List PdToken) : Config := (simulation zeroed).after .start tokens

theorem parseLoop_eq {zeroed : Nat → Bool} {fuel : Nat} :
    ∀ {str : Octets} {c : Config} {parser : Option (List (State × Minor))} {extra : Extra},
      str.length + 4 ≤ fuel → c.Holds (parser.getD []) extra →
      ∃ parser' extra', parseLoop zeroed fuel str parser extra = some (parser', extra') ∧
        ((simulation zeroed).after c (lexed str).tokens).Holds (parser'.getD []) extra' := by
  induction fuel with
  | zero => exact fun enough => absurd enough (by omega)
  | succ fuel ih =>
    intro str c parser extra enough holds
    by_cases ended : str = []
    · subst ended
      refine ⟨parser, extra, rfl, ?_⟩
      rw [lexed_nil]
      exact holds
    · rw [parseLoop]
      · dsimp only
        by_cases space : (getToken str).token.id = .space
        · have taken := getToken_nread (space.trans_ne nofun)
          have shorter : (str.drop (getToken str).nread).length + 4 ≤ fuel := by
            have some := List.length_pos_of_ne_nil ended
            rw [List.length_drop]
            omega
          rw [if_pos space, lexed_space ended space]
          exact ih shorter holds
        · rw [if_neg space]
          by_cases illegal : (getToken str).token.id = .illegal
          · rw [if_pos illegal, lexed_illegal ended illegal]
            exact ⟨parser, extra, rfl, holds⟩
          · have taken := getToken_nread illegal
            have shorter : (str.drop (getToken str).nread).length + 4 ≤ fuel := by
              have some := List.length_pos_of_ne_nil ended
              rw [List.length_drop]
              omega
            obtain ⟨stack', extra', fed, holds'⟩ :=
              (simulation zeroed).feed_le (Nat.le_trans (Nat.le_add_left 4 _) enough) holds (getToken str).token
            have healthy : extra'.pd.failed = false := by rw [holds'.2]
            have fed : (pdParser zeroed).feed (fuel + 1) parser (some (getToken str).token.id) (.token (getToken str).token)
                extra = some (some stack', extra') := fed
            rw [if_neg illegal, fed, lexed_token ended illegal space]
            dsimp only [Option.bind_eq_bind, Option.bind_some]
            rw [healthy]
            exact ih shorter holds'
      · exact ended

/-- `ks_pd_parse` comes to an end, with what the tokens in front of the first illegal one make. -/
theorem ksPdParse_eq {zeroed : Nat → Bool} {fuel : Nat} {str : Octets} (enough : str.length + 4 ≤ fuel) :
    ksPdParse zeroed fuel str = some (configAfter zeroed (lexed str).tokens).finish := by
  have begun : Config.Holds .start ((none : Option (List (State × Minor))).getD []) {} := ⟨rfl, rfl⟩
  obtain ⟨parser, extra, parsed, holds⟩ := parseLoop_eq enough begun
  obtain ⟨extra', fed, ended⟩ := (simulation zeroed).feed_end_le (Nat.le_trans (Nat.le_add_left 4 _) enough) holds .null
  have fed : (pdParser zeroed).feed fuel parser none .null extra = some (none, extra') := fed
  rw [ksPdParse, parsed]
  dsimp only [Option.bind_eq_bind, Option.bind_some]
  rw [fed]
  exact congrArg some ended

end Vstuff.Libkstreamer.Pd
