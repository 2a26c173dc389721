import Mathlib.Data.List.TakeWhile
import Vstuff.Lapd.Proto

/-! The tokens of a pipeline description (`get_token` of `libkstreamer/pd_parser.c`). A string is the
characters in front of its terminator; the classes of characters are those of the C locale. -/
namespace Vstuff.Libkstreamer.Pd
open Lapd (Octets)
set_option linter.all false

/-- The tokens that can stand for a name. -/
inductive Word where
  | string | identifier | integer | hexint
  deriving DecidableEq, Repr

/-- The `TK_` constants. -/
inductive TokenId where
  | space | illegal | comma | eq | lparen | rparen | gt
  | word (kind : Word)
  deriving DecidableEq, Repr

/-- `struct ks_pd_token`. -/
structure PdToken where
  id : TokenId
  text : Octets
  deriving DecidableEq, Repr

def isSpace (c : UInt8) : Bool := c = 32 ∨ 9 ≤ c ∧ c ≤ 13

def isDigit (c : UInt8) : Bool := 48 ≤ c ∧ c ≤ 57

def isXDigit (c : UInt8) : Bool := isDigit c ∨ 65 ≤ c ∧ c ≤ 70 ∨ 97 ≤ c ∧ c ≤ 102

def isAlpha (c : UInt8) : Bool := 65 ≤ c ∧ c ≤ 90 ∨ 97 ≤ c ∧ c ≤ 122

def underscore : UInt8 := 95

def verticalTab : UInt8 := 11

/-- `isidentstart`. -/
def isIdentStart (c : UInt8) : Bool := isAlpha c ∨ c = underscore

/-- `isident`. -/
def isIdent (c : UInt8) : Bool := isAlpha c ∨ isDigit c ∨ c = underscore

/-- The test for a character that cannot stand behind a number. -/
def spoils : Octets → Bool
  | [] => false
  | c :: _ => isIdentStart c

/-- How many characters stand in front of the delimiter that closes a string. Two delimiters side by
side are two characters of it. -/
def closing (delim : UInt8) : Octets → Option Nat
  | [] => none
  | [c] => if c = delim then some 0 else none
  | c :: next :: rest =>
    if c = delim then if next = delim then (closing delim rest).map (· + 2) else some 0
    else (closing delim (next :: rest)).map (· + 1)

/-- What `get_token` returns, with `*nreadp`. -/
structure Got where
  token : PdToken
  nread : Nat
  deriving DecidableEq, Repr

/-- `strndup` of what has been found. -/
def token (id : TokenId) (start : Octets) (size nread : Nat) : Got := { token := { id, text := start.take size }, nread }

/-- The cases of the switch. -/
inductive Case where
  | space | lparen | rparen | eq | gt | comma | quote | zero | digit | ident | other
  deriving DecidableEq, Repr

/-- The case of a character. -/
def caseOf (c : UInt8) : Case :=
  if isSpace c ∧ c ≠ verticalTab then .space
  else if c = 40 then .lparen
  else if c = 41 then .rparen
  else if c = 61 then .eq
  else if c = 62 then .gt
  else if c = 44 then .comma
  else if c = 39 ∨ c = 34 then .quote
  else if c = 48 then .zero
  else if isDigit c then .digit
  else if isIdentStart c then .ident
  else .other

/-- A string in quotes, without them. -/
def quoteToken (delim : UInt8) (rest : Octets) : Got :=
  match closing delim rest with
  | none => token .illegal (delim :: rest) 1 1
  | some i => token (.word .string) rest i (i + 2)

/-- A number that begins with 0. One that is not hexadecimal is illegal, and nothing is read. -/
def zeroToken (buf : Octets) : Got :=
  match buf.tail with
  | c :: rest =>
    if c = 120 ∨ c = 88 then
      let i := 2 + (rest.takeWhile isXDigit).length
      token (if spoils (buf.drop i) then .illegal else .word .hexint) buf i i
    else token .illegal buf 0 0
  | [] => token .illegal buf 0 0

/-- Another number. Its size is taken from `nread` before that is set. -/
def digitToken (buf : Octets) : Got :=
  let nread := 1
  let i := (buf.takeWhile isDigit).length
  let size := nread
  token (if spoils (buf.drop i) then .illegal else .word .integer) buf size i

/-- `get_token`, which finds memory for what it returns. -/
def getToken : Octets → Got
  | [] => token .illegal [] 1 1
  | c :: rest =>
    let buf := c :: rest
    match caseOf c with
    | .space =>
      let i := 1 + (rest.takeWhile isSpace).length
      token .space buf i i
    | .lparen => token .lparen buf 1 1
    | .rparen => token .rparen buf 1 1
    | .eq =>
      let nread := if rest.head? = some 61 then 2 else 1
      token .eq buf nread nread
    | .gt => token .gt buf 1 1
    | .comma => token .comma buf 1 1
    | .quote => quoteToken c rest
    | .zero => zeroToken buf
    | .digit => digitToken buf
    | .ident =>
      let i := 1 + (rest.takeWhile isIdent).length
      token (.word .identifier) buf i i
    | .other => token .illegal buf 1 1

/-- The tokens of a string up to the first illegal one, and whether there is none. -/
structure Lexed where
  tokens : List PdToken
  whole : Bool
  deriving DecidableEq, Repr

theorem caseOf_digit {c : UInt8} (digit : caseOf c = .digit) : isDigit c := by
  by_contra other
  unfold caseOf at digit
  rw [if_neg other] at digit
  revert digit
  repeat' refine iteInduction (motive := fun case => case = Case.digit → False) (fun _ => nofun) (fun _ => ?_)
  exact nofun

/-- A legal token takes something from the string. -/
theorem getToken_nread {buf : Octets} (legal : (getToken buf).token.id ≠ .illegal) : 0 < (getToken buf).nread := by
  cases buf with
  | nil => exact Nat.one_pos
  | cons c rest =>
    rw [getToken] at legal ⊢
    cases case : caseOf c with
    | space => exact Nat.add_pos_left Nat.one_pos _
    | lparen => exact Nat.one_pos
    | rparen => exact Nat.one_pos
    | eq =>
      dsimp only [token]
      split_ifs <;> decide
    | gt => exact Nat.one_pos
    | comma => exact Nat.one_pos
    | quote =>
      dsimp only [quoteToken]
      cases closing c rest with
      | none => exact Nat.one_pos
      | some i => exact Nat.succ_pos _
    | zero =>
      rw [case] at legal
      dsimp only [zeroToken, List.tail_cons] at legal ⊢
      cases rest with
      | nil => exact absurd rfl legal
      | cons x rest =>
        dsimp only at legal ⊢
        split_ifs at legal ⊢
        · exact Nat.add_pos_left Nat.two_pos _
        · exact Nat.add_pos_left Nat.two_pos _
        · exact absurd rfl legal
    | digit =>
      dsimp only [digitToken, token]
      rw [List.takeWhile_cons_of_pos (caseOf_digit case)]
      exact Nat.succ_pos _
    | ident => exact Nat.add_pos_left Nat.one_pos _
    | other => exact Nat.one_pos

/-- What `get_token` makes of a string, token by token. -/
def lexed (str : Octets) : Lexed :=
  if end' : str = [] then { tokens := [], whole := true }
  else if illegal : (getToken str).token.id = .illegal then { tokens := [], whole := false }
  else
    have : str.length - (getToken str).nread < str.length := by
      have taken := getToken_nread illegal
      have some := List.length_pos_of_ne_nil end'
      omega
    let further := lexed (str.drop (getToken str).nread)
    if (getToken str).token.id = .space then further
    else { further with tokens := (getToken str).token :: further.tokens }
termination_by str.length

theorem lexed_nil : lexed [] = { tokens := [], whole := true } := by
  rw [lexed, dif_pos rfl]

section Equations
variable {str : Octets}

theorem lexed_illegal (some : str ≠ []) (illegal : (getToken str).token.id = .illegal) :
    lexed str = { tokens := [], whole := false } := by
  rw [lexed, dif_neg some, dif_pos illegal]

theorem lexed_space (some : str ≠ []) (space : (getToken str).token.id = .space) :
    lexed str = lexed (str.drop (getToken str).nread) := by
  rw [lexed, dif_neg some, dif_neg (by rw [space]; exact nofun)]
  exact if_pos space

theorem lexed_token (some : str ≠ []) (legal : (getToken str).token.id ≠ .illegal) (visible : (getToken str).token.id ≠ .space) :
    lexed str = { lexed (str.drop (getToken str).nread) with
      tokens := (getToken str).token :: (lexed (str.drop (getToken str).nread)).tokens } := by
  rw [lexed, dif_neg some, dif_neg legal]
  exact if_neg visible

end Equations

end Vstuff.Libkstreamer.Pd
