import Vstuff.Libkstreamer.PdGrammar

/-! Pipeline descriptions, written with white space between their tokens, and what `ks_pd_parse` makes
of them. -/
namespace Vstuff.Libkstreamer.Pd
open Lapd (Octets)
set_option linter.all false

/-! ## Names -/

/-- A delimiter stands in a string only beside another one. -/
def Paired (delim : UInt8) : Octets → Prop
  | [] => True
  | [c] => c ≠ delim
  | c :: next :: rest => if c = delim then next = delim ∧ Paired delim rest else Paired delim (next :: rest)

/-- What stands between two quotation marks. -/
structure Quoted where
  delim : UInt8
  text : Octets
  isDelim : delim = 39 ∨ delim = 34
  paired : Paired delim text

/-- An identifier. -/
structure Identifier where
  first : UInt8
  more : Octets
  starts : isIdentStart first
  goesOn : ∀ c ∈ more, isIdent c

/-- A decimal number, which does not begin with 0. -/
structure Decimal where
  first : UInt8
  more : Octets
  starts : isDigit first ∧ first ≠ 48
  goesOn : ∀ c ∈ more, isDigit c

/-- What stands behind `0x` or `0X`. -/
structure Hexadecimal where
  x : UInt8
  digits : Octets
  isX : x = 120 ∨ x = 88
  areDigits : ∀ c ∈ digits, isXDigit c

/-- The name of a node or of a channel. -/
inductive Name where
  | string (quoted : Quoted)
  | identifier (identifier : Identifier)
  | integer (decimal : Decimal)
  | hexint (hexadecimal : Hexadecimal)

/-- The value of a parameter. -/
inductive Value where
  | string (quoted : Quoted)
  | integer (decimal : Decimal)

def Value.name : Value → Name
  | .string quoted => .string quoted
  | .integer decimal => .integer decimal

namespace Name

/-- A name as it is written. -/
def written : Name → Octets
  | .string quoted => quoted.delim :: quoted.text ++ [quoted.delim]
  | .identifier ident => ident.first :: ident.more
  | .integer decimal => decimal.first :: decimal.more
  | .hexint hexadecimal => 48 :: hexadecimal.x :: hexadecimal.digits

/-- The token of a name, with its full text. -/
def token : Name → PdToken
  | .string quoted => { id := .word .string, text := quoted.text }
  | .identifier ident => { id := .word .identifier, text := ident.first :: ident.more }
  | .integer decimal => { id := .word .integer, text := decimal.first :: decimal.more }
  | .hexint hexadecimal => { id := .word .hexint, text := 48 :: hexadecimal.x :: hexadecimal.digits }

/-- The token that `get_token` makes of it: of an integer the first digit is left. -/
def read : Name → PdToken
  | .integer decimal => { id := .word .integer, text := [decimal.first] }
  | name => name.token

/-- It has no integer of two digits. -/
def OneDigit : Name → Prop
  | .integer decimal => decimal.more = []
  | _ => True

theorem read_eq_token_iff (name : Name) : name.read = name.token ↔ name.OneDigit := by
  cases name with
  | integer decimal =>
    unfold OneDigit read token
    simp
  | _ => exact iff_of_true rfl trivial

end Name

/-! ## Descriptions -/

/-- `name=value`. -/
structure Parameter where
  name : Identifier
  value : Value

/-- A channel, with any parameters. -/
structure Channel where
  name : Name
  parameters : List Parameter

/-- A pipeline: an endpoint, channels, an endpoint. -/
structure Description where
  ep1 : Name
  channels : List Channel
  ep2 : Name
  nonempty : channels ≠ []

/-- What a description is written with. -/
inductive Lexeme where
  | name (name : Name)
  | comma | eq | lparen | rparen | gt

namespace Lexeme

def written : Lexeme → Octets
  | .name n => n.written
  | .comma => [44]
  | .eq => [61]
  | .lparen => [40]
  | .rparen => [41]
  | .gt => [62]

/-- The token that `get_token` makes of it. -/
def read : Lexeme → PdToken
  | .name n => n.read
  | .comma => { id := .comma, text := [44] }
  | .eq => { id := .eq, text := [61] }
  | .lparen => { id := .lparen, text := [40] }
  | .rparen => { id := .rparen, text := [41] }
  | .gt => { id := .gt, text := [62] }

def OneDigit : Lexeme → Prop
  | .name n => n.OneDigit
  | _ => True

end Lexeme

/-- A parameter, and what is behind it. -/
def Parameter.lexemes (parameter : Parameter) (behind : List Lexeme) : List Lexeme :=
  .name (.identifier parameter.name) :: .eq :: .name parameter.value.name :: behind

/-- Further parameters. -/
def moreParameters : List Parameter → List Lexeme → List Lexeme
  | [], behind => behind
  | parameter :: parameters, behind => .comma :: parameter.lexemes (moreParameters parameters behind)

/-- The parameters of a channel in parentheses, if there are any. -/
def parameterLexemes : List Parameter → List Lexeme → List Lexeme
  | [], behind => behind
  | parameter :: parameters, behind =>
    .lparen :: parameter.lexemes (moreParameters parameters (.rparen :: behind))

/-- Channels with `>` behind each. -/
def channelLexemes : List Channel → List Lexeme → List Lexeme
  | [], behind => behind
  | channel :: channels, behind =>
    .name channel.name :: parameterLexemes channel.parameters (.gt :: channelLexemes channels behind)

/-- A description in the syntax of the grammar. -/
def Description.lexemes (d : Description) : List Lexeme :=
  .name d.ep1 :: .gt :: channelLexemes d.channels [.name d.ep2]

/-- White space. -/
structure Space where
  text : Octets
  blank : ∀ c ∈ text, isSpace c

/-- Lexemes with white space in front of each and at the end. -/
def spelled (gap : Nat → Space) : Nat → List Lexeme → Octets
  | k, [] => (gap k).text
  | k, lexeme :: lexemes => (gap k).text ++ (lexeme.written ++ spelled gap (k + 1) lexemes)

/-- A description as a string. -/
def Description.written (d : Description) (gap : Nat → Space) : Octets := spelled gap 0 d.lexemes

/-! ## What is read -/

/-- A character that ends every token in front of it. -/
def Parts (c : UInt8) : Prop := isIdent c = false ∧ c ≠ 39 ∧ c ≠ 34

/-- A string that is empty or begins with such a character. -/
def Ends (rest : Octets) : Prop := ∀ c, rest.head? = some c → Parts c

/-- A fact about each of the octets. -/
theorem forall_octet {P : UInt8 → Prop} (each : ∀ n < 256, P (UInt8.ofNat n)) (c : UInt8) : P c := by
  have here := each c.toNat c.toNat_lt
  rwa [UInt8.ofNat_toNat] at here

/-- The characters of names, looked up for each octet. -/
theorem name_classes : ∀ c : UInt8, (isXDigit c → isIdent c) ∧ (isDigit c → isIdent c) ∧ (isIdentStart c → isIdent c) ∧
    (isIdentStart c → caseOf c = .ident) ∧ (isDigit c ∧ c ≠ 48 → caseOf c = .digit) :=
  forall_octet (by decide +kernel)

/-- The white space, looked up for each octet. -/
theorem space_classes : ∀ c : UInt8, (isSpace c → c ≠ verticalTab → caseOf c = .space) ∧
    (isSpace c → isIdent c = false ∧ c ≠ 39 ∧ c ≠ 34 ∧ c ≠ 61) ∧ (isIdent c → isSpace c = false) :=
  forall_octet (by decide +kernel)

section Characters
variable {c : UInt8}

theorem isIdent_of_xdigit : isXDigit c → isIdent c := (name_classes c).1

theorem isIdent_of_digit : isDigit c → isIdent c := (name_classes c).2.1

theorem isIdent_of_start : isIdentStart c → isIdent c := (name_classes c).2.2.1

theorem caseOf_identStart : isIdentStart c → caseOf c = .ident := (name_classes c).2.2.2.1

theorem caseOf_decimal : isDigit c ∧ c ≠ 48 → caseOf c = .digit := (name_classes c).2.2.2.2

theorem caseOf_space : isSpace c → c ≠ verticalTab → caseOf c = .space := (space_classes c).1

theorem parts_of_space : isSpace c → isIdent c = false ∧ c ≠ 39 ∧ c ≠ 34 ∧ c ≠ 61 := (space_classes c).2.1

theorem not_space_of_ident : isIdent c → isSpace c = false := (space_classes c).2.2

end Characters

section Ends
variable {p : UInt8 → Bool} {run rest : Octets}

/-- A run of characters goes up to its end. -/
theorem takeWhile_run (inside : ∀ c ∈ run, p c) (ends : ∀ c, rest.head? = some c → p c = false) :
    (run ++ rest).takeWhile p = run := by
  have stop : rest.takeWhile p = [] := by
    cases rest with
    | nil => rfl
    | cons c rest => exact List.takeWhile_cons_of_neg (by rw [ends c rfl]; exact Bool.false_ne_true)
  rw [List.takeWhile_append_of_pos inside, stop, List.append_nil]

theorem spoils_of_ends (ends : Ends rest) : spoils rest = false := by
  cases rest with
  | nil => rfl
  | cons c rest =>
    have parts := (ends c rfl).1
    cases spoiled : isIdentStart c with
    | false => exact spoiled
    | true =>
      rw [isIdent_of_start spoiled] at parts
      cases parts

/-- The delimiter behind a string is found. -/
theorem closing_paired {delim : UInt8} {text : Octets} (paired : Paired delim text) (other : rest.head? ≠ some delim) :
    closing delim (text ++ delim :: rest) = some text.length := by
  induction text using Paired.induct delim with
  | case1 =>
    cases rest with
    | nil => exact if_pos rfl
    | cons next rest =>
      have different : next ≠ delim := fun same => other (congrArg some same)
      rw [List.nil_append, closing, if_pos rfl, if_neg different]
      rfl
  | case2 c =>
    have inner : c ≠ delim := paired
    have ended : closing delim (delim :: rest) = some 0 := by
      cases rest with
      | nil => exact if_pos rfl
      | cons next rest =>
        have different : next ≠ delim := fun same => other (congrArg some same)
        rw [closing, if_pos rfl, if_neg different]
    rw [List.singleton_append, closing, if_neg inner, ended]
    rfl
  | case3 next text ih =>
    rw [Paired, if_pos rfl] at paired
    obtain ⟨rfl, paired⟩ := paired
    rw [List.cons_append, List.cons_append, closing, if_pos rfl, if_pos rfl, ih paired]
    rfl
  | case4 c next text inner ih =>
    rw [Paired, if_neg inner] at paired
    rw [List.cons_append, List.cons_append, closing, if_neg inner, ← List.cons_append, ih paired]
    rfl

end Ends

/-- What has to be behind a lexeme. -/
def Lexeme.Behind (rest : Octets) : Lexeme → Prop
  | .name _ => Ends rest
  | .eq => rest.head? ≠ some 61
  | _ => True

section Reading
variable {rest : Octets}

/-- A name is read up to its end, and its token is the one of the whole name but for integers. -/
theorem getToken_name (name : Name) (ends : Ends rest) :
    getToken (name.written ++ rest) = { token := name.read, nread := name.written.length } := by
  cases name with
  | string quoted =>
    obtain ⟨delim, text, isDelim, paired⟩ := quoted
    have case : caseOf delim = .quote := by rcases isDelim with rfl | rfl <;> rfl
    have other : rest.head? ≠ some delim := by
      intro same
      obtain ⟨-, apostrophe, mark⟩ := ends delim same
      exact isDelim.elim apostrophe mark
    have text' : text ++ [delim] ++ rest = text ++ delim :: rest := List.append_assoc ..
    have length : (delim :: (text ++ [delim])).length = text.length + 2 := by
      rw [List.length_cons, List.length_append, List.length_singleton]
    change getToken (delim :: (text ++ [delim]) ++ rest) =
      { token := { id := .word .string, text }, nread := (delim :: (text ++ [delim])).length }
    rw [length, List.cons_append, text', getToken, case]
    dsimp only
    rw [quoteToken, closing_paired paired other]
    dsimp only [Pd.token]
    rw [List.take_left]
  | identifier ident =>
    obtain ⟨first, more, starts, goesOn⟩ := ident
    rw [Name.written, List.cons_append, getToken, caseOf_identStart starts]
    dsimp only
    rw [takeWhile_run goesOn fun c is => (ends c is).1, Nat.add_comm, token, List.take_succ_cons, List.take_left]
    rfl
  | integer decimal =>
    obtain ⟨first, more, starts, goesOn⟩ := decimal
    have all : ∀ c ∈ first :: more, isDigit c := List.forall_mem_cons.mpr ⟨starts.1, goesOn⟩
    have stops (c : UInt8) (is : rest.head? = some c) : isDigit c = false := by
      by_contra digit
      have ident := isIdent_of_digit (Bool.eq_true_of_not_eq_false digit)
      rw [(ends c is).1] at ident
      cases ident
    rw [Name.written, List.cons_append, getToken, caseOf_decimal starts]
    dsimp only [digitToken]
    rw [← List.cons_append, takeWhile_run all stops, List.drop_left, spoils_of_ends ends]
    rfl
  | hexint hexadecimal =>
    obtain ⟨x, digits, isX, areDigits⟩ := hexadecimal
    have stops (c : UInt8) (is : rest.head? = some c) : isXDigit c = false := by
      by_contra digit
      have ident := isIdent_of_xdigit (Bool.eq_true_of_not_eq_false digit)
      rw [(ends c is).1] at ident
      cases ident
    have case : caseOf 48 = .zero := rfl
    have length : 2 + digits.length = (48 :: x :: digits).length := Nat.add_comm ..
    rw [Name.written, List.cons_append, List.cons_append, getToken, case]
    dsimp only [zeroToken, List.tail_cons]
    rw [if_pos isX, takeWhile_run areDigits stops, length, ← List.cons_append, ← List.cons_append, List.drop_left,
      spoils_of_ends ends, token, List.take_left]
    rfl

theorem getToken_lexeme (lexeme : Lexeme) (behind : lexeme.Behind rest) :
    getToken (lexeme.written ++ rest) = { token := lexeme.read, nread := lexeme.written.length } := by
  cases lexeme with
  | name name => exact getToken_name name behind
  | eq =>
    have case : caseOf 61 = .eq := rfl
    rw [Lexeme.written, List.singleton_append, getToken, case]
    dsimp only
    rw [if_neg behind]
    rfl
  | _ => rfl

end Reading

/-! ## The tokens of a description -/

/-- A lexeme that is not a name, or none. -/
def NoName (lexemes : List Lexeme) : Prop := ∀ name, lexemes.head? ≠ some (.name name)

/-- Names are apart, and behind each `=` there is one. -/
def Separable : List Lexeme → Prop
  | [] => True
  | .name _ :: behind => NoName behind ∧ Separable behind
  | .eq :: behind => ¬NoName behind ∧ Separable behind
  | _ :: behind => Separable behind

section Separable
variable {behind : List Lexeme}

theorem parameter_separable (parameter : Parameter) (separable : Separable behind) (apart : NoName behind) :
    Separable (parameter.lexemes behind) :=
  ⟨nofun, fun none => none _ rfl, apart, separable⟩

theorem moreParameters_separable (parameters : List Parameter) (separable : Separable behind) (apart : NoName behind) :
    Separable (moreParameters parameters behind) ∧ NoName (moreParameters parameters behind) := by
  induction parameters with
  | nil => exact ⟨separable, apart⟩
  | cons parameter parameters ih => exact ⟨parameter_separable parameter ih.1 ih.2, nofun⟩

theorem parameterLexemes_separable (parameters : List Parameter) (separable : Separable behind) (apart : NoName behind) :
    Separable (parameterLexemes parameters behind) ∧ NoName (parameterLexemes parameters behind) := by
  cases parameters with
  | nil => exact ⟨separable, apart⟩
  | cons parameter parameters =>
    have closed : Separable (.rparen :: behind) := separable
    obtain ⟨more, apart'⟩ := moreParameters_separable parameters closed nofun
    exact ⟨parameter_separable parameter more apart', nofun⟩

theorem channelLexemes_separable (channels : List Channel) (separable : Separable behind) :
    Separable (channelLexemes channels behind) := by
  induction channels with
  | nil => exact separable
  | cons channel channels ih =>
    have further : Separable (.gt :: channelLexemes channels behind) := ih
    obtain ⟨parameters, apart⟩ := parameterLexemes_separable channel.parameters further nofun
    exact ⟨apart, parameters⟩

end Separable

theorem Description.lexemes_separable (d : Description) : Separable d.lexemes :=
  ⟨nofun, channelLexemes_separable d.channels ⟨nofun, trivial⟩⟩

section Heads
variable {c : UInt8}

/-- No lexeme begins with white space. -/
theorem written_head (lexeme : Lexeme) : ∃ c, lexeme.written.head? = some c ∧ isSpace c = false := by
  cases lexeme with
  | name name =>
    cases name with
    | string quoted =>
      refine ⟨quoted.delim, rfl, ?_⟩
      rcases quoted.isDelim with same | same
      · rw [same]
        rfl
      · rw [same]
        rfl
    | identifier ident => exact ⟨ident.first, rfl, not_space_of_ident (isIdent_of_start ident.starts)⟩
    | integer decimal => exact ⟨decimal.first, rfl, not_space_of_ident (isIdent_of_digit decimal.starts.1)⟩
    | hexint hexadecimal => exact ⟨48, rfl, rfl⟩
  | _ => exact ⟨_, rfl, rfl⟩

theorem written_some (lexeme : Lexeme) : lexeme.written ≠ [] := by
  obtain ⟨c, first, -⟩ := written_head lexeme
  intro none
  rw [none] at first
  cases first

/-- A name does not begin with `=`. -/
theorem name_head {name : Name} (first : name.written.head? = some c) : c ≠ 61 := by
  have other : isIdent 61 = false := rfl
  rintro rfl
  cases name with
  | string quoted =>
    have same : quoted.delim = 61 := Option.some.inj first
    rcases quoted.isDelim with is | is
    · exact absurd (is.symm.trans same) (by decide)
    · exact absurd (is.symm.trans same) (by decide)
  | identifier ident =>
    have same : ident.first = 61 := Option.some.inj first
    exact Bool.false_ne_true (other.symm.trans (isIdent_of_start (same ▸ ident.starts)))
  | integer decimal =>
    have same : decimal.first = 61 := Option.some.inj first
    exact Bool.false_ne_true (other.symm.trans (isIdent_of_digit (same ▸ decimal.starts.1)))
  | hexint hexadecimal => exact absurd (Option.some.inj first) (by decide)

/-- The other lexemes end what is in front of them. -/
theorem parts_head {lexeme : Lexeme} (other : ∀ name, lexeme ≠ .name name) (first : lexeme.written.head? = some c) : Parts c := by
  cases lexeme with
  | name name => exact absurd rfl (other name)
  | _ =>
    cases first
    exact ⟨rfl, by decide, by decide⟩

/-- What lexemes with white space begin with. -/
theorem spelled_head {gap : Nat → Space} {k : Nat} {lexemes : List Lexeme} (first : (spelled gap k lexemes).head? = some c) :
    isSpace c ∨ ∃ lexeme, lexemes.head? = some lexeme ∧ lexeme.written.head? = some c := by
  have blank := (gap k).blank
  cases is : (gap k).text with
  | nil =>
    cases lexemes with
    | nil =>
      rw [spelled, is] at first
      cases first
    | cons lexeme lexemes =>
      refine .inr ⟨lexeme, rfl, ?_⟩
      rw [spelled, is, List.nil_append, List.head?_append_of_ne_nil _ (written_some lexeme)] at first
      exact first
  | cons c' text =>
    refine .inl ?_
    have same : c' = c := by
      cases lexemes with
      | nil =>
        rw [spelled, is] at first
        exact Option.some.inj first
      | cons lexeme lexemes =>
        rw [spelled, is] at first
        exact Option.some.inj first
    exact same ▸ blank c' (is ▸ List.mem_cons_self)

/-- Behind each lexeme there is what it needs. -/
theorem spelled_behind {gap : Nat → Space} {k : Nat} {lexeme : Lexeme} {lexemes : List Lexeme}
    (separable : Separable (lexeme :: lexemes)) : lexeme.Behind (spelled gap k lexemes) := by
  cases lexeme with
  | name name =>
    intro c first
    rcases spelled_head first with blank | ⟨next, is, first⟩
    · obtain ⟨other, apostrophe, mark, -⟩ := parts_of_space blank
      exact ⟨other, apostrophe, mark⟩
    · exact parts_head (fun name' same => separable.1 name' (is.trans (congrArg some same))) first
  | eq =>
    intro first
    rcases spelled_head first with blank | ⟨next, is, first⟩
    · exact (parts_of_space blank).2.2.2 rfl
    · refine separable.1 fun name' named => ?_
      have same := Option.some.inj (is.symm.trans named)
      rw [same] at first
      exact name_head first rfl
  | _ => trivial

end Heads

/-- The lexemes in front of white space that begins with a vertical tab, which `get_token` does not
know at the beginning. -/
def reachable (gap : Nat → Space) : Nat → List Lexeme → List Lexeme
  | _, [] => []
  | k, lexeme :: lexemes => if (gap k).text.head? = some verticalTab then [] else lexeme :: reachable gap (k + 1) lexemes

/-- White space in front of something else. -/
theorem lexed_gap (gap : Space) {rest : Octets} (other : ∀ c, rest.head? = some c → isSpace c = false) :
    (lexed (gap.text ++ rest)).tokens = if gap.text.head? = some verticalTab then [] else (lexed rest).tokens := by
  obtain ⟨text, blank⟩ := gap
  cases text with
  | nil => rfl
  | cons c text =>
    obtain ⟨first, blank⟩ := List.forall_mem_cons.mp blank
    have some' : c :: text ++ rest ≠ [] := nofun
    by_cases tab : c = verticalTab
    · subst tab
      have illegal : (getToken (verticalTab :: text ++ rest)).token.id = .illegal := rfl
      rw [lexed_illegal some' illegal]
      exact (if_pos rfl).symm
    · have got : getToken (c :: text ++ rest) =
          token .space (c :: text ++ rest) (1 + text.length) (1 + text.length) := by
        rw [List.cons_append, getToken, caseOf_space first tab]
        dsimp only
        rw [takeWhile_run blank other]
      have length : 1 + text.length = (c :: text).length := Nat.add_comm ..
      have space : (getToken (c :: text ++ rest)).token.id = .space := by rw [got]; rfl
      have nread : (getToken (c :: text ++ rest)).nread = (c :: text).length := by rw [got]; exact length
      rw [lexed_space some' space, nread, List.drop_left]
      exact (if_neg fun same => tab (Option.some.inj same)).symm

/-- The tokens of lexemes, as far as they are reached. -/
theorem lexed_spelled (gap : Nat → Space) : ∀ (k : Nat) {lexemes : List Lexeme}, Separable lexemes →
    (lexed (spelled gap k lexemes)).tokens = (reachable gap k lexemes).map Lexeme.read := by
  intro k lexemes
  induction lexemes generalizing k with
  | nil =>
    intro _
    have blank := lexed_gap (gap k) (nofun : ∀ c, ([] : Octets).head? = some c → isSpace c = false)
    rw [List.append_nil, lexed_nil, ite_self] at blank
    exact blank
  | cons lexeme lexemes ih =>
    intro separable
    have further : Separable lexemes := by
      cases lexeme with
      | name name => exact separable.2
      | eq => exact separable.2
      | _ => exact separable
    have got := getToken_lexeme lexeme (spelled_behind separable : lexeme.Behind (spelled gap (k + 1) lexemes))
    have some' : lexeme.written ++ spelled gap (k + 1) lexemes ≠ [] := List.append_ne_nil_of_left_ne_nil (written_some lexeme) _
    have legal : lexeme.read.id ≠ .illegal ∧ lexeme.read.id ≠ .space := by
      cases lexeme with
      | name name => cases name <;> exact ⟨nofun, nofun⟩
      | _ => exact ⟨nofun, nofun⟩
    have other (c : UInt8) (first : (lexeme.written ++ spelled gap (k + 1) lexemes).head? = some c) : isSpace c = false := by
      obtain ⟨c', first', dark⟩ := written_head lexeme
      rw [List.head?_append_of_ne_nil _ (written_some lexeme), first'] at first
      exact Option.some.inj first ▸ dark
    rw [spelled, lexed_gap (gap k) other, reachable]
    split
    · rfl
    · rw [lexed_token some' (by rw [got]; exact legal.1) (by rw [got]; exact legal.2), got]
      dsimp only
      rw [List.drop_left, ih (k + 1) further]
      rfl

theorem reachable_begins (gap : Nat → Space) : ∀ (k : Nat) (lexemes : List Lexeme), reachable gap k lexemes <+: lexemes := by
  intro k lexemes
  induction lexemes generalizing k with
  | nil => exact List.prefix_refl _
  | cons lexeme lexemes ih =>
    rw [reachable]
    split
    · exact List.nil_prefix
    · exact (List.prefix_cons_inj lexeme).mpr (ih (k + 1))

/-- All lexemes are reached exactly if no white space in front of one begins with a vertical tab. -/
theorem reachable_eq_iff (gap : Nat → Space) : ∀ (k : Nat) (lexemes : List Lexeme),
    reachable gap k lexemes = lexemes ↔ ∀ j < lexemes.length, (gap (k + j)).text.head? ≠ some verticalTab := by
  intro k lexemes
  induction lexemes generalizing k with
  | nil => exact iff_of_true rfl nofun
  | cons lexeme lexemes ih =>
    rw [reachable]
    split
    · next tab =>
      exact iff_of_false nofun fun none => none 0 (Nat.succ_pos _) tab
    · next first =>
      rw [List.cons_inj_right, ih (k + 1)]
      constructor
      · intro later j small
        cases j with
        | zero => exact first
        | succ j =>
          have place : k + (j + 1) = k + 1 + j := by omega
          rw [place]
          exact later j (Nat.lt_of_succ_lt_succ small)
      · intro none j small
        have place : k + 1 + j = k + (j + 1) := by omega
        rw [place]
        exact none (j + 1) (Nat.succ_lt_succ small)

end Vstuff.Libkstreamer.Pd
