import Vstuff.Lapd.Proto

/-! Fields between commas, some of them in quotes (`get_token` of `chan_vgsm/util.c`): how much of
the caller's memory a token takes, and which lists of fields are taken apart again. A string is the
characters in front of its terminator. -/
namespace Vstuff.Vgsm
open Lapd (Octets)
set_option linter.all false

def quote : UInt8 := 34

def comma : UInt8 := 44

/-- Where the scanner is: outside quotes, inside, just behind them, or just behind its inner loop
when that was left since there was no room. -/
inductive TokenPlace where
  | outside | quoted | behind | full
  deriving DecidableEq, Repr

/-- What a character is there: a quotation mark that is left out, the comma behind the token, or a
character of the token, in quotes or not. -/
inductive TokenMark where
  | quotation (next : TokenPlace)
  | separator
  | character (inQuotes : Bool) (next : TokenPlace)
  deriving DecidableEq, Repr

/-- The tests `get_token` makes on a character. Behind quotes it does not look for another pair
before it has taken a character. -/
def tokenMark : TokenPlace → UInt8 → TokenMark
  | .quoted, c => if c = quote then .quotation .behind else .character true .quoted
  | .outside, c => if c = quote then .quotation .quoted else if c = comma then .separator else .character false .outside
  | .full, c => if c = quote then .quotation .behind else if c = comma then .separator else .character false .outside
  | .behind, c => if c = comma then .separator else .character false .outside

/-- The loops of `get_token` from a character on, with what has been stored before: what is stored
then, and what `*s` is set to. Both loops look whether the memory ends just there; the inner one
only leaves itself, the outer one leaves `*s` as it was. -/
def scanToken (tokenSize : Nat) : TokenPlace → Octets → Octets → Octets × Option Octets
  | _, [], token => (token, some [])
  | place, c :: rest, token =>
    match tokenMark place c with
    | .quotation next => scanToken tokenSize next rest token
    | .separator => (token, some rest)
    | .character inQuotes next =>
      if token.length + 1 = tokenSize - 2 then
        if inQuotes then scanToken tokenSize .full rest (token ++ [c]) else (token ++ [c], none)
      else scanToken tokenSize next rest (token ++ [c])

/-- What a call leaves: `*s`, all that it has stored at `token`, and what it returns. -/
structure TokenCall where
  s : Octets
  stored : Octets
  token : Option Octets
  deriving DecidableEq, Repr

/-- `get_token`. NULL tells that `*s` is where it was. -/
def getToken (tokenSize : Nat) (s : Octets) : TokenCall :=
  match scanToken tokenSize .outside s [] with
  | (token, some rest) =>
    if rest.length = s.length then { s := rest, stored := token, token := none }
    else { s := rest, stored := token ++ [0], token := some token }
  | (token, none) => { s, stored := token, token := none }

/-! ## A token without a limit -/

/-- The characters of the first token, whether each stands in quotes, and what follows it. -/
def lexeme : TokenPlace → Octets → List (UInt8 × Bool × Octets)
  | _, [] => []
  | place, c :: rest =>
    match tokenMark place c with
    | .quotation next => lexeme next rest
    | .separator => []
    | .character inQuotes next => (c, inQuotes, rest) :: lexeme next rest

/-- What is behind the first token and its comma. -/
def behindToken : TokenPlace → Octets → Octets
  | _, [] => []
  | place, c :: rest =>
    match tokenMark place c with
    | .quotation next => behindToken next rest
    | .separator => rest
    | .character _ next => behindToken next rest

/-- The characters alone. -/
def characters (place : TokenPlace) (s : Octets) : Octets := (lexeme place s).map (·.1)

theorem length_characters (place : TokenPlace) (s : Octets) : (characters place s).length = (lexeme place s).length :=
  List.length_map _

section Equations
variable {tokenSize : Nat} {place next : TokenPlace} {inQuotes : Bool} {c : UInt8} {rest token : Octets}

theorem characters_quotation (is : tokenMark place c = .quotation next) :
    characters place (c :: rest) = characters next rest := by
  rw [characters, lexeme, is]
  rfl

theorem characters_separator (is : tokenMark place c = .separator) : characters place (c :: rest) = [] := by
  rw [characters, lexeme, is]
  rfl

theorem characters_character (is : tokenMark place c = .character inQuotes next) :
    characters place (c :: rest) = c :: characters next rest := by
  rw [characters, lexeme, is]
  rfl

end Equations

/-- The rest of a string lies in it. -/
theorem behindToken_suffix (s : Octets) : ∀ place, behindToken place s <:+ s := by
  induction s with
  | nil => exact fun place => List.suffix_refl _
  | cons c rest ih =>
    intro place
    rw [behindToken]
    cases tokenMark place c with
    | quotation next => exact (ih next).trans (List.suffix_cons _ _)
    | separator => exact List.suffix_cons _ _
    | character inQuotes next => exact (ih next).trans (List.suffix_cons _ _)

/-- Something is taken from a string that is not empty. -/
theorem behindToken_lt {s : Octets} (some : s ≠ []) (place : TokenPlace) : (behindToken place s).length < s.length := by
  match s with
  | [] => exact absurd rfl some
  | c :: rest =>
    have shorter (next : TokenPlace) : (behindToken next rest).length < (c :: rest).length :=
      Nat.lt_succ_of_le (behindToken_suffix rest next).length_le
    rw [behindToken]
    cases tokenMark place c with
    | quotation next => exact shorter next
    | separator => exact Nat.lt_succ_self _
    | character inQuotes next => exact shorter next

/-- Behind the end of its memory the scanner knows no limit. -/
theorem scanToken_beyond {tokenSize : Nat} (s : Octets) :
    ∀ (place : TokenPlace) (token : Octets), tokenSize - 2 ≤ token.length →
      scanToken tokenSize place s token = (token ++ characters place s, some (behindToken place s)) := by
  induction s with
  | nil => exact fun place token _ => congrArg (·, some []) (List.append_nil token).symm
  | cons c rest ih =>
    intro place token beyond
    rw [scanToken, behindToken]
    cases is : tokenMark place c with
    | quotation next =>
      rw [characters_quotation is]
      exact ih next token beyond
    | separator =>
      rw [characters_separator is, List.append_nil]
    | character inQuotes next =>
      have unlimited : ¬token.length + 1 = tokenSize - 2 := by omega
      dsimp only
      rw [if_neg unlimited, ih next _ (by rw [List.length_append]; omega), characters_character is, List.append_assoc]
      rfl

/-- In front of the end it is the first character without room that decides what happens. -/
theorem scanToken_cases {tokenSize : Nat} (s : Octets) :
    ∀ (place : TokenPlace) (token : Octets), token.length < tokenSize - 2 →
      match (lexeme place s)[tokenSize - 3 - token.length]? with
      | none => scanToken tokenSize place s token = (token ++ characters place s, some (behindToken place s))
      | some (_, false, _) => ∃ token', token'.length = tokenSize - 2 ∧ scanToken tokenSize place s token = (token', none)
      | some (_, true, rest) => ∃ token', token'.length = tokenSize - 2 ∧
          scanToken tokenSize place s token = scanToken tokenSize .full rest token' := by
  induction s with
  | nil => exact fun place token _ => congrArg (·, some []) (List.append_nil token).symm
  | cons c rest ih =>
    intro place token room
    rw [scanToken, behindToken, lexeme]
    cases is : tokenMark place c with
    | quotation next =>
      rw [characters_quotation is]
      exact ih next token room
    | separator =>
      rw [characters_separator is, List.append_nil]
      rfl
    | character inQuotes next =>
      rw [characters_character is]
      have length : (token ++ [c]).length = token.length + 1 := List.length_append
      dsimp only
      by_cases last : token.length + 1 = tokenSize - 2
      · have here : tokenSize - 3 - token.length = 0 := by omega
        rw [if_pos last, here]
        cases inQuotes with
        | false => exact ⟨token ++ [c], length.trans last, rfl⟩
        | true => exact ⟨token ++ [c], length.trans last, rfl⟩
      · have later : tokenSize - 3 - token.length = tokenSize - 3 - (token ++ [c]).length + 1 := by omega
        have further := ih next (token ++ [c]) (by omega)
        have joined : token ++ c :: characters next rest = token ++ [c] ++ characters next rest := List.append_cons ..
        rw [if_neg last, later, List.getElem?_cons_succ, joined]
        exact further

/-- What is left of a string lies in it. -/
theorem scanToken_suffix {tokenSize : Nat} (s : Octets) : ∀ (place : TokenPlace) (token token' rest : Octets),
    scanToken tokenSize place s token = (token', some rest) → rest <:+ s := by
  induction s with
  | nil =>
    intro place token token' rest scanned
    cases scanned
    exact List.suffix_refl _
  | cons c tail ih =>
    intro place token token' rest scanned
    rw [scanToken] at scanned
    cases is : tokenMark place c with
    | quotation next =>
      rw [is] at scanned
      exact (ih next _ _ _ scanned).trans (List.suffix_cons _ _)
    | separator =>
      rw [is] at scanned
      cases scanned
      exact List.suffix_cons _ _
    | character inQuotes next =>
      rw [is] at scanned
      dsimp only at scanned
      split_ifs at scanned
      · exact (ih _ _ _ _ scanned).trans (List.suffix_cons _ _)
      · cases scanned
      · exact (ih _ _ _ _ scanned).trans (List.suffix_cons _ _)

theorem getToken_suffix (tokenSize : Nat) (s : Octets) : (getToken tokenSize s).s <:+ s := by
  unfold getToken
  match scanned : scanToken tokenSize .outside s [] with
  | (token, some rest) =>
    have part := scanToken_suffix s .outside _ _ _ scanned
    dsimp only
    split
    · exact part
    · exact part
  | (token, none) => exact List.suffix_refl _

/-- A token that is returned has its terminator behind it. -/
theorem getToken_stored {tokenSize : Nat} {s token : Octets} (got : (getToken tokenSize s).token = some token) :
    (getToken tokenSize s).stored = token ++ [0] := by
  unfold getToken at got ⊢
  match scanned : scanToken tokenSize .outside s [] with
  | (token', some rest) =>
    rw [scanned] at got
    dsimp only at got ⊢
    split_ifs at got ⊢
    cases got
    rfl
  | (token', none) =>
    rw [scanned] at got
    cases got

/-! ## The memory of the caller -/

/-- A call stores no more than there is memory for, and leaves `*s` in the string. -/
def Contained (tokenSize : Nat) (s : Octets) : Prop :=
  (getToken tokenSize s).stored.length ≤ tokenSize ∧ (getToken tokenSize s).s <:+ s

/-- If there is no room behind a character in quotes, at most one more follows. A quotation mark
just behind it counts for nothing, and otherwise the quotes are taken to have ended. -/
def HasRoom (tokenSize : Nat) (s : Octets) : Prop :=
  ∀ c rest, (lexeme .outside s)[tokenSize - 3]? = some (c, true, rest) → (lexeme .full rest).length ≤ 1

/-- A scan that comes to the end of a token. -/
theorem getToken_of_scan {tokenSize : Nat} {s token : Octets}
    (scanned : scanToken tokenSize .outside s [] = (token, some (behindToken .outside s))) :
    getToken tokenSize s =
      if s = [] then ⟨[], token, none⟩ else ⟨behindToken .outside s, token ++ [0], some token⟩ := by
  unfold getToken
  rw [scanned]
  by_cases empty : s = []
  · subst empty
    rfl
  · rw [if_neg empty]
    dsimp only
    rw [if_neg (Nat.ne_of_lt (behindToken_lt empty .outside))]

/-- What follows a character of a token is shorter than the string. -/
theorem lexeme_lt (s : Octets) : ∀ place, ∀ entry ∈ lexeme place s, entry.2.2.length < s.length := by
  induction s with
  | nil => exact fun place entry member => absurd member List.not_mem_nil
  | cons c rest ih =>
    intro place entry member
    rw [lexeme] at member
    cases is : tokenMark place c with
    | quotation next =>
      rw [is] at member
      exact Nat.lt_succ_of_lt (ih next entry member)
    | separator =>
      rw [is] at member
      cases member
    | character inQuotes next =>
      rw [is] at member
      rcases List.mem_cons.mp member with rfl | member
      · exact Nat.lt_succ_self _
      · exact Nat.lt_succ_of_lt (ih next entry member)

/-- What is stored keeps to its memory exactly if it has room there. -/
theorem stored_le_iff {tokenSize : Nat} (large : 2 < tokenSize) (s : Octets) :
    (getToken tokenSize s).stored.length ≤ tokenSize ↔ HasRoom tokenSize s := by
  have outcome := scanToken_cases s .outside [] (by rw [List.length_nil]; omega : ([] : Octets).length < tokenSize - 2)
  rw [List.length_nil, Nat.sub_zero] at outcome
  unfold HasRoom
  match found : (lexeme .outside s)[tokenSize - 3]? with
  | none =>
    rw [found] at outcome
    refine iff_of_true ?_ fun c rest there => absurd there nofun
    have short : (lexeme .outside s).length ≤ tokenSize - 3 := List.getElem?_eq_none_iff.mp found
    rw [← length_characters] at short
    rw [getToken_of_scan outcome, List.nil_append]
    split
    · dsimp only
      omega
    · rw [List.length_append, List.length_singleton]
      omega
  | some (c, false, rest) =>
    rw [found] at outcome
    obtain ⟨token, length, scanned⟩ := outcome
    refine iff_of_true ?_ fun c' rest' there => ?_
    · unfold getToken
      rw [scanned]
      dsimp only
      omega
    · cases there
  | some (c, true, rest) =>
    rw [found] at outcome
    obtain ⟨token, length, scanned⟩ := outcome
    rw [scanToken_beyond rest .full token (by omega)] at scanned
    have shorter := lexeme_lt s .outside _ (List.mem_of_getElem? found)
    have moved : ¬(behindToken .full rest).length = s.length := by
      have part := (behindToken_suffix rest .full).length_le
      dsimp only at shorter
      omega
    unfold getToken
    rw [scanned]
    dsimp only
    rw [if_neg moved]
    dsimp only
    rw [List.length_append, List.length_append, length_characters, List.length_singleton, length]
    constructor
    · intro stored c' rest' there
      cases there
      omega
    · intro few
      have one := few c rest rfl
      omega

theorem contained_iff {tokenSize : Nat} (large : 2 < tokenSize) (s : Octets) : Contained tokenSize s ↔ HasRoom tokenSize s := by
  rw [← stored_le_iff large s]
  exact and_iff_left (getToken_suffix tokenSize s)

/-! ## Lists of fields -/

/-- A field: it has no quotation mark, and a comma only if it stands in quotes. -/
structure TokenField where
  inQuotes : Bool
  text : Octets
  unquoted : ∀ c ∈ text, c ≠ quote
  whole : ∀ c ∈ text, inQuotes = false → c ≠ comma

namespace TokenField

/-- The field as it is written. -/
def written (field : TokenField) : Octets :=
  if field.inQuotes then quote :: field.text ++ [quote] else field.text

/-- Fields with commas between them. -/
def joined : List TokenField → Octets
  | [] => []
  | [field] => field.written
  | field :: next :: fields => field.written ++ comma :: joined (next :: fields)

end TokenField

/-- A call that returns a token takes something from the string. -/
theorem getToken_shorter {tokenSize : Nat} {s token : Octets} (got : (getToken tokenSize s).token = some token) :
    (getToken tokenSize s).s.length < s.length := by
  unfold getToken at got ⊢
  match scanned : scanToken tokenSize .outside s [] with
  | (token', some rest) =>
    rw [scanned] at got
    have part := (scanToken_suffix s .outside _ _ _ scanned).length_le
    dsimp only at got ⊢
    split_ifs at got ⊢ with same
    exact Nat.lt_of_le_of_ne part same
  | (token', none) =>
    rw [scanned] at got
    cases got

/-- The tokens that are returned until there is none. -/
def tokens (tokenSize : Nat) (s : Octets) : List Octets :=
  match _got : (getToken tokenSize s).token with
  | none => []
  | some token => token :: tokens tokenSize (getToken tokenSize s).s
termination_by s.length
decreasing_by exact getToken_shorter _got

theorem tokens_none {tokenSize : Nat} {s : Octets} (got : (getToken tokenSize s).token = none) :
    tokens tokenSize s = [] := by
  rw [tokens]
  split
  · rfl
  · next token some =>
    rw [got] at some
    cases some

theorem tokens_some {tokenSize : Nat} {s token : Octets} (got : (getToken tokenSize s).token = some token) :
    tokens tokenSize s = token :: tokens tokenSize (getToken tokenSize s).s := by
  rw [tokens]
  split
  · next none =>
    rw [got] at none
    cases none
  · next token' some =>
    rw [got] at some
    cases some
    rfl

/-- What follows a field: nothing, or a comma. -/
def Follows (tail rest : Octets) : Prop := tail = [] ∧ rest = [] ∨ tail = comma :: rest

theorem follows_token {tail rest : Octets} (follows : Follows tail rest) {place : TokenPlace} (outside : place = .outside ∨ place = .behind) :
    characters place tail = [] ∧ behindToken place tail = rest := by
  rcases follows with ⟨rfl, rfl⟩ | rfl
  · exact ⟨rfl, rfl⟩
  · have is : tokenMark place comma = .separator := by
      rcases outside with rfl | rfl <;> rfl
    refine ⟨characters_separator is, ?_⟩
    rw [behindToken, is]

/-- A text outside quotes is taken as it is. -/
theorem plain_token {text tail rest : Octets} (unquoted : ∀ c ∈ text, c ≠ quote) (whole : ∀ c ∈ text, c ≠ comma)
    (follows : Follows tail rest) :
    characters .outside (text ++ tail) = text ∧ behindToken .outside (text ++ tail) = rest := by
  induction text with
  | nil => exact follows_token follows (.inl rfl)
  | cons c text ih =>
    obtain ⟨other, unquoted⟩ := List.forall_mem_cons.mp unquoted
    obtain ⟨inner, whole⟩ := List.forall_mem_cons.mp whole
    obtain ⟨text', rest'⟩ := ih unquoted whole
    have is : tokenMark .outside c = .character false .outside := by
      rw [tokenMark, if_neg other, if_neg inner]
    refine ⟨?_, ?_⟩
    · rw [List.cons_append, characters_character is, text']
    · rw [List.cons_append, behindToken, is]
      exact rest'

/-- A text in quotes is taken without them. -/
theorem quoted_token {text tail rest : Octets} (unquoted : ∀ c ∈ text, c ≠ quote) (follows : Follows tail rest) :
    characters .quoted (text ++ quote :: tail) = text ∧ behindToken .quoted (text ++ quote :: tail) = rest := by
  induction text with
  | nil =>
    have is : tokenMark .quoted quote = .quotation .behind := rfl
    obtain ⟨none, rest'⟩ := follows_token follows (.inr rfl)
    refine ⟨?_, ?_⟩
    · rw [List.nil_append, characters_quotation is, none]
    · rw [List.nil_append, behindToken, is]
      exact rest'
  | cons c text ih =>
    obtain ⟨other, unquoted⟩ := List.forall_mem_cons.mp unquoted
    obtain ⟨text', rest'⟩ := ih unquoted
    have is : tokenMark .quoted c = .character true .quoted := by
      rw [tokenMark, if_neg other]
    refine ⟨?_, ?_⟩
    · rw [List.cons_append, characters_character is, text']
    · rw [List.cons_append, behindToken, is]
      exact rest'

/-- A field is the first token where it is written. -/
theorem field_token (field : TokenField) {tail rest : Octets} (follows : Follows tail rest) :
    characters .outside (field.written ++ tail) = field.text ∧ behindToken .outside (field.written ++ tail) = rest := by
  unfold TokenField.written
  cases quotes : field.inQuotes with
  | false => exact plain_token field.unquoted (fun c member => field.whole c member quotes) follows
  | true =>
    have is : tokenMark .outside quote = .quotation .quoted := rfl
    obtain ⟨text', rest'⟩ := quoted_token field.unquoted follows
    rw [if_pos rfl, List.append_assoc, List.singleton_append]
    refine ⟨?_, ?_⟩
    · rw [List.cons_append, characters_quotation is, text']
    · rw [List.cons_append, behindToken, is]
      exact rest'

/-- A call takes a field that is short enough. -/
theorem getToken_field {tokenSize : Nat} (field : TokenField) {tail rest : Octets} (short : field.text.length < tokenSize - 2)
    (follows : Follows tail rest) (present : field.written ++ tail ≠ []) :
    (getToken tokenSize (field.written ++ tail)).token = some field.text ∧
      (getToken tokenSize (field.written ++ tail)).s = rest := by
  obtain ⟨text', rest'⟩ := field_token field follows
  have outcome := scanToken_cases (field.written ++ tail) .outside []
    (by rw [List.length_nil]; omega : ([] : Octets).length < tokenSize - 2)
  have few : (lexeme .outside (field.written ++ tail))[tokenSize - 3]? = none := by
    apply List.getElem?_eq_none_iff.mpr
    rw [← length_characters, text']
    omega
  rw [List.length_nil, Nat.sub_zero, few] at outcome
  rw [getToken_of_scan outcome, if_neg present, text', rest']
  exact ⟨rfl, rfl⟩

/-- All fields are returned but for an empty one at the end. -/
theorem tokens_joined {tokenSize : Nat} {fields : List TokenField} (short : ∀ field ∈ fields, field.text.length < tokenSize - 2) :
    tokens tokenSize (TokenField.joined fields) =
      if ∀ field ∈ fields.getLast?, field.written ≠ [] then fields.map (·.text) else (fields.map (·.text)).dropLast := by
  induction fields using TokenField.joined.induct with
  | case1 => exact tokens_none rfl
  | case2 field =>
    have isLast : (∀ last ∈ [field].getLast?, last.written ≠ []) ↔ field.written ≠ [] := by simp
    rw [TokenField.joined]
    by_cases present : field.written ≠ []
    · rw [if_pos (isLast.mpr present)]
      have taken := getToken_field field (short field List.mem_cons_self) (.inl ⟨rfl, rfl⟩ : Follows [] [])
        (by rwa [List.append_nil])
      rw [List.append_nil] at taken
      rw [tokens_some taken.1, taken.2, tokens_none rfl]
      rfl
    · rw [if_neg (mt isLast.mp present), not_not.mp present]
      exact tokens_none rfl
  | case3 field next fields ih =>
    have isLast : (field :: next :: fields).getLast? = (next :: fields).getLast? := List.getLast?_cons_cons
    have taken := getToken_field field (short field List.mem_cons_self)
      (.inr rfl : Follows (comma :: TokenField.joined (next :: fields)) _) (by simp)
    rw [TokenField.joined, tokens_some taken.1, taken.2, ih fun field member => short field (List.mem_cons_of_mem _ member),
      isLast]
    split
    · rfl
    · rfl

/-- A token keeps to its memory exactly if there is room for what follows a character in quotes;
and a list of fields is taken apart exactly if its last one is not empty and without quotes. -/
theorem get_token_iff {tokenSize : Nat} (large : 2 < tokenSize) (s : Octets) {fields : List TokenField}
    (short : ∀ field ∈ fields, field.text.length < tokenSize - 2) :
    (Contained tokenSize s ↔ HasRoom tokenSize s) ∧
      (tokens tokenSize (TokenField.joined fields) = fields.map (·.text) ↔
        ∀ field ∈ fields.getLast?, field.written ≠ []) := by
  refine ⟨contained_iff large s, ?_⟩
  rw [tokens_joined short]
  split
  · next last => exact iff_of_true rfl last
  · next last =>
    refine iff_of_false (fun same => ?_) last
    -- there is a last field, which is missing
    have lengths := congrArg List.length same
    rw [List.length_dropLast, List.length_map] at lengths
    have none : fields = [] := List.eq_nil_of_length_eq_zero (by omega)
    subst none
    exact last nofun

/-- An empty field, a field with a comma in quotes, and an empty one in quotes. -/
def sampleFields : List TokenField :=
  [⟨false, [], by simp, by simp⟩, ⟨true, [97, 44, 98], by simp [quote], by simp⟩, ⟨true, [], by simp, by simp⟩]

/-- They are all returned, and none of them needs more than six octets. -/
theorem sample_is_taken_apart : Contained 6 (TokenField.joined sampleFields) ∧
    tokens 6 (TokenField.joined sampleFields) = [[], [97, 44, 98], []] := by
  obtain ⟨contained, taken⟩ := get_token_iff (by decide : 2 < 6) (TokenField.joined sampleFields)
    (by decide : ∀ field ∈ sampleFields, field.text.length < 6 - 2)
  refine ⟨contained.mpr fun c rest there => ?_, taken.mpr (by simp [sampleFields, TokenField.written])⟩
  have none : (lexeme .outside (TokenField.joined sampleFields))[6 - 3]? = Option.none := rfl
  rw [none] at there
  cases there

/-- `"abcd"` takes five octets of four, and the empty field behind `a,` is not returned. -/
theorem quotation_overflows : ¬Contained 4 [34, 97, 98, 99, 100, 34] ∧ (getToken 4 [97, 44]).token = some [97] ∧
    (getToken 4 (getToken 4 [97, 44]).s).token = none := by
  refine ⟨fun contained => ?_, rfl, rfl⟩
  exact absurd contained.1 (by decide)

end Vstuff.Vgsm
