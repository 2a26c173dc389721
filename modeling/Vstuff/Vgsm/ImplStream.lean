import Vstuff.Lib.Machine
import Vstuff.Vgsm.Mesim
import Vstuff.Vgsm.Pdu

/-! The stream of the Implementa SIM server (`mesim_impl.c`): octets as two hexadecimal digits, with
control characters in between. Of an octet the first digit may come with one read and the second with
the next. -/
namespace Vstuff.Vgsm.Impl
open Transition
set_option linter.all false

/-- `enum vgsm_mesim_impl_parser_state`. -/
inductive ParserState where
  | idle | readingHexOctet
  deriving DecidableEq, Repr

/-- What of `struct vgsm_mesim_impl` the parser keeps from one read to the next. -/
structure Parser where
  state : ParserState
  hexval : UInt8
  deriving DecidableEq, Repr

/-- What the information is made of: the card, the ME, and whether it is reset. -/
structure Board where
  serial : Int
  card : Int
  me : Int
  is_reset : Bool

/-- What is done besides: a state of the interface with the delta of its timer; the
line of the SIM; and what goes back to the server. -/
inductive Act where
  | changeState (state : MesimState) (timer : Option Int)
  | setRemoved
  | write (text : String)
  deriving DecidableEq, Repr

/-- `isxdigit`. -/
def isxdigit (c : UInt8) : Bool := (48 ≤ c && c ≤ 57) || (97 ≤ c && c ≤ 102) || (65 ≤ c && c ≤ 70)

/-- The answer to `i`. -/
def info (board : Board) : String :=
  let status := if board.is_reset then "off" else "on"
  s!"<info boardSN=\"{board.serial}\" boardPCISlot=\"{board.card}\" numModules=\"-1\" typeModules=\"MC55\"" ++
    s!" thisModule=\"{board.me}\" thisModuleStatus=\"{status}\" />"

/-- What a character between two octets does. -/
def control (board : Board) (c : UInt8) : List Act :=
  if c = 43 then [.changeState .holderChanging (some (3 * sec))]
  else if c = 45 then [.write "-", .changeState .holderRemoved none, .setRemoved]
  else if c = 46 then [.write "."]
  else if c = 105 then [.write (info board)]
  else []

/-- The parser behind some characters, the octets it has put into its buffer, and what it has done
besides. -/
structure Result where
  parser : Parser
  bufo : List UInt8
  acts : List Act

/-- The loop of `vgsm_mesim_impl_receive_ready`; the octets go to the ME behind it. -/
def receiveReady (board : Board) : Parser → List UInt8 → Result
  | parser, [] => { parser, bufo := [], acts := [] }
  | parser, c :: rest =>
    match parser.state with
    | .idle =>
      if isxdigit c then receiveReady board { state := .readingHexOctet, hexval := charToHexdigit c <<< 4 } rest
      else
        let result := receiveReady board parser rest
        { result with acts := control board c ++ result.acts }
    | .readingHexOctet =>
      let parser := if !isxdigit c then { parser with state := .idle } else parser
      let parser := { parser with state := .idle, hexval := parser.hexval ||| charToHexdigit c }
      let result := receiveReady board parser rest
      { result with bufo := parser.hexval :: result.bufo }

/-- A digit of `%02X`. -/
def hexDigitX (n : UInt8) : UInt8 := if n < 10 then 48 + n else 55 + n

/-- The text of `vgsm_mesim_impl_write_message`. -/
def writeMessage (data : List UInt8) : List UInt8 := data.flatMap fun x => [hexDigitX (x / 16), hexDigitX (x % 16)]

/-- One read after the other. -/
def receiveAll (board : Board) : Parser → List (List UInt8) → Result
  | parser, [] => { parser, bufo := [], acts := [] }
  | parser, buf :: reads =>
    let result := receiveReady board parser buf
    let more := receiveAll board result.parser reads
    { parser := more.parser, bufo := result.bufo ++ more.bufo, acts := result.acts ++ more.acts }

/-! ## What a text means -/

/-- Two digits are an octet; what else there is, is none. -/
def meant : List UInt8 → List UInt8
  | high :: low :: rest =>
    if isxdigit high then
      if isxdigit low then (charToHexdigit high <<< 4 ||| charToHexdigit low) :: meant rest else meant rest
    else meant (low :: rest)
  | _ => []

/-- The text of some octets, with control characters between them. -/
inductive Spells : List UInt8 → List UInt8 → Prop
  | nothing : Spells [] []
  | between {c data text} (control : c = 46 ∨ c = 105) (rest : Spells data text) : Spells data (c :: text)
  | octet {x data text} (rest : Spells data text) : Spells (x :: data) (writeMessage [x] ++ text)

/-- No octet is broken off in its middle by another character. -/
def Whole : List UInt8 → Prop
  | high :: low :: rest => if isxdigit high then isxdigit low ∧ Whole rest else Whole (low :: rest)
  | _ => True

/-- Pairs of characters, the first of each a digit. -/
def Packed : List UInt8 → Prop
  | [] => True
  | [_] => False
  | high :: _ :: rest => isxdigit high ∧ Packed rest

/-! ## One read -/

variable {board : Board} {parser : Parser} {text rest data : List UInt8} {c high low x : UInt8}

theorem receiveReady_append (board : Board) (parser : Parser) (text text' : List UInt8) :
    (receiveReady board parser (text ++ text')).parser = (receiveReady board (receiveReady board parser text).parser text').parser ∧
      (receiveReady board parser (text ++ text')).bufo =
        (receiveReady board parser text).bufo ++ (receiveReady board (receiveReady board parser text).parser text').bufo ∧
      (receiveReady board parser (text ++ text')).acts =
        (receiveReady board parser text).acts ++ (receiveReady board (receiveReady board parser text).parser text').acts := by
  induction text generalizing parser with
  | nil => exact ⟨rfl, rfl, rfl⟩
  | cons c rest ih =>
    simp only [List.cons_append, receiveReady]
    cases parser.state with
    | idle =>
      cases isxdigit c with
      | true => exact ih _
      | false =>
        obtain ⟨parser_eq, bufo_eq, acts_eq⟩ := ih parser
        exact ⟨parser_eq, bufo_eq, by simp [acts_eq]⟩
    | readingHexOctet =>
      dsimp only
      obtain ⟨parser_eq, bufo_eq, acts_eq⟩ := ih { state := .idle, hexval := _ }
      exact ⟨parser_eq, by rw [bufo_eq]; rfl, acts_eq⟩

/-- However a text is cut into reads, the octets and the acts are those of the whole. -/
theorem receiveAll_flatten (board : Board) (parser : Parser) (reads : List (List UInt8)) :
    (receiveAll board parser reads).bufo = (receiveReady board parser reads.flatten).bufo ∧
      (receiveAll board parser reads).acts = (receiveReady board parser reads.flatten).acts := by
  induction reads generalizing parser with
  | nil => exact ⟨rfl, rfl⟩
  | cons buf reads ih =>
    obtain ⟨-, bufo_eq, acts_eq⟩ := receiveReady_append board parser buf reads.flatten
    rw [List.flatten_cons, bufo_eq, acts_eq, receiveAll]
    exact ⟨by rw [(ih _).1], by rw [(ih _).2]⟩

theorem idle_pair (board : Board) (low : UInt8) (rest : List UInt8) (idle : parser.state = .idle) (digit : isxdigit high = true) :
    ∃ after : Parser, after.state = .idle ∧
      (receiveReady board parser (high :: low :: rest)).bufo =
        (charToHexdigit high <<< 4 ||| charToHexdigit low) :: (receiveReady board after rest).bufo := by
  refine ⟨{ state := .idle, hexval := charToHexdigit high <<< 4 ||| charToHexdigit low }, rfl, ?_⟩
  simp only [receiveReady, idle, digit, if_pos]
  split <;> rfl

theorem idle_other (idle : parser.state = .idle) (other : isxdigit c = false) :
    (receiveReady board parser (c :: rest)).bufo = (receiveReady board parser rest).bufo := by
  simp only [receiveReady, idle, other, Bool.false_eq_true, if_false]

theorem idle_last (idle : parser.state = .idle) : (receiveReady board parser [c]).bufo = [] := by
  simp only [receiveReady, idle]
  split <;> rfl

/-- Between two octets, no more octets come of a text than it means, and they are those it means
where none is broken off. -/
theorem idle_meant (board : Board) (text : List UInt8) (idle : parser.state = .idle) :
    (meant text).length ≤ (receiveReady board parser text).bufo.length ∧
      ((receiveReady board parser text).bufo = meant text ↔ Whole text) := by
  induction text using meant.induct generalizing parser with
  | case1 high low rest digit digit' ih =>
    obtain ⟨after, idle', bufo⟩ := idle_pair board low rest idle digit
    rw [bufo]
    simp only [meant, Whole, digit, digit', if_pos, List.length_cons, List.cons.injEq, true_and]
    exact ⟨by have := (ih idle').1; omega, (ih idle').2⟩
  | case2 high low rest digit other ih =>
    obtain ⟨after, idle', bufo⟩ := idle_pair board low rest idle digit
    rw [bufo]
    simp only [meant, Whole, digit, other, if_pos]
    have fewer := (ih idle').1
    refine ⟨by rw [List.length_cons]; simp; omega, iff_of_false (fun same => ?_) (by simp)⟩
    have lengths := congrArg List.length same
    simp at lengths
    omega
  | case3 high low rest other ih =>
    rw [idle_other idle (by simpa using other)]
    simp only [meant, Whole, other]
    exact ih idle
  | case4 text short =>
    obtain _ | ⟨c, _ | ⟨d, rest⟩⟩ := text
    · exact ⟨le_refl _, iff_of_true rfl trivial⟩
    · rw [idle_last idle]
      exact ⟨le_refl _, iff_of_true rfl trivial⟩
    · exact absurd rfl (short c d rest)

/-- At most one octet comes of two characters, and as many only of digits with a character behind. -/
theorem idle_length (board : Board) (text : List UInt8) (idle : parser.state = .idle) :
    2 * (receiveReady board parser text).bufo.length ≤ text.length ∧
      (2 * (receiveReady board parser text).bufo.length = text.length ↔ Packed text) := by
  induction text using meant.induct generalizing parser with
  | case1 high low rest digit digit' ih =>
    obtain ⟨after, idle', bufo⟩ := idle_pair board low rest idle digit
    obtain ⟨most, packed⟩ := ih idle'
    simp only [bufo, Packed, digit, List.length_cons, true_and, ← packed]
    omega
  | case2 high low rest digit other ih =>
    obtain ⟨after, idle', bufo⟩ := idle_pair board low rest idle digit
    obtain ⟨most, packed⟩ := ih idle'
    simp only [bufo, Packed, digit, List.length_cons, true_and, ← packed]
    omega
  | case3 high low rest other ih =>
    have most := (ih idle).1
    rw [idle_other idle (by simpa using other)]
    rw [List.length_cons] at most
    simp only [Packed, other, List.length_cons]
    exact ⟨by omega, iff_of_false (by omega) (by simp)⟩
  | case4 text short =>
    obtain _ | ⟨c, _ | ⟨d, rest⟩⟩ := text
    · exact ⟨le_refl _, iff_of_true rfl trivial⟩
    · rw [idle_last idle]
      exact ⟨Nat.zero_le _, iff_of_false (by simp) id⟩
    · exact absurd rfl (short c d rest)

/-- Where a read goes on with an octet, and is made of nothing else behind it but pairs. -/
def Overflows (parser : Parser) (buf : List UInt8) : Prop :=
  parser.state = .readingHexOctet ∧ ∃ c rest, buf = c :: rest ∧ Packed rest

/-- The buffer of half the length of the read is large enough but for that. -/
theorem fits_iff (board : Board) (parser : Parser) (buf : List UInt8) :
    (receiveReady board parser buf).bufo.length ≤ buf.length / 2 ↔ ¬Overflows parser buf := by
  unfold Overflows
  cases state : parser.state with
  | idle =>
    have most := (idle_length board buf state).1
    exact iff_of_true (by omega) (by simp)
  | readingHexOctet =>
    cases buf with
    | nil => exact iff_of_true (le_refl _) (by simp)
    | cons c rest =>
      obtain ⟨most, packed⟩ := idle_length board rest
        (show ({ state := .idle, hexval := parser.hexval ||| charToHexdigit c } : Parser).state = .idle from rfl)
      have bufo : (receiveReady board parser (c :: rest)).bufo.length =
          (receiveReady board { state := .idle, hexval := parser.hexval ||| charToHexdigit c } rest).bufo.length + 1 := by
        simp only [receiveReady, state]
        split <;> rfl
      have overflows : (∃ d rest', c :: rest = d :: rest' ∧ Packed rest') ↔ Packed rest := by
        constructor
        · rintro ⟨d, rest', same, pairs⟩
          cases same
          exact pairs
        · exact fun pairs => ⟨c, rest, rfl, pairs⟩
      rw [bufo, List.length_cons, overflows, ← packed]
      simp only [true_and]
      omega

/-! ## All reads -/

/-- The two digits of an octet give it again. -/
theorem digit_pair (x : UInt8) :
    isxdigit (hexDigitX (x / 16)) = true ∧ isxdigit (hexDigitX (x % 16)) = true ∧
      charToHexdigit (hexDigitX (x / 16)) <<< 4 ||| charToHexdigit (hexDigitX (x % 16)) = x := by
  have all : ∀ n < 256, isxdigit (hexDigitX (UInt8.ofNat n / 16)) = true ∧ isxdigit (hexDigitX (UInt8.ofNat n % 16)) = true ∧
      charToHexdigit (hexDigitX (UInt8.ofNat n / 16)) <<< 4 ||| charToHexdigit (hexDigitX (UInt8.ofNat n % 16)) = UInt8.ofNat n := by
    decide +kernel
  have own := all x.toNat x.toNat_lt
  rwa [UInt8.ofNat_toNat] at own

/-- The text of some octets means these. -/
theorem Spells.meant_eq (spells : Spells data text) : meant text = data ∧ Whole text := by
  induction spells with
  | nothing => exact ⟨rfl, trivial⟩
  | @between c data text control rest ih =>
    have other : isxdigit c = false := by
      obtain rfl | rfl := control <;> rfl
    cases text with
    | nil =>
      cases rest
      exact ⟨rfl, trivial⟩
    | cons d text =>
      simp only [meant, Whole, other]
      exact ih
  | @octet x data text rest ih =>
    obtain ⟨first, second, value⟩ := digit_pair x
    change meant (hexDigitX (x / 16) :: hexDigitX (x % 16) :: text) = _ ∧ Whole (hexDigitX (x / 16) :: hexDigitX (x % 16) :: text)
    simp only [meant, Whole, first, second, value, ih.1, if_pos]
    exact ⟨trivial, trivial, ih.2⟩

/-- A message without anything between its octets. -/
theorem spells_writeMessage (data : List UInt8) : Spells data (writeMessage data) := by
  induction data with
  | nil => exact .nothing
  | cons x data ih => exact .octet ih

/-- One more read. -/
def next (board : Board) (parser : Parser) (buf : List UInt8) : Option Parser := some (receiveReady board parser buf).parser

/-- The octets that go to the ME are those the text means, however it is cut, so that the octets of a
message come out as they went in; and the buffer of each read is large enough. -/
structure Faithful (board : Board) (parser : Parser) (reads : List (List UInt8)) : Prop where
  cuts : ∀ reads', reads'.flatten = reads.flatten → (receiveAll board parser reads').bufo = (receiveAll board parser reads).bufo ∧
    (receiveAll board parser reads').acts = (receiveAll board parser reads).acts
  spelt : ∀ data, Spells data reads.flatten → (receiveAll board parser reads).bufo = data
  octets : (receiveAll board parser reads).bufo = meant reads.flatten
  fits : Throughout (next board) (fun parser buf => (receiveReady board parser buf).bufo.length ≤ buf.length / 2) parser reads

/-- Text is read right where no octet is broken off and no read overflows its buffer. -/
theorem faithful_iff (board : Board) (hexval : UInt8) (reads : List (List UInt8)) :
    Faithful board { state := .idle, hexval } reads ↔
      Whole reads.flatten ∧
        Throughout (next board) (fun parser buf => ¬Overflows parser buf) { state := .idle, hexval } reads := by
  have same : (fun parser buf => (receiveReady board parser buf).bufo.length ≤ buf.length / 2) =
      fun parser buf => ¬Overflows parser buf := by
    funext parser buf
    exact propext (fits_iff board parser buf)
  obtain ⟨bufo, -⟩ := receiveAll_flatten board { state := .idle, hexval } reads
  have meaning := (idle_meant board reads.flatten (show ({ state := .idle, hexval } : Parser).state = .idle from rfl)).2
  constructor
  · intro faithful
    exact ⟨meaning.mp (bufo ▸ faithful.octets), same ▸ faithful.fits⟩
  · rintro ⟨whole, through⟩
    have octets : (receiveAll board { state := .idle, hexval } reads).bufo = meant reads.flatten := by
      rw [bufo, meaning.mpr whole]
    refine ⟨fun reads' one => ?_, fun data spells => by rw [octets, spells.meant_eq.1], octets, same ▸ through⟩
    obtain ⟨bufo, acts⟩ := receiveAll_flatten board { state := .idle, hexval } reads
    obtain ⟨bufo', acts'⟩ := receiveAll_flatten board { state := .idle, hexval } reads'
    rw [bufo, acts, bufo', acts', one]
    exact ⟨rfl, rfl⟩

def someBoard : Board where
  serial := 7
  card := 0
  me := 1
  is_reset := false

/-- An octet in two reads, with a request for the information behind it. -/
theorem asked_behind_is_faithful : Faithful someBoard { state := .idle, hexval := 0 } [[52], [49, 105]] :=
  (faithful_iff someBoard 0 _).mpr ⟨by simp [Whole, isxdigit], by simp [Throughout, next, receiveReady, Overflows, Packed, isxdigit]⟩

/-- The second digit alone goes into a buffer of no octets. -/
theorem second_digit_alone_overflows : ¬∀ (board : Board) (reads : List (List UInt8)),
    Faithful board { state := .idle, hexval := 0 } reads := by
  intro claim
  have fits := (claim someBoard [[52], [49]]).fits
  exact absurd fits.2.1 (by decide)

end Vstuff.Vgsm.Impl
