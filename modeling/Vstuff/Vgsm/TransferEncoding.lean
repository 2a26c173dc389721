import Vstuff.Vgsm.Pdu

/-! How the text of a short message is carried through the manager: base64
(`chan_vgsm/base64.c`) and quoted-printable (`chan_vgsm/quotprint.c`). A string is the characters
in front of its terminator. -/
namespace Vstuff.Vgsm
open Lapd (Octets)
set_option linter.all false

/-! ## base64 -/

/-- The first half of `base64_value`; in the second one there is -1 everywhere. -/
def base64Values : List Int :=
  [64, -1, -1, -1, -1, -1, -1, -1, -1, -1, -1, -1, -1, -1, -1, -1,
   -1, -1, -1, -1, -1, -1, -1, -1, -1, -1, -1, -1, -1, -1, -1, -1,
   -1, -1, -1, -1, -1, -1, -1, -1, -1, -1, -1, 62, -1, -1, -1, 63,
   52, 53, 54, 55, 56, 57, 58, 59, 60, 61, -1, -1, -1,  0, -1, -1,
   -1,  0,  1,  2,  3,  4,  5,  6,  7,  8,  9, 10, 11, 12, 13, 14,
   15, 16, 17, 18, 19, 20, 21, 22, 23, 24, 25, -1, -1, -1, -1, -1,
   -1, 26, 27, 28, 29, 30, 31, 32, 33, 34, 35, 36, 37, 38, 39, 40,
   41, 42, 43, 44, 45, 46, 47, 48, 49, 50, 51, -1, -1, -1, -1, -1]

def base64Value (c : UInt8) : Int := base64Values.getD c.toNat (-1)

/-- The loop of `base64_decode` from a character on, with the bits and the characters of the
quantum under way and what has been stored at `dest`. -/
def base64DecodeFrom (destSize : Nat) : Octets → Nat → Nat → Octets → Octets
  | [], _, _, dest => dest
  | c :: rest, bits, noctets, dest =>
    if ¬ dest.length + 4 < destSize then dest
    else if base64Value c < 0 then base64DecodeFrom destSize rest bits noctets dest
    else
      let bits := bits * 64 + (base64Value c).toNat
      let noctets := noctets + 1
      if noctets < 4 then base64DecodeFrom destSize rest bits noctets dest
      else base64DecodeFrom destSize rest 0 0
        (dest ++ [UInt8.ofNat (bits / 65536), UInt8.ofNat (bits / 256), UInt8.ofNat bits])

/-- `base64_decode`: what it stores in front of the terminator. -/
def base64Decode (src : Octets) (destSize : Nat) : Octets := base64DecodeFrom destSize src 0 0 []

def codes : Octets :=
  ['A', 'B', 'C', 'D', 'E', 'F', 'G', 'H', 'I', 'J', 'K', 'L', 'M', 'N', 'O', 'P', 'Q', 'R', 'S', 'T', 'U', 'V', 'W',
    'X', 'Y', 'Z', 'a', 'b', 'c', 'd', 'e', 'f', 'g', 'h', 'i', 'j', 'k', 'l', 'm', 'n', 'o', 'p', 'q', 'r', 's', 't',
    'u', 'v', 'w', 'x', 'y', 'z', '0', '1', '2', '3', '4', '5', '6', '7', '8', '9', '+', '/'].map fun c => UInt8.ofNat c.toNat

/-- `codes[value & 0x3F]`. -/
def code (value : Nat) : UInt8 := codes.getD (value % 64) 0

def pad : UInt8 := 61

/-- What `base64_encode` stores, quantum by quantum. -/
def base64EncodeFrom : Octets → Octets
  | a :: b :: c :: rest =>
    code (a.toNat / 4) :: code (a.toNat % 4 * 16 + b.toNat / 16) :: code (b.toNat % 16 * 4 + c.toNat / 64) ::
      code c.toNat :: base64EncodeFrom rest
  | [a, b] => [code (a.toNat / 4), code (a.toNat % 4 * 16 + b.toNat / 16), code (b.toNat % 16 * 4), pad]
  | [a] => [code (a.toNat / 4), code (a.toNat % 4 * 16), pad, pad]
  | [] => []

/-- `base64_encode`: the characters in front of the terminator, or `-ENOSPC` with the room
there should be. -/
def base64Encode (inp : Octets) (outlen : Nat) : Except Nat Octets :=
  let len2 := 4 * ((inp.length + 2) / 3)
  if outlen < len2 + 1 then .error (len2 + 1) else .ok (base64EncodeFrom inp)

/-! ## Quanta -/

/-- What the padding of the last quantum is decoded to. -/
def padding (inp : Octets) : Octets := List.replicate ((3 - inp.length % 3) % 3) 0

/-- A character that is not skipped. -/
def isBase64 (c : UInt8) : Bool := 0 ≤ base64Value c

theorem code_value : ∀ value < 64, base64Value (code value) = value ∧ isBase64 (code value) = true := by
  decide +kernel

theorem pad_value : base64Value pad = 0 ∧ isBase64 pad = true := by decide

section Base64
variable {destSize bits noctets : Nat} {dest inp text : Octets} {c : UInt8}

/-- Characters that are not of the alphabet make no difference. -/
theorem base64DecodeFrom_filter (text : Octets) :
    ∀ bits noctets dest, base64DecodeFrom destSize (text.filter isBase64) bits noctets dest =
      base64DecodeFrom destSize text bits noctets dest := by
  induction text with
  | nil => exact fun _ _ _ => rfl
  | cons c rest ih =>
    intro bits noctets dest
    by_cases skipped : base64Value c < 0
    · have out : isBase64 c = false := by simpa [isBase64] using skipped
      rw [List.filter_cons_of_neg (by simp [out]), ih, base64DecodeFrom]
      split
      · rename_i full
        cases rest with
        | nil => rfl
        | cons c rest => rw [base64DecodeFrom, if_pos full]
      · rfl
    · have inside : isBase64 c = true := by simpa [isBase64] using skipped
      rw [List.filter_cons_of_pos inside, base64DecodeFrom, base64DecodeFrom]
      simp only [ih]

/-- A character of the alphabet that does not end a quantum. -/
theorem base64DecodeFrom_code {value : Nat} (same : base64Value c = value) (more : noctets + 1 < 4) (rest : Octets) :
    base64DecodeFrom destSize (c :: rest) bits noctets dest =
      if ¬ dest.length + 4 < destSize then dest
      else base64DecodeFrom destSize rest (bits * 64 + value) (noctets + 1) dest := by
  rw [base64DecodeFrom]
  split
  · rfl
  · rw [if_neg (by omega), same]
    simp only [more, ↓reduceIte, Int.toNat_natCast]

/-- Without room for a quantum nothing more is stored. -/
theorem base64DecodeFrom_full (full : ¬ dest.length + 4 < destSize) (text : Octets) (bits noctets : Nat) :
    base64DecodeFrom destSize text bits noctets dest = dest := by
  cases text with
  | nil => rfl
  | cons c rest => rw [base64DecodeFrom, if_pos full]

/-- Three octets, and the four characters of their quantum. -/
theorem base64DecodeFrom_quantum {w x y z : UInt8} (a b c : UInt8) (first : base64Value w = (a.toNat / 4 : Nat))
    (second : base64Value x = (a.toNat % 4 * 16 + b.toNat / 16 : Nat))
    (third : base64Value y = (b.toNat % 16 * 4 + c.toNat / 64 : Nat)) (fourth : base64Value z = (c.toNat % 64 : Nat))
    (rest dest : Octets) (room : dest.length + 4 < destSize) :
    base64DecodeFrom destSize (w :: x :: y :: z :: rest) 0 0 dest = base64DecodeFrom destSize rest 0 0 (dest ++ [a, b, c]) := by
  have := a.toNat_lt
  have := b.toNat_lt
  have := c.toNat_lt
  rw [base64DecodeFrom_code first (by omega), if_neg (by omega), base64DecodeFrom_code second (by omega),
    if_neg (by omega), base64DecodeFrom_code third (by omega), if_neg (by omega), base64DecodeFrom, if_neg (by omega),
    if_neg (by omega), fourth]
  have whole : (((0 * 64 + a.toNat / 4) * 64 + (a.toNat % 4 * 16 + b.toNat / 16)) * 64 +
      (b.toNat % 16 * 4 + c.toNat / 64)) * 64 + ((c.toNat % 64 : Nat) : Int).toNat =
      a.toNat * 65536 + b.toNat * 256 + c.toNat := by
    rw [Int.toNat_natCast]
    omega
  rw [if_neg (by omega), whole]
  have octets : [UInt8.ofNat ((a.toNat * 65536 + b.toNat * 256 + c.toNat) / 65536),
      UInt8.ofNat ((a.toNat * 65536 + b.toNat * 256 + c.toNat) / 256),
      UInt8.ofNat (a.toNat * 65536 + b.toNat * 256 + c.toNat)] = [a, b, c] := by
    simp only [List.cons.injEq, and_true]
    refine ⟨?_, ?_, ?_⟩ <;> apply UInt8.toNat_inj.mp <;> rw [UInt8.toNat_ofNat'] <;> omega
  rw [octets]

/-- The last quantum, if it is there. -/
theorem base64DecodeFrom_last {w x y z : UInt8} (a b c : UInt8) (first : base64Value w = (a.toNat / 4 : Nat))
    (second : base64Value x = (a.toNat % 4 * 16 + b.toNat / 16 : Nat))
    (third : base64Value y = (b.toNat % 16 * 4 + c.toNat / 64 : Nat)) (fourth : base64Value z = (c.toNat % 64 : Nat))
    (dest : Octets) :
    base64DecodeFrom destSize [w, x, y, z] 0 0 dest =
      dest ++ [a, b, c].take (3 * ((destSize - dest.length - 2) / 3)) := by
  by_cases room : dest.length + 4 < destSize
  · rw [base64DecodeFrom_quantum a b c first second third fourth [] dest room, List.take_of_length_le]
    · rfl
    · simp only [List.length_cons, List.length_nil]
      omega
  · have none : 3 * ((destSize - dest.length - 2) / 3) = 0 := by omega
    rw [base64DecodeFrom_full room, none]
    simp

/-- The quanta for which there is room are decoded. -/
theorem base64DecodeFrom_encode (inp : Octets) : ∀ dest : Octets,
    base64DecodeFrom destSize (base64EncodeFrom inp) 0 0 dest =
      dest ++ (inp ++ padding inp).take (3 * ((destSize - dest.length - 2) / 3)) := by
  have value (v : Nat) (small : v < 64) : base64Value (code v) = v := (code_value v small).1
  have octet (a : UInt8) : a.toNat < 256 := a.toNat_lt
  induction inp using base64EncodeFrom.induct with
  | case1 a b c rest ih =>
    intro dest
    have same : padding (a :: b :: c :: rest) = padding rest := by
      simp only [padding, List.length_cons]
      congr 2
      omega
    by_cases room : dest.length + 4 < destSize
    · have modulo : code c.toNat = code (c.toNat % 64) := by simp [code]
      have := octet a
      have := octet b
      have := octet c
      rw [base64EncodeFrom, modulo, base64DecodeFrom_quantum a b c (value _ (by omega)) (value _ (by omega)) (value _ (by omega))
        (value _ (by omega)) _ _ room, ih, same]
      have turns : 3 * ((destSize - dest.length - 2) / 3) = 3 * ((destSize - (dest ++ [a, b, c]).length - 2) / 3) + 3 := by
        simp only [List.length_append, List.length_cons, List.length_nil]
        omega
      rw [turns]
      simp
    · have none : 3 * ((destSize - dest.length - 2) / 3) = 0 := by omega
      rw [base64DecodeFrom_full room, none]
      simp
  | case2 a b =>
    intro dest
    have := octet a
    have := octet b
    have third : base64Value (code (b.toNat % 16 * 4)) = (b.toNat % 16 * 4 + (0 : UInt8).toNat / 64 : Nat) :=
      value _ (by omega)
    exact base64DecodeFrom_last a b 0 (value _ (by omega)) (value _ (by omega)) third pad_value.1 dest
  | case3 a =>
    intro dest
    have := octet a
    have second : base64Value (code (a.toNat % 4 * 16)) = (a.toNat % 4 * 16 + (0 : UInt8).toNat / 16 : Nat) :=
      value _ (by omega)
    exact base64DecodeFrom_last a 0 0 (value _ (by omega)) second pad_value.1 pad_value.1 dest
  | case4 =>
    intro dest
    simp [base64EncodeFrom, base64DecodeFrom, padding]

theorem length_base64EncodeFrom (inp : Octets) : (base64EncodeFrom inp).length = 4 * ((inp.length + 2) / 3) := by
  induction inp using base64EncodeFrom.induct with
  | case1 a b c rest ih =>
    simp only [base64EncodeFrom, List.length_cons, ih]
    omega
  | case2 a b => simp [base64EncodeFrom]
  | case3 a => simp [base64EncodeFrom]
  | case4 => rfl

/-- Text is encoded if there is room for it and its terminator. -/
theorem base64Encode_ok_iff {outlen : Nat} {encoded : Octets} :
    base64Encode inp outlen = .ok encoded ↔ encoded.length + 1 ≤ outlen ∧ base64EncodeFrom inp = encoded := by
  have length := length_base64EncodeFrom inp
  unfold base64Encode
  dsimp only
  split
  · refine ⟨(nomatch ·), ?_⟩
    rintro ⟨room, rfl⟩
    omega
  · constructor
    · intro encodes
      cases encodes
      exact ⟨by omega, rfl⟩
    · rintro ⟨-, rfl⟩
      rfl

/-- The manager decodes into as many octets as the text has: a quantum alone is lost, and more of them are not. -/
theorem base64Decode_encodeFrom (inp : Octets) :
    base64Decode (base64EncodeFrom inp) (base64EncodeFrom inp).length = if inp.length ≤ 3 then [] else inp ++ padding inp := by
  have padded : (inp ++ padding inp).length = 3 * ((inp.length + 2) / 3) := by
    rw [padding, List.length_append, List.length_replicate]
    omega
  rw [base64Decode, base64DecodeFrom_encode, length_base64EncodeFrom, List.nil_append, List.length_nil]
  split
  · have none : 3 * ((4 * ((inp.length + 2) / 3) - 0 - 2) / 3) = 0 := by omega
    rw [none, List.take_zero]
  · exact List.take_of_length_le (by omega)

end Base64

/-! ## Quoted-printable -/

/-- The loop of `quoted_printable_decode`, with what has been stored at `dest`. -/
def quotedPrintableDecodeFrom (destSize : Nat) : Octets → Octets → Option Octets
  | [], dest => some dest
  | c :: inp, dest =>
    if ¬ dest.length + 2 < destSize then some dest
    else if c = 61 then
      match inp with
      | [] => none
      | high :: inp =>
        if high = 10 then quotedPrintableDecodeFrom destSize inp dest
        else if charToHexdigit high = 0xff then none
        else match inp with
          | [] => none
          | low :: inp =>
            if charToHexdigit low = 0xff then none
            else quotedPrintableDecodeFrom destSize inp (dest ++ [charToHexdigit high <<< 4 + charToHexdigit low])
    else if c = 95 then quotedPrintableDecodeFrom destSize inp (dest ++ [32])
    else quotedPrintableDecodeFrom destSize inp (dest ++ [c])

/-- `quoted_printable_decode`: what it stores in front of the terminator, or `-EINVAL`. -/
def quotedPrintableDecode (src : Octets) (destSize : Nat) : Option Octets := quotedPrintableDecodeFrom destSize src []

/-- The text of these octets: there can be soft line breaks anywhere, and a blank can be an underscore. -/
inductive Spelled : Octets → Octets → Prop
  | nil : Spelled [] []
  | softBreak {text octets : Octets} : Spelled text octets → Spelled (61 :: 10 :: text) octets
  | escape {text octets : Octets} {high low : UInt8} : charToHexdigit high ≠ 0xff → charToHexdigit low ≠ 0xff →
      Spelled text octets → Spelled (61 :: high :: low :: text) ((charToHexdigit high <<< 4 + charToHexdigit low) :: octets)
  | blank {text octets : Octets} : Spelled text octets → Spelled (95 :: text) (32 :: octets)
  | plain {text octets : Octets} {c : UInt8} : c ≠ 61 → c ≠ 95 → Spelled text octets → Spelled (c :: text) (c :: octets)

section QuotedPrintable
variable {destSize : Nat} {text rest dest out octets : Octets}

/-- Without room nothing more is read. -/
theorem quotedPrintableDecodeFrom_full (full : ¬ dest.length + 2 < destSize) (text : Octets) :
    quotedPrintableDecodeFrom destSize text dest = some dest := by
  rw [quotedPrintableDecodeFrom.eq_def]
  cases text with
  | nil => rfl
  | cons c text => exact if_pos full

theorem quotedPrintableDecodeFrom_softBreak (room : dest.length + 2 < destSize) (text : Octets) :
    quotedPrintableDecodeFrom destSize (61 :: 10 :: text) dest = quotedPrintableDecodeFrom destSize text dest := by
  rw [quotedPrintableDecodeFrom.eq_def]
  simp [room]

theorem quotedPrintableDecodeFrom_escape {high low : UInt8} (left : charToHexdigit high ≠ 0xff)
    (right : charToHexdigit low ≠ 0xff) (room : dest.length + 2 < destSize) (text : Octets) :
    quotedPrintableDecodeFrom destSize (61 :: high :: low :: text) dest =
      quotedPrintableDecodeFrom destSize text (dest ++ [charToHexdigit high <<< 4 + charToHexdigit low]) := by
  have line : high ≠ 10 := by
    rintro rfl
    exact left rfl
  rw [quotedPrintableDecodeFrom.eq_def]
  simp [room, line, left, right]

theorem quotedPrintableDecodeFrom_character {c : UInt8} (other : c ≠ 61) (room : dest.length + 2 < destSize) (text : Octets) :
    quotedPrintableDecodeFrom destSize (c :: text) dest =
      quotedPrintableDecodeFrom destSize text (dest ++ [if c = 95 then 32 else c]) := by
  rw [quotedPrintableDecodeFrom.eq_def]
  by_cases blank : c = 95 <;> simp [room, other, blank]

/-- A spelled text is decoded, and what follows it is read only where there is room for more. -/
theorem quotedPrintableDecodeFrom_spelled (spelled : Spelled text octets) :
    ∀ dest : Octets, dest.length + octets.length ≤ destSize - 2 →
      (rest ≠ [] → dest.length + octets.length = destSize - 2) →
      quotedPrintableDecodeFrom destSize (text ++ rest) dest = some (dest ++ octets) := by
  have appended (dest octets : Octets) (x : UInt8) : (dest ++ [x]).length + octets.length = dest.length + (x :: octets).length := by
    simp only [List.length_append, List.length_cons, List.length_nil]
    omega
  induction spelled with
  | nil =>
    intro dest _ filled
    by_cases none : rest = []
    · rw [none, List.append_nil, List.append_nil, quotedPrintableDecodeFrom]
    · have full := filled none
      rw [List.length_nil] at full
      rw [List.append_nil]
      exact quotedPrintableDecodeFrom_full (by omega) rest
  | @softBreak text octets _ ih =>
    intro dest fits filled
    by_cases room : dest.length + 2 < destSize
    · exact (quotedPrintableDecodeFrom_softBreak room (text ++ rest)).trans (ih dest fits filled)
    · have none : octets = [] := List.eq_nil_of_length_eq_zero (by omega)
      rw [none, List.append_nil]
      exact quotedPrintableDecodeFrom_full room _
  | @escape text octets high low left right _ ih =>
    intro dest fits filled
    have room : dest.length + 2 < destSize := by
      rw [List.length_cons] at fits
      omega
    refine (quotedPrintableDecodeFrom_escape left right room (text ++ rest)).trans ?_
    rw [ih _ ((appended dest octets _).trans_le fits) fun more => (appended dest octets _).trans (filled more)]
    simp
  | @blank text octets _ ih =>
    intro dest fits filled
    have room : dest.length + 2 < destSize := by
      rw [List.length_cons] at fits
      omega
    refine (quotedPrintableDecodeFrom_character (by decide) room (text ++ rest)).trans ?_
    rw [if_pos rfl, ih _ ((appended dest octets _).trans_le fits) fun more => (appended dest octets _).trans (filled more)]
    simp
  | @plain text octets c escape blank _ ih =>
    intro dest fits filled
    have room : dest.length + 2 < destSize := by
      rw [List.length_cons] at fits
      omega
    refine (quotedPrintableDecodeFrom_character escape room (text ++ rest)).trans ?_
    rw [if_neg blank, ih _ ((appended dest octets _).trans_le fits) fun more => (appended dest octets _).trans (filled more)]
    simp

/-- What the loop has read of a text, and stored behind what was there, when it ends. -/
def Reads (destSize : Nat) (text dest out : Octets) : Prop :=
  ∃ front rest octets, text = front ++ rest ∧ out = dest ++ octets ∧ Spelled front octets ∧
    out.length ≤ destSize - 2 ∧ (rest ≠ [] → out.length = destSize - 2)

theorem Reads.next (spelling : Octets) {x : UInt8} (reads : Reads destSize text (dest ++ [x]) out)
    (spelled : ∀ front octets, Spelled front octets → Spelled (spelling ++ front) (x :: octets)) :
    Reads destSize (spelling ++ text) dest out := by
  obtain ⟨front, rest, octets, rfl, rfl, tail, fits, filled⟩ := reads
  refine ⟨spelling ++ front, rest, x :: octets, (List.append_assoc ..).symm, ?_, spelled front octets tail, fits, filled⟩
  rw [List.append_assoc, List.singleton_append]

/-- What has been read, when the loop ends, is a spelling of what it has stored. -/
theorem reads_of_quotedPrintableDecodeFrom (text dest : Octets) :
    quotedPrintableDecodeFrom destSize text dest = some out → dest.length ≤ destSize - 2 →
      Reads destSize text dest out := by
  induction text, dest using quotedPrintableDecodeFrom.induct destSize with
  | case1 dest =>
    intro decodes fits
    rw [quotedPrintableDecodeFrom] at decodes
    cases decodes
    exact ⟨[], [], [], rfl, (List.append_nil _).symm, .nil, fits, fun more => absurd rfl more⟩
  | case2 c inp dest full =>
    intro decodes fits
    rw [quotedPrintableDecodeFrom_full full] at decodes
    cases decodes
    exact ⟨[], c :: inp, [], rfl, (List.append_nil _).symm, .nil, fits, fun _ => by omega⟩
  | case3 dest room =>
    intro decodes
    rw [quotedPrintableDecodeFrom.eq_def] at decodes
    simp [not_not.mp room] at decodes
  | case4 dest room inp ih =>
    intro decodes fits
    rw [quotedPrintableDecodeFrom_softBreak (not_not.mp room)] at decodes
    obtain ⟨front, rest, octets, rfl, rfl, spelled, inside, filled⟩ := ih decodes fits
    exact ⟨61 :: 10 :: front, rest, octets, rfl, rfl, .softBreak spelled, inside, filled⟩
  | case5 dest room high inp line wrong =>
    intro decodes
    rw [quotedPrintableDecodeFrom.eq_def] at decodes
    simp [not_not.mp room, line, wrong] at decodes
  | case6 dest room high line left =>
    intro decodes
    rw [quotedPrintableDecodeFrom.eq_def] at decodes
    simp [not_not.mp room, line, left] at decodes
  | case7 dest room high line left low inp wrong =>
    intro decodes
    rw [quotedPrintableDecodeFrom.eq_def] at decodes
    simp [not_not.mp room, line, left, wrong] at decodes
  | case8 dest room high _ left low inp right ih =>
    intro decodes fits
    rw [quotedPrintableDecodeFrom_escape left right (not_not.mp room)] at decodes
    refine (ih decodes ?_).next [61, high, low] fun _ _ => .escape left right
    simp only [List.length_append, List.length_singleton]
    omega
  | case9 inp dest room other ih =>
    intro decodes fits
    rw [quotedPrintableDecodeFrom_character other (not_not.mp room), if_pos rfl] at decodes
    refine (ih decodes ?_).next [95] fun _ _ => .blank
    simp only [List.length_append, List.length_singleton]
    omega
  | case10 c inp dest room escape blank ih =>
    intro decodes fits
    rw [quotedPrintableDecodeFrom_character escape (not_not.mp room), if_neg blank] at decodes
    refine (ih decodes ?_).next [c] fun _ _ => .plain escape blank
    simp only [List.length_append, List.length_singleton]
    omega

end QuotedPrintable

/-- What has been encoded is decoded again, whatever else stands between its characters, as far as
there is room for whole quanta, and with zeros for the padding. -/
theorem base64_round_trip {inp text encoded : Octets} {outlen : Nat} (encodes : base64Encode inp outlen = .ok encoded)
    (between : text.filter isBase64 = encoded) (destSize : Nat) :
    base64Decode text destSize = (inp ++ padding inp).take (3 * ((destSize - 2) / 3)) := by
  obtain ⟨-, rfl⟩ := base64Encode_ok_iff.mp encodes
  unfold base64Decode
  rw [← base64DecodeFrom_filter text, between, base64DecodeFrom_encode]
  rfl

/-- `Hello` on two lines. -/
theorem base64_on_two_lines : base64Decode [83, 71, 86, 115, 10, 98, 71, 56, 61, 10] 10 = [72, 101, 108, 108, 111, 0] := by
  have encodes : base64Encode [72, 101, 108, 108, 111] 9 = .ok [83, 71, 86, 115, 98, 71, 56, 61] := rfl
  exact base64_round_trip encodes (by decide) 10

/-- A text is decoded exactly when it is spelled right, as far as there is room: then what it is a
spelling of is what has been stored. -/
theorem quoted_printable_is_decoded_iff (src out : Octets) (destSize : Nat) :
    quotedPrintableDecode src destSize = some out ↔
      ∃ front rest, src = front ++ rest ∧ Spelled front out ∧ out.length ≤ destSize - 2 ∧
        (rest ≠ [] → out.length = destSize - 2) := by
  constructor
  · intro decodes
    obtain ⟨front, rest, octets, same, rfl, spelled, fits, filled⟩ :=
      reads_of_quotedPrintableDecodeFrom src [] decodes (Nat.zero_le _)
    exact ⟨front, rest, same, spelled, fits, filled⟩
  · rintro ⟨front, rest, rfl, spelled, fits, filled⟩
    exact quotedPrintableDecodeFrom_spelled spelled [] ((Nat.zero_add _).trans_le fits)
      fun more => (Nat.zero_add _).trans (filled more)

-- `a=3D_b` on two lines is `a= b`, and half an octet is no text.
example : quotedPrintableDecode [97, 61, 51, 68, 61, 10, 95, 98] 10 = some [97, 61, 32, 98] ∧
    quotedPrintableDecode [97, 61, 51] 10 = none := by decide +kernel

end Vstuff.Vgsm
