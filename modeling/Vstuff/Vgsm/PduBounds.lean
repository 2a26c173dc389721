import Vstuff.Vgsm.Pdu

/-! How far the decoders of PDUs look. Only the length of the service centre is checked against the
PDU; whatever comes after it has to be there. -/
namespace Vstuff.Vgsm.Pdu
open Lapd (Octets)
set_option linter.all false

/-- A decoder that keeps to the memory it has: it returns nothing if the PDU is not complete. -/
def Careful {α : Type} (result : Except Stop α) (complete : Prop) : Prop :=
  match result with
  | .ok _ => complete
  | .error .refused => True
  | .error .undefined => False

/-- An octet of a PDU that goes on with zeros. -/
def octet (pdu : Octets) (i : Nat) : Nat := (pdu.getD i 0).toNat

def nibble (pdu : Octets) (pos i : Nat) : Nat :=
  if i % 2 ≠ 0 then octet pdu (pos + i / 2) / 16 else octet pdu (pos + i / 2) % 16

/-- The digits among some nibbles, as far as they are in the PDU. -/
def digitsShown (pdu : Octets) (pos first count : Nat) : Nat :=
  (List.range' first count).countP fun i => pos + i / 2 < pdu.length && nibble pdu pos i ≠ 0xf

/-- An address has more digits than there is room for. -/
def TooManyDigits (pdu : Octets) (pos nibbles : Nat) : Prop := 31 < digitsShown pdu pos 0 nibbles

section Rules
variable {α β : Type} {pdu : Octets} {pos : Nat} {complete Q : Prop}

theorem careful_octet {f : UInt8 → Except Stop β} :
    Careful (octetAt pdu pos >>= f) complete ↔ pos < pdu.length ∧ Careful (f (pdu.getD pos 0)) complete := by
  unfold octetAt
  by_cases inside : pos < pdu.length
  · rw [List.getD_eq_getElem?_getD, List.getElem?_eq_getElem inside]
    exact (and_iff_right inside).symm
  · rw [List.getElem?_eq_none (Nat.not_lt.mp inside)]
    exact ⟨False.elim, fun held => inside held.1⟩

theorem digitsShown_succ (first count : Nat) : digitsShown pdu pos first (count + 1) =
    digitsShown pdu pos (first + 1) count +
      if pos + first / 2 < pdu.length ∧ nibble pdu pos first ≠ 0xf then 1 else 0 := by
  unfold digitsShown
  rw [List.range'_succ, List.countP_cons]
  simp

/-- There are no digits behind the PDU. -/
theorem digitsShown_outside {first : Nat} (outside : pdu.length ≤ pos + first / 2) (count : Nat) :
    digitsShown pdu pos first count = 0 := by
  induction count generalizing first with
  | zero => rfl
  | succ count ih =>
    rw [digitsShown_succ, ih (by omega), if_neg (by omega)]

/-- Digits are read up to the first for which there is no room. -/
theorem careful_digits {f : Octets → Except Stop β} (rest : ∀ digits, Careful (f digits) complete ↔ Q) {left i : Nat}
    {str : Octets} (room : str.length ≤ 31) :
    Careful (bcdToText pdu pos digitsSize left i str >>= f) complete ↔
      31 < str.length + digitsShown pdu pos i left ∨ (left = 0 ∨ pos + (i + left + 1) / 2 ≤ pdu.length) ∧ Q := by
  induction left generalizing i str with
  | zero =>
    have none : ¬31 < str.length + digitsShown pdu pos i 0 := by
      unfold digitsShown
      simpa using room
    rw [bcdToText]
    exact (rest str).trans ⟨fun held => .inr ⟨.inl rfl, held⟩, fun held => (held.resolve_left none).2⟩
  | succ left ih =>
    rw [bcdToText, bind_assoc, careful_octet]
    by_cases inside : pos + i / 2 < pdu.length
    · have reaches : (left + 1 = 0 ∨ pos + (i + (left + 1) + 1) / 2 ≤ pdu.length) ↔
          (left = 0 ∨ pos + (i + 1 + left + 1) / 2 ≤ pdu.length) := by omega
      have shown : (if i % 2 ≠ 0 then (pdu.getD (pos + i / 2) 0).toNat / 16 else (pdu.getD (pos + i / 2) 0).toNat % 16) =
          nibble pdu pos i := rfl
      rw [and_iff_right inside, digitsShown_succ, reaches]
      dsimp only
      rw [shown]
      by_cases digit : nibble pdu pos i ≠ 0xf
      · have counted : (if pos + i / 2 < pdu.length ∧ nibble pdu pos i ≠ 0xf then 1 else 0) = 1 :=
          if_pos ⟨inside, digit⟩
        rw [counted, if_pos digit]
        by_cases full : str.length ≥ digitsSize - 1
        · rw [if_pos full]
          have most : 31 ≤ str.length := full
          exact ⟨fun _ => .inl (by omega), fun _ => trivial⟩
        · have longer (digit : UInt8) : (str ++ [digit]).length = str.length + 1 := List.length_append
          have short : str.length < 31 := Nat.not_le.mp full
          rw [if_neg full]
          refine (ih (by rw [longer]; exact short)).trans ?_
          rw [longer, Nat.add_assoc, Nat.add_comm 1]
      · rw [if_neg digit, if_neg fun held => digit held.2, Nat.add_zero]
        exact ih room
    · have none := digitsShown_outside (Nat.not_lt.mp inside) (left + 1)
      rw [none]
      constructor
      · exact fun held => absurd held.1 inside
      · intro held
        omega

theorem careful_number {f : Number → Except Stop β} (rest : ∀ number, Careful (f number) complete ↔ Q) {nibbles : Nat} :
    Careful (number pdu pos nibbles >>= f) complete ↔ pos < pdu.length ∧
      (TooManyDigits pdu (pos + 1) nibbles ∨ pos + 1 + (nibbles + 1) / 2 ≤ pdu.length ∧ Q) := by
  unfold number TooManyDigits
  rw [bind_assoc, careful_octet]
  apply and_congr_right
  intro inside
  rw [bind_assoc]
  have digits : Careful (bcdToText pdu (pos + 1) digitsSize nibbles 0 [] >>= fun digits =>
      f { digits, np := (pdu.getD pos 0).toNat % 16, ton := (pdu.getD pos 0).toNat / 16 % 8 }) complete ↔
        31 < ([] : Octets).length + digitsShown pdu (pos + 1) 0 nibbles ∨
          (nibbles = 0 ∨ pos + 1 + (0 + nibbles + 1) / 2 ≤ pdu.length) ∧ Q :=
    careful_digits (fun _ => rest _) (Nat.zero_le _)
  refine digits.trans ?_
  have empty : nibbles = 0 ∨ pos + 1 + (0 + nibbles + 1) / 2 ≤ pdu.length ↔ pos + 1 + (nibbles + 1) / 2 ≤ pdu.length := by
    omega
  rw [empty, List.length_nil, Nat.zero_add]

/-- Where an address ends. -/
def addressEnd (pdu : Octets) (pos : Nat) : Nat := pos + 2 + (octet pdu pos + 1) / 2

/-- An address: its length, its type and its digits. -/
theorem careful_address {f : Number × Nat → Except Stop β}
    (rest : ∀ number, Careful (f (number, addressEnd pdu pos)) complete ↔ Q) (further : Q → addressEnd pdu pos ≤ pdu.length) :
    Careful (address pdu pos >>= f) complete ↔ pos + 1 < pdu.length ∧
      (TooManyDigits pdu (pos + 2) (octet pdu pos) ∨ Q) := by
  unfold address
  rw [bind_assoc, careful_octet, bind_assoc]
  have number : Careful (number pdu (pos + 1) (octet pdu pos) >>= fun number => f (number, addressEnd pdu pos)) complete ↔
      pos + 1 < pdu.length ∧ (TooManyDigits pdu (pos + 2) (octet pdu pos) ∨ addressEnd pdu pos ≤ pdu.length ∧ Q) :=
    careful_number rest
  refine (and_congr_right fun _ => number).trans ?_
  rw [and_iff_right_of_imp further, ← and_assoc]
  refine and_congr_left fun _ => ?_
  omega

/-- The date of a timestamp. -/
def tmAt (pdu : Octets) (pos : Nat) : Tm where
  year := nibblesToDecimal (pdu.getD pos 0) + 100
  mon := nibblesToDecimal (pdu.getD (pos + 1) 0) - 1
  mday := nibblesToDecimal (pdu.getD (pos + 2) 0)
  hour := nibblesToDecimal (pdu.getD (pos + 3) 0)
  min := nibblesToDecimal (pdu.getD (pos + 4) 0)
  sec := nibblesToDecimal (pdu.getD (pos + 5) 0)

theorem careful_timestamp {mktime : Tm → Int} {f : Int × Int → Except Stop β}
    (rest : ∀ time, Careful (f time) complete ↔ Q) (further : Q → pos + 6 < pdu.length) :
    Careful (timestamp mktime pdu pos >>= f) complete ↔ pos + 5 < pdu.length ∧ (mktime (tmAt pdu pos) = -1 ∨ Q) := by
  have date : (tmAt pdu pos) = {
    year := nibblesToDecimal (pdu.getD pos 0) + 100
    mon := nibblesToDecimal (pdu.getD (pos + 1) 0) - 1
    mday := nibblesToDecimal (pdu.getD (pos + 2) 0)
    hour := nibblesToDecimal (pdu.getD (pos + 3) 0)
    min := nibblesToDecimal (pdu.getD (pos + 4) 0)
    sec := nibblesToDecimal (pdu.getD (pos + 5) 0) } := rfl
  unfold timestamp
  simp only [bind_assoc, careful_octet, ← date]
  by_cases unknown : mktime (tmAt pdu pos) = -1
  · rw [if_pos unknown]
    constructor
    · rintro ⟨-, -, -, -, -, inside, -⟩
      exact ⟨inside, .inl unknown⟩
    · rintro ⟨inside, -⟩
      refine ⟨?_, ?_, ?_, ?_, ?_, inside, trivial⟩ <;> omega
  · rw [if_neg unknown, bind_assoc, careful_octet, or_iff_right unknown]
    constructor
    · rintro ⟨-, -, -, -, -, inside, -, held⟩
      exact ⟨inside, (rest _).mp held⟩
    · rintro ⟨inside, held⟩
      refine ⟨?_, ?_, ?_, ?_, ?_, inside, further held, (rest _).mpr held⟩ <;> omega

/-- The length of the service centre's address is refused if it cannot be right. -/
def CentreRefused (pdu : Octets) : Prop :=
  octet pdu 0 > pdu.length - 1 ∨ octet pdu 0 > digitsSize - 1 ∨
    1 < pdu.length ∧ TooManyDigits pdu 2 ((octet pdu 0 - 1) * 2)

/-- Where the address of the service centre ends. -/
def centreEnd (pdu : Octets) : Nat := octet pdu 0 + 1

theorem careful_serviceCentre {f : Number × Nat → Except Stop β}
    (rest : ∀ number, Careful (f (number, centreEnd pdu)) complete ↔ Q) (further : Q → centreEnd pdu < pdu.length) :
    Careful (serviceCentre pdu >>= f) complete ↔ 0 < pdu.length ∧ (CentreRefused pdu ∨ Q) := by
  unfold serviceCentre CentreRefused
  rw [bind_assoc, careful_octet]
  apply and_congr_right
  intro begun
  have shown : (pdu.getD 0 0).toNat = octet pdu 0 := rfl
  rw [shown]
  by_cases long : octet pdu 0 > pdu.length - 1
  · rw [if_pos long]
    exact ⟨fun _ => .inl (.inl long), fun _ => trivial⟩
  rw [if_neg long]
  by_cases big : octet pdu 0 > digitsSize - 1
  · rw [if_pos big]
    exact ⟨fun _ => .inl (.inr (.inl big)), fun _ => trivial⟩
  rw [if_neg big, bind_assoc]
  have number : Careful (number pdu 1 ((octet pdu 0 - 1) * 2) >>= fun number => f (number, centreEnd pdu)) complete ↔
      1 < pdu.length ∧ (TooManyDigits pdu 2 ((octet pdu 0 - 1) * 2) ∨
        1 + 1 + ((octet pdu 0 - 1) * 2 + 1) / 2 ≤ pdu.length ∧ Q) :=
    careful_number rest
  refine number.trans ?_
  rw [or_iff_right long, or_iff_right big]
  constructor
  · rintro ⟨inside, many | ⟨-, held⟩⟩
    · exact .inl ⟨inside, many⟩
    · exact .inr held
  · rintro (⟨inside, many⟩ | held)
    · exact ⟨inside, .inl many⟩
    · have inside : 1 < pdu.length := by
        have there := further held
        unfold centreEnd at there
        omega
      exact ⟨inside, .inr ⟨by omega, held⟩⟩

/-! ## Texts -/

/-- What is read item by item is read if every item is there. -/
theorem careful_mapM {γ : Type} {g : γ → Except Stop α} {f : List α → Except Stop β} {l : List γ} (inside : γ → Prop)
    (each : ∀ c ∈ l, (inside c ∧ ∃ a, g c = .ok a) ∨ (¬inside c ∧ g c = .error .undefined))
    (rest : ∀ as, Careful (f as) complete ↔ Q) :
    Careful (l.mapM g >>= f) complete ↔ (∀ c ∈ l, inside c) ∧ Q := by
  induction l generalizing f with
  | nil => exact (rest []).trans ⟨fun held => ⟨fun _ member => absurd member List.not_mem_nil, held⟩, And.right⟩
  | cons c l ih =>
    have tail : ∀ c ∈ l, (inside c ∧ ∃ a, g c = .ok a) ∨ (¬inside c ∧ g c = .error .undefined) :=
      fun c member => each c (List.mem_cons_of_mem _ member)
    rw [List.mapM_cons, List.forall_mem_cons]
    rcases each c List.mem_cons_self with ⟨here, a, read⟩ | ⟨outside, read⟩
    · rw [read, and_iff_right here]
      change Careful ((l.mapM g >>= fun as => pure (a :: as)) >>= f) complete ↔ _
      rw [bind_assoc]
      exact ih tail fun as => rest (a :: as)
    · rw [read]
      exact ⟨False.elim, fun held => outside held.1.1⟩

/-- A septet is read if the octets it lies in are there. -/
theorem readSeptet_cases (buf : Octets) (septet : Nat) :
    (7 * (septet + 1) ≤ 8 * buf.length ∧ ∃ c, readSeptet buf septet = .ok c) ∨
      (¬7 * (septet + 1) ≤ 8 * buf.length ∧ readSeptet buf septet = .error .undefined) := by
  by_cases inside : 7 * (septet + 1) ≤ 8 * buf.length
  · obtain ⟨c, read, -⟩ := readSeptet_bit inside
    exact .inl ⟨inside, c, read⟩
  · refine .inr ⟨inside, ?_⟩
    have beyond {pos : Nat} (outside : buf.length ≤ pos) : octetAt buf pos = .error .undefined := by
      unfold octetAt
      rw [List.getElem?_eq_none outside]
    unfold readSeptet
    dsimp only
    by_cases first : (septet + 1) * 7 / 8 = 0
    · have reaches : 8 - septet % 8 > 1 := by omega
      rw [if_neg (not_not.mpr first), if_pos reaches, beyond (by omega)]
      rfl
    · rw [if_pos first]
      by_cases low : buf.length ≤ (septet + 1) * 7 / 8 - 1
      · rw [beyond low]
        rfl
      · have reaches : 8 - septet % 8 > 1 := by
          by_contra full
          have whole : septet = 8 * (septet / 8) + 7 := by omega
          omega
        have there : octetAt buf ((septet + 1) * 7 / 8 - 1) = .ok (buf.get ⟨(septet + 1) * 7 / 8 - 1, Nat.not_le.mp low⟩) := by
          unfold octetAt
          rw [List.getElem?_eq_getElem (Nat.not_le.mp low)]
          rfl
        rw [there, if_pos reaches, beyond (by omega)]
        rfl

theorem careful_septets {f : List Nat → Except Stop β} (rest : ∀ text, Careful (f text) complete ↔ Q) {buf : Octets}
    {septets offset : Nat} :
    Careful (sevenBitToWc buf septets offset (septets + 1) >>= f) complete ↔
      (septets = 0 ∨ 7 * (offset + septets) ≤ 8 * buf.length) ∧ Q := by
  unfold sevenBitToWc
  refine (careful_mapM (fun i => 7 * (i + offset + 1) ≤ 8 * buf.length) ?_ rest).trans ?_
  · intro i _
    rcases readSeptet_cases buf (i + offset) with ⟨inside, c, read⟩ | ⟨outside, read⟩
    · exact .inl ⟨inside, gsmToWc c, by rw [read]; rfl⟩
    · exact .inr ⟨outside, by rw [read]; rfl⟩
  · refine and_congr_left fun _ => ?_
    constructor
    · intro all
      by_cases none : septets = 0
      · exact .inl none
      · have last := all (septets - 1) (List.mem_range.mpr (by omega))
        omega
    · intro held i member
      have here := List.mem_range.mp member
      omega

theorem careful_ucs2 {f : List Nat → Except Stop β} (rest : ∀ text, Careful (f text) complete ↔ Q) {count : Nat} :
    Careful (ucs2Text pdu pos count >>= f) complete ↔ (count = 0 ∨ pos + 2 * count ≤ pdu.length) ∧ Q := by
  unfold ucs2Text
  refine (careful_mapM (fun i => pos + i * 2 + 1 < pdu.length) ?_ rest).trans ?_
  · intro i _
    unfold octetAt
    by_cases inside : pos + i * 2 + 1 < pdu.length
    · rw [List.getElem?_eq_getElem (by omega), List.getElem?_eq_getElem inside]
      exact .inl ⟨inside, _, rfl⟩
    · rw [List.getElem?_eq_none (Nat.not_lt.mp inside)]
      refine .inr ⟨inside, ?_⟩
      cases pdu[pos + i * 2]? <;> rfl
  · refine and_congr_left fun _ => ?_
    constructor
    · intro all
      by_cases none : count = 0
      · exact .inl none
      · have last := all (count - 1) (List.mem_range.mpr (by omega))
        omega
    · intro held i member
      have here := List.mem_range.mp member
      omega

end Rules

/-! ## User data -/

/-- What a data coding scheme says of the user data. -/
inductive TextKind where
  | refused
  | septets
  | ucs2
  | none
  deriving DecidableEq, Repr

def textKind (dcs : UInt8) : TextKind :=
  if dcs.toNat / 16 ≤ 3 then
    if flag dcs 5 then .refused
    else if dcs.toNat / 4 % 4 = 0 then .septets
    else if dcs.toNat / 4 % 4 = 2 then .ucs2
    else .none
  else if dcs.toNat / 16 = 0xc ∨ dcs.toNat / 16 = 0xe then .none
  else if dcs.toNat / 16 = 0xf then if flag dcs 2 then .none else .septets
  else .refused

/-- The length of the user data counts septets. Of the groups that store no text it is the first that
has the default alphabet. -/
def inSeptets (dcs : UInt8) : Bool := textKind dcs = .septets || dcs.toNat / 16 = 0xc

/-- The octets that user data announces. -/
def dataOctets (dcs : UInt8) (udl : Nat) : Nat := if inSeptets dcs then (7 * udl + 7) / 8 else udl

/-- The header is no longer than the user data it is a part of. -/
def RoomForText (dcs : UInt8) (udl udhl taken : Nat) : Prop :=
  match textKind dcs with
  | .septets => taken ≤ udl
  | .ucs2 => udhl ≤ udl + 1
  | .none | .refused => True

/-- The identifier and the length of every element of a header are in the PDU, and of a
concatenation also what is made use of. -/
def HeaderReadable (pdu : Octets) (stop udhPos : Nat) : Prop :=
  if udhPos < stop then
    udhPos + 1 < pdu.length ∧
      (pdu.getD udhPos 0 = concatenatedSms ∧ pdu.getD (udhPos + 1) 0 ≥ 3 → udhPos + 4 < pdu.length) ∧
      HeaderReadable pdu stop (udhPos + 2 + octet pdu (udhPos + 1))
  else True
termination_by stop - udhPos

/-- Where the last element of a header ends. -/
def headerEnd (pdu : Octets) (stop udhPos : Nat) : Nat :=
  if udhPos < stop then headerEnd pdu stop (udhPos + 2 + octet pdu (udhPos + 1)) else udhPos
termination_by stop - udhPos

/-- The length of the header, where there is one. -/
def headerLength (pdu : Octets) (headerIndicator : Bool) (udlPos : Nat) : Nat :=
  if headerIndicator then octet pdu (udlPos + 1) else 0

/-- The septets that the header takes with its length. -/
def headerSeptets (pdu : Octets) (headerIndicator : Bool) (udlPos : Nat) : Nat :=
  if headerIndicator then octetsToSeptets (octet pdu (udlPos + 1) + 1) else 0

/-- The user data and its header are in the PDU as long as they announce themselves. -/
structure UserDataComplete (pdu : Octets) (headerIndicator : Bool) (dcsPos udlPos : Nat) : Prop where
  data : udlPos + 1 + dataOctets (pdu.getD dcsPos 0) (octet pdu udlPos) ≤ pdu.length
  header : headerIndicator = true → udlPos + 2 + octet pdu (udlPos + 1) ≤ pdu.length
  elements : headerIndicator = true →
    headerEnd pdu (udlPos + 1 + octet pdu (udlPos + 1)) (udlPos + 2) ≤ pdu.length

section UserData
variable {β : Type} {pdu : Octets} {pos : Nat} {complete Q : Prop} {dcs : UInt8}

theorem careful_septetText {f : List Nat → Except Stop β} (rest : ∀ text, Careful (f text) complete ↔ complete)
    {udl taken : Nat} (all : complete → pos + (7 * udl + 7) / 8 ≤ pdu.length) :
    Careful (septetText pdu pos udl taken >>= f) complete ↔ taken ≤ udl ∧ complete := by
  unfold septetText
  by_cases negative : udl < taken
  · rw [if_pos negative]
    exact ⟨False.elim, fun held => absurd held.1 (Nat.not_le.mpr negative)⟩
  · rw [if_neg negative, careful_septets rest, List.length_drop]
    constructor
    · exact fun held => ⟨Nat.not_lt.mp negative, held.2⟩
    · intro held
      have there := all held.2
      exact ⟨by omega, held.2⟩

/-- What is told about a text besides the text. -/
def contentOf (dcs : UInt8) (text : Option (List Nat)) : Content where
  codingGroup := dcs.toNat / 16
  compressed := false
  messageClass := if dcs.toNat / 16 ≤ 3 ∧ flag dcs 4 then dcs.toNat % 4 else -1
  alphabet := if dcs.toNat / 16 ≤ 3 then dcs.toNat / 4 % 4 else 0
  text := text

/-- What the data coding scheme has to do with the user data. -/
theorem content_eq (pdu : Octets) (pos : Nat) (dcs : UInt8) (udl udhl taken : Nat) :
    content pdu pos dcs udl udhl taken =
      match textKind dcs with
      | .refused => .error .refused
      | .septets => septetText pdu pos udl taken >>= fun text => pure (contentOf dcs (some text))
      | .ucs2 =>
        if udl + 1 < udhl then .error .undefined
        else ucs2Text pdu pos ((udl - udhl) / 2) >>= fun text => pure (contentOf dcs (some text))
      | .none => pure (contentOf dcs none) := by
  unfold content textKind contentOf
  dsimp only
  by_cases general : dcs.toNat / 16 ≤ 3
  · simp only [general, true_and]
    split_ifs <;> rfl
  · simp only [general, false_and, if_false]
    split_ifs <;> rfl

theorem dataOctets_septets (kind : textKind dcs = .septets) (udl : Nat) : dataOctets dcs udl = (7 * udl + 7) / 8 := by
  simp [dataOctets, inSeptets, kind]

theorem dataOctets_ucs2 (kind : textKind dcs = .ucs2) (udl : Nat) : dataOctets dcs udl = udl := by
  have general : dcs.toNat / 16 ≠ 0xc := by
    intro group
    simp [textKind, group] at kind
  simp [dataOctets, inSeptets, kind, general]

/-- The text is inside complete user data; nothing else of it is looked at. -/
theorem careful_content {f : Content → Except Stop β} (rest : ∀ content, Careful (f content) complete ↔ complete)
    {udl udhl taken : Nat} (all : complete → pos + dataOctets dcs udl ≤ pdu.length) :
    Careful (content pdu pos dcs udl udhl taken >>= f) complete ↔
      textKind dcs = .refused ∨ RoomForText dcs udl udhl taken ∧ complete := by
  rw [content_eq, RoomForText]
  cases kind : textKind dcs with
  | refused => exact ⟨fun _ => .inl rfl, fun _ => trivial⟩
  | septets =>
    rw [dataOctets_septets kind] at all
    rw [or_iff_right nofun]
    dsimp only
    rw [bind_assoc]
    exact careful_septetText (fun text => rest (contentOf dcs (some text))) all
  | ucs2 =>
    rw [dataOctets_ucs2 kind] at all
    rw [or_iff_right nofun]
    dsimp only
    by_cases negative : udl + 1 < udhl
    · rw [if_pos negative]
      exact ⟨False.elim, fun held => absurd held.1 (Nat.not_le.mpr negative)⟩
    · rw [if_neg negative, bind_assoc]
      refine (careful_ucs2 fun text => rest (contentOf dcs (some text))).trans ?_
      constructor
      · exact fun held => ⟨Nat.not_lt.mp negative, held.2⟩
      · intro held
        have there := all held.2
        exact ⟨by omega, held.2⟩
  | none =>
    rw [or_iff_right nofun, true_and]
    exact rest (contentOf dcs none)

/-- The elements of a header are read if they are there. -/
theorem careful_headerElements {f : Concatenation → Except Stop β} (rest : ∀ concatenation, Careful (f concatenation) complete ↔ Q)
    (stop udhPos : Nat) (concatenation : Concatenation) :
    Careful (headerElements pdu stop udhPos concatenation >>= f) complete ↔ HeaderReadable pdu stop udhPos ∧ Q := by
  induction udhPos using HeaderReadable.induct pdu stop generalizing concatenation with
  | case1 udhPos more ih =>
    rw [headerElements, HeaderReadable, if_pos more, if_pos more, bind_assoc, careful_octet, bind_assoc, careful_octet]
    split_ifs with concatenates
    · rw [bind_assoc, careful_octet, bind_assoc, careful_octet, bind_assoc, careful_octet]
      have further := ih { refnum := pdu.getD (udhPos + 2) 0, maxmsg := pdu.getD (udhPos + 3) 0, seqnum := pdu.getD (udhPos + 4) 0 }
      constructor
      · rintro ⟨-, here, -, -, there, held⟩
        have both := further.mp held
        exact ⟨⟨here, fun _ => there, both.1⟩, both.2⟩
      · rintro ⟨⟨here, there, readable⟩, held⟩
        have last := there concatenates
        exact ⟨by omega, here, by omega, by omega, last, further.mpr ⟨readable, held⟩⟩
    · have further := ih concatenation
      constructor
      · rintro ⟨-, here, held⟩
        have both := further.mp held
        exact ⟨⟨here, fun other => absurd other concatenates, both.1⟩, both.2⟩
      · rintro ⟨⟨here, -, readable⟩, held⟩
        exact ⟨by omega, here, further.mpr ⟨readable, held⟩⟩
  | case2 udhPos done =>
    rw [headerElements, HeaderReadable, if_neg done, if_neg done, true_and]
    exact rest concatenation

/-- The user data of a short message. -/
structure UserDataReadable (pdu : Octets) (headerIndicator : Bool) (dcsPos udlPos : Nat) : Prop where
  length : udlPos < pdu.length
  header : headerIndicator = true → udlPos + 1 < pdu.length ∧
    HeaderReadable pdu (udlPos + 1 + octet pdu (udlPos + 1)) (udlPos + 2)

theorem careful_userData {f : Concatenation × Content → Except Stop β} (rest : ∀ data, Careful (f data) complete ↔ complete)
    {headerIndicator : Bool} {dcsPos udlPos : Nat} (before : dcsPos < udlPos)
    (all : complete → UserDataComplete pdu headerIndicator dcsPos udlPos) :
    Careful (userData pdu headerIndicator dcsPos udlPos >>= f) complete ↔
      UserDataReadable pdu headerIndicator dcsPos udlPos ∧ (textKind (pdu.getD dcsPos 0) = .refused ∨
        RoomForText (pdu.getD dcsPos 0) (octet pdu udlPos) (headerLength pdu headerIndicator udlPos)
          (headerSeptets pdu headerIndicator udlPos) ∧ complete) := by
  have data : complete → udlPos + 1 + dataOctets (pdu.getD dcsPos 0) (octet pdu udlPos) ≤ pdu.length :=
    fun held => (all held).data
  have shown : (pdu.getD udlPos 0).toNat = octet pdu udlPos := rfl
  have shown' : (pdu.getD (udlPos + 1) 0).toNat = octet pdu (udlPos + 1) := rfl
  unfold userData
  rw [bind_assoc, careful_octet]
  dsimp only
  rw [shown]
  cases headerIndicator with
  | false =>
    rw [if_neg Bool.false_ne_true, bind_assoc, careful_octet, bind_assoc]
    have text : Careful (content pdu (udlPos + 1) (pdu.getD dcsPos 0) (octet pdu udlPos) 0 0 >>= fun content =>
        f (.unset, content)) complete ↔ textKind (pdu.getD dcsPos 0) = .refused ∨
          RoomForText (pdu.getD dcsPos 0) (octet pdu udlPos) 0 0 ∧ complete :=
      careful_content (fun content => rest (.unset, content)) data
    constructor
    · rintro ⟨inside, -, held⟩
      exact ⟨⟨inside, fun no => by cases no⟩, text.mp held⟩
    · rintro ⟨readable, held⟩
      have inside := readable.length
      exact ⟨inside, by omega, text.mpr held⟩
  | true =>
    rw [if_pos rfl, bind_assoc, careful_octet, shown', bind_assoc]
    have text (concatenation : Concatenation) : Careful
        ((octetAt pdu dcsPos >>= fun dcs => content pdu (udlPos + 1) dcs (octet pdu udlPos) (octet pdu (udlPos + 1))
          (octetsToSeptets (octet pdu (udlPos + 1) + 1)) >>= fun content => pure (concatenation, content)) >>= f)
        complete ↔ dcsPos < pdu.length ∧ (textKind (pdu.getD dcsPos 0) = .refused ∨
          RoomForText (pdu.getD dcsPos 0) (octet pdu udlPos) (octet pdu (udlPos + 1))
            (octetsToSeptets (octet pdu (udlPos + 1) + 1)) ∧ complete) := by
      rw [bind_assoc, careful_octet, bind_assoc]
      exact and_congr_right fun _ => careful_content (fun content => rest (concatenation, content)) data
    rw [careful_headerElements text]
    constructor
    · rintro ⟨inside, further, readable, -, held⟩
      exact ⟨⟨inside, fun _ => ⟨further, readable⟩⟩, held⟩
    · rintro ⟨⟨inside, header⟩, held⟩
      obtain ⟨further, readable⟩ := header rfl
      exact ⟨inside, further, readable, Nat.lt_trans before inside, held⟩

end UserData

/-! ## Short messages -/

/-- A short message has every octet that its own lengths announce. -/
structure DeliverComplete (pdu : Octets) : Prop where
  centre : centreEnd pdu ≤ pdu.length
  address : addressEnd pdu (centreEnd pdu + 1) ≤ pdu.length
  data : UserDataComplete pdu (flag (pdu.getD (centreEnd pdu) 0) 6) (addressEnd pdu (centreEnd pdu + 1) + 1)
    (addressEnd pdu (centreEnd pdu + 1) + 9)

/-- What is behind the address of a short message is there until something of it is refused. -/
def DeliverDataSound (mktime : Tm → Int) (pdu : Octets) (headerIndicator : Bool) (pos : Nat) : Prop :=
  pos + 7 < pdu.length ∧ (mktime (tmAt pdu (pos + 2)) = -1 ∨
    UserDataReadable pdu headerIndicator (pos + 1) (pos + 9) ∧ (textKind (pdu.getD (pos + 1) 0) = .refused ∨
      RoomForText (pdu.getD (pos + 1) 0) (octet pdu (pos + 9)) (headerLength pdu headerIndicator (pos + 9))
        (headerSeptets pdu headerIndicator (pos + 9)) ∧ DeliverComplete pdu))

/-- The parts of a short message are there until something of it is refused. -/
def DeliverSound (mktime : Tm → Int) (pdu : Octets) : Prop :=
  0 < pdu.length ∧ (CentreRefused pdu ∨ centreEnd pdu + 2 < pdu.length ∧
    (TooManyDigits pdu (centreEnd pdu + 3) (octet pdu (centreEnd pdu + 1)) ∨
      DeliverDataSound mktime pdu (flag (pdu.getD (centreEnd pdu) 0) 6) (addressEnd pdu (centreEnd pdu + 1))))

theorem careful_deliver (mktime : Tm → Int) {textPdu : Octets} (even : textPdu.length % 2 = 0) :
    Careful (smsDeliverInitFromPdu mktime textPdu) (DeliverComplete (hexOctets textPdu)) ↔
      DeliverSound mktime (hexOctets textPdu) := by
  unfold smsDeliverInitFromPdu DeliverSound
  rw [if_neg (not_not.mpr even)]
  dsimp only
  generalize hexOctets textPdu = pdu
  refine careful_serviceCentre ?_ fun held => by omega
  intro smcc
  dsimp only
  rw [careful_octet]
  have behind : DeliverDataSound mktime pdu (flag (pdu.getD (centreEnd pdu) 0) 6) (addressEnd pdu (centreEnd pdu + 1)) →
      addressEnd pdu (centreEnd pdu + 1) ≤ pdu.length := by
    intro held
    have there := held.1
    omega
  refine (and_congr_right fun _ => careful_address (Q := DeliverDataSound mktime pdu
    (flag (pdu.getD (centreEnd pdu) 0) 6) (addressEnd pdu (centreEnd pdu + 1))) ?_ behind).trans ?_
  · intro originating
    dsimp only
    have complete (held : DeliverComplete pdu) := held.data
    unfold DeliverDataSound
    generalize addressEnd pdu (centreEnd pdu + 1) = pos at complete ⊢
    refine careful_timestamp ?_ fun held => ?_
    · intro time
      refine careful_userData (fun data => Iff.rfl) ?_ complete
      omega
    · have there := held.1.length
      omega
  · rw [← and_assoc]
    refine and_congr_left fun _ => ?_
    omega

/-! ## Status reports -/

/-- Where the optional part of a status report ends, as far as the parameter indicator and the length
of the user data tell. -/
def parametersEnd (pdu : Octets) (pos : Nat) : Nat :=
  if pos = pdu.length then pos
  else
    let indicator := pdu.getD pos 0
    let dcsPos := pos + 1 + (flag indicator 0).toNat
    let udlPos := dcsPos + (flag indicator 1).toNat
    if flag indicator 2 then udlPos + 1 + dataOctets (if flag indicator 1 then pdu.getD dcsPos 0 else 0) (octet pdu udlPos)
    else udlPos

/-- A status report has every octet that its own lengths announce. -/
structure ReportComplete (pdu : Octets) : Prop where
  centre : centreEnd pdu ≤ pdu.length
  address : addressEnd pdu (centreEnd pdu + 2) ≤ pdu.length
  fixed : addressEnd pdu (centreEnd pdu + 2) + 15 ≤ pdu.length
  parameters : parametersEnd pdu (addressEnd pdu (centreEnd pdu + 2) + 15) ≤ pdu.length

/-- A status report has user data, and they are compressed. -/
def CompressedReport (pdu : Octets) (pos : Nat) : Prop :=
  pos + 3 < pdu.length ∧ (flag (pdu.getD pos 0) 0 ∧ flag (pdu.getD pos 0) 1 ∧ flag (pdu.getD pos 0) 2) ∧
    (pdu.getD (pos + 2) 0).toNat / 16 ≤ 3 ∧ flag (pdu.getD (pos + 2) 0) 5

/-- What is behind the address of a status report is there until something of it is refused. -/
def ReportDataSound (mktime : Tm → Int) (pdu : Octets) (pos : Nat) : Prop :=
  pos + 5 < pdu.length ∧ (mktime (tmAt pdu pos) = -1 ∨
    pos + 12 < pdu.length ∧ (mktime (tmAt pdu (pos + 7)) = -1 ∨ CompressedReport pdu (pos + 15) ∨ ReportComplete pdu))

/-- The parts of a status report are there until something of it is refused. -/
def ReportSound (mktime : Tm → Int) (pdu : Octets) : Prop :=
  0 < pdu.length ∧ (CentreRefused pdu ∨ centreEnd pdu + 3 < pdu.length ∧
    (TooManyDigits pdu (centreEnd pdu + 4) (octet pdu (centreEnd pdu + 2)) ∨
      ReportDataSound mktime pdu (addressEnd pdu (centreEnd pdu + 2))))

theorem known_refused_iff (dcs : UInt8) : knownGroup dcs ∧ textKind dcs = .refused ↔ dcs.toNat / 16 ≤ 3 ∧ flag dcs 5 := by
  unfold knownGroup textKind
  by_cases general : dcs.toNat / 16 ≤ 3
  · simp only [general, true_and]
    split_ifs <;> simp_all
  · simp only [general, false_and]
    split_ifs <;> simp_all

theorem parametersEnd_all {pdu : Octets} {pos : Nat} (more : pos ≠ pdu.length)
    (present : flag (pdu.getD pos 0) 0 ∧ flag (pdu.getD pos 0) 1 ∧ flag (pdu.getD pos 0) 2) :
    parametersEnd pdu pos = pos + 4 + dataOctets (pdu.getD (pos + 2) 0) (octet pdu (pos + 3)) := by
  obtain ⟨identifier, scheme, data⟩ := present
  unfold parametersEnd
  rw [if_neg more]
  dsimp only
  rw [identifier, scheme, if_pos data, if_pos rfl]
  simp only [Bool.toNat_true, Nat.add_assoc, Nat.reduceAdd]

/-- In the user data of a status report there is no header whose length could be wrong. -/
theorem roomForText_zero (dcs : UInt8) (udl : Nat) : RoomForText dcs udl 0 0 := by
  unfold RoomForText
  cases textKind dcs <;> simp

theorem careful_reportParameters {β : Type} {f : UInt8 × Option Content → Except Stop β} {pdu : Octets} {pos : Nat}
    {complete : Prop} (rest : ∀ parameters, Careful (f parameters) complete ↔ complete) (inside : pos ≤ pdu.length)
    (all : complete → parametersEnd pdu pos ≤ pdu.length) :
    Careful (reportParameters pdu pos >>= f) complete ↔ CompressedReport pdu pos ∨ complete := by
  unfold reportParameters CompressedReport
  by_cases last : pos = pdu.length
  · rw [if_pos last]
    have none : ¬pos + 3 < pdu.length := by omega
    exact (rest (0, Option.none)).trans ⟨.inr, fun held => held.resolve_left fun report => none report.1⟩
  rw [if_neg last, bind_assoc, careful_octet, and_iff_right (by omega)]
  by_cases present : flag (pdu.getD pos 0) 0 ∧ flag (pdu.getD pos 0) 1 ∧ flag (pdu.getD pos 0) 2
  · rw [parametersEnd_all last present] at all
    have length (held : complete) : pos + 3 < pdu.length := Nat.lt_of_lt_of_le (by omega) (all held)
    rw [if_pos present, bind_assoc, and_iff_right present]
    unfold reportContent
    simp only [bind_assoc, careful_octet]
    have compressed := known_refused_iff (pdu.getD (pos + 2) 0)
    by_cases known : knownGroup (pdu.getD (pos + 2) 0)
    · rw [if_pos known, ← compressed, and_iff_right known]
      have text : Careful (content pdu (pos + 4) (pdu.getD (pos + 2) 0) (octet pdu (pos + 3)) 0 0 >>= fun content =>
          f (pdu.getD pos 0, some content)) complete ↔
          textKind (pdu.getD (pos + 2) 0) = .refused ∨ RoomForText (pdu.getD (pos + 2) 0) (octet pdu (pos + 3)) 0 0 ∧ complete :=
        careful_content (fun content => rest (pdu.getD pos 0, some content)) all
      rw [and_iff_right (roomForText_zero _ _)] at text
      constructor
      · rintro ⟨inside, -, held⟩
        exact (text.mp held).imp_left fun refused => ⟨inside, refused⟩
      · rintro (⟨inside, refused⟩ | held)
        · exact ⟨inside, by omega, text.mpr (.inl refused)⟩
        · have inside := length held
          exact ⟨inside, by omega, text.mpr (.inr held)⟩
    · have plain : ¬((pdu.getD (pos + 2) 0).toNat / 16 ≤ 3 ∧ flag (pdu.getD (pos + 2) 0) 5) :=
        fun held => known (compressed.mpr held).1
      rw [if_neg known]
      constructor
      · exact fun held => .inr ((rest (pdu.getD pos 0, some _)).mp held.2.2)
      · intro held
        have done := held.resolve_left fun report => plain report.2
        have inside := length done
        exact ⟨inside, by omega, (rest (pdu.getD pos 0, some _)).mpr done⟩
  · rw [if_neg present]
    exact (rest (pdu.getD pos 0, Option.none)).trans ⟨.inr, fun held => held.resolve_left fun report => present report.2.1⟩

theorem careful_report (mktime : Tm → Int) {textPdu : Octets} (even : textPdu.length % 2 = 0) :
    Careful (smsStatusReportInitFromPdu mktime textPdu) (ReportComplete (hexOctets textPdu)) ↔
      ReportSound mktime (hexOctets textPdu) := by
  unfold smsStatusReportInitFromPdu ReportSound
  rw [if_neg (not_not.mpr even)]
  dsimp only
  generalize hexOctets textPdu = pdu
  refine careful_serviceCentre ?_ fun held => by omega
  intro smcc
  dsimp only
  rw [careful_octet, careful_octet]
  have behind : ReportDataSound mktime pdu (addressEnd pdu (centreEnd pdu + 2)) →
      addressEnd pdu (centreEnd pdu + 2) ≤ pdu.length := by
    intro held
    have there := held.1
    omega
  refine (and_congr_right fun _ => and_congr_right fun _ => careful_address (Q := ReportDataSound mktime pdu
    (addressEnd pdu (centreEnd pdu + 2))) ?_ behind).trans ?_
  · intro recipient
    dsimp only
    have complete (held : ReportComplete pdu) := And.intro held.fixed held.parameters
    unfold ReportDataSound
    generalize addressEnd pdu (centreEnd pdu + 2) = pos at complete ⊢
    refine careful_timestamp ?_ fun held => by omega
    intro time
    have data : CompressedReport pdu (pos + 15) ∨ ReportComplete pdu → pos + 14 < pdu.length := by
      rintro (⟨there, -⟩ | held)
      · omega
      · have there := (complete held).1
        omega
    refine careful_timestamp ?_ fun held => Nat.lt_trans (by omega) (data held)
    intro discharge
    rw [careful_octet]
    constructor
    · rintro ⟨there, held⟩
      exact (careful_reportParameters (fun _ => Iff.rfl) there fun held => (complete held).2).mp held
    · intro held
      exact ⟨data held, (careful_reportParameters (fun _ => Iff.rfl) (data held) fun held => (complete held).2).mpr held⟩
  · rw [← and_assoc, ← and_assoc]
    refine and_congr_left fun _ => ?_
    omega

/-! ## Cell broadcast messages -/

/-- The octets of text that a data coding scheme of a broadcast makes the decoder read. -/
def cbmTextOctets (dcs : UInt8) : Nat :=
  if dcs.toNat / 16 = 0 then 82
  else if 4 ≤ dcs.toNat / 16 ∧ dcs.toNat / 16 ≤ 7 then
    if flag dcs 5 then 0
    else if dcs.toNat / 4 % 4 = 0 ∨ dcs.toNat / 4 % 4 = 2 then 82
    else 0
  else if dcs.toNat / 16 = 0xf ∧ !flag dcs 2 then 72
  else 0

/-- A broadcast has its header and the text that its data coding scheme tells of. -/
def CbmComplete (pdu : Octets) : Prop := 6 + cbmTextOctets (pdu.getD 4 0) ≤ pdu.length

theorem careful_cbmContent {β : Type} {f : Nat × Int × Nat × Option (List Nat) → Except Stop β} {pdu : Octets}
    (rest : ∀ content, Careful (f content) (CbmComplete pdu) ↔ CbmComplete pdu) (inside : 6 ≤ pdu.length) :
    Careful (cbmContent pdu 6 (pdu.getD 4 0) >>= f) (CbmComplete pdu) ↔ CbmComplete pdu := by
  have septets {g : List Nat → Except Stop β} {count : Nat} (text : cbmTextOctets (pdu.getD 4 0) = (7 * count + 7) / 8)
      (onward : ∀ text, Careful (g text) (CbmComplete pdu) ↔ CbmComplete pdu) :
      Careful (sevenBitToWc (pdu.drop 6) count 0 (count + 1) >>= g) (CbmComplete pdu) ↔ CbmComplete pdu := by
    rw [careful_septets onward, List.length_drop]
    refine and_iff_right_of_imp fun held => ?_
    unfold CbmComplete at held
    omega
  have refused (text : cbmTextOctets (pdu.getD 4 0) = 0) : True ↔ CbmComplete pdu := by
    unfold CbmComplete
    rw [text]
    exact iff_of_true trivial inside
  unfold cbmContent
  dsimp only
  by_cases general : (pdu.getD 4 0).toNat / 16 = 0
  · rw [if_pos general, bind_assoc]
    exact septets (by rw [cbmTextOctets, if_pos general]) fun _ => rest _
  rw [if_neg general]
  by_cases coded : 4 ≤ (pdu.getD 4 0).toNat / 16 ∧ (pdu.getD 4 0).toNat / 16 ≤ 7
  · have octets : cbmTextOctets (pdu.getD 4 0) = if flag (pdu.getD 4 0) 5 then 0
        else if (pdu.getD 4 0).toNat / 4 % 4 = 0 ∨ (pdu.getD 4 0).toNat / 4 % 4 = 2 then 82 else 0 := by
      rw [cbmTextOctets, if_neg general, if_pos coded]
    rw [if_pos coded]
    by_cases compressed : flag (pdu.getD 4 0) 5
    · rw [if_pos compressed]
      exact refused (by rw [octets, if_pos compressed])
    rw [if_neg compressed] at octets ⊢
    by_cases default : (pdu.getD 4 0).toNat / 4 % 4 = 0
    · rw [if_pos default, bind_assoc]
      exact septets (by rw [octets, if_pos (.inl default)]) fun _ => rest _
    rw [if_neg default]
    by_cases wide : (pdu.getD 4 0).toNat / 4 % 4 = 2
    · rw [if_pos wide, bind_assoc]
      refine (careful_ucs2 fun _ => rest _).trans (and_iff_right_of_imp fun held => ?_)
      unfold CbmComplete at held
      rw [octets, if_pos (.inr wide)] at held
      exact .inr held
    · rw [if_neg wide]
      exact rest _
  rw [if_neg coded]
  by_cases classed : (pdu.getD 4 0).toNat / 16 = 0xf
  · rw [if_pos classed]
    by_cases data : flag (pdu.getD 4 0) 2
    · rw [if_pos data]
      exact rest _
    · rw [if_neg data, bind_assoc]
      refine septets ?_ fun _ => rest _
      rw [cbmTextOctets, if_neg general, if_neg coded, if_pos ⟨classed, by simpa using data⟩]
  · rw [if_neg classed]
    refine refused ?_
    rw [cbmTextOctets, if_neg general, if_neg coded, if_neg fun held => classed held.1]

theorem careful_cbm {textPdu : Octets} (even : textPdu.length % 2 = 0) :
    Careful (decodeCbmPdu textPdu) (CbmComplete (hexOctets textPdu)) ↔ CbmComplete (hexOctets textPdu) := by
  unfold decodeCbmPdu
  rw [if_neg (not_not.mpr even)]
  dsimp only
  generalize hexOctets textPdu = pdu
  simp only [careful_octet]
  constructor
  · rintro ⟨-, -, -, -, inside, -, held⟩
    exact (careful_cbmContent (fun _ => Iff.rfl) inside).mp held
  · intro held
    have inside : 6 ≤ pdu.length := Nat.le_trans (Nat.le_add_right 6 _) held
    exact ⟨by omega, by omega, by omega, by omega, inside, by omega, (careful_cbmContent (fun _ => Iff.rfl) inside).mpr held⟩

/-! ## The decoders -/

theorem careful_even {α : Type} {result : Except Stop α} {complete sound : Prop} {textPdu : Octets}
    (odd : textPdu.length % 2 ≠ 0 → result = .error .refused)
    (even : textPdu.length % 2 = 0 → (Careful result complete ↔ sound)) :
    Careful result complete ↔ textPdu.length % 2 ≠ 0 ∨ sound := by
  by_cases half : textPdu.length % 2 = 0
  · rw [even half, or_iff_right (not_not.mpr half)]
  · rw [odd half]
    exact iff_of_true trivial (.inl half)

/-- The decoders keep to a PDU exactly if each part of it that they come to is there. -/
theorem decoders_careful_iff (mktime : Tm → Int) (textPdu : Octets) :
    (Careful (smsDeliverInitFromPdu mktime textPdu) (DeliverComplete (hexOctets textPdu)) ↔
      textPdu.length % 2 ≠ 0 ∨ DeliverSound mktime (hexOctets textPdu)) ∧
    (Careful (smsStatusReportInitFromPdu mktime textPdu) (ReportComplete (hexOctets textPdu)) ↔
      textPdu.length % 2 ≠ 0 ∨ ReportSound mktime (hexOctets textPdu)) ∧
    (Careful (decodeCbmPdu textPdu) (CbmComplete (hexOctets textPdu)) ↔
      textPdu.length % 2 ≠ 0 ∨ CbmComplete (hexOctets textPdu)) := by
  refine ⟨careful_even ?_ (careful_deliver mktime), careful_even ?_ (careful_report mktime), careful_even ?_ careful_cbm⟩
  · intro odd
    rw [smsDeliverInitFromPdu, if_pos odd]
  · intro odd
    rw [smsStatusReportInitFromPdu, if_pos odd]
  · intro odd
    rw [decodeCbmPdu, if_pos odd]

/-- `"00"`, a PDU of a single octet: no decoder asks whether the next one is there. -/
theorem short_pdu_is_overrun :
    ¬Careful (smsDeliverInitFromPdu (fun _ => 0) [48, 48]) (DeliverComplete (hexOctets [48, 48])) ∧
      ¬Careful (smsStatusReportInitFromPdu (fun _ => 0) [48, 48]) (ReportComplete (hexOctets [48, 48])) ∧
      ¬Careful (decodeCbmPdu [48, 48]) (CbmComplete (hexOctets [48, 48])) :=
  ⟨id, id, id⟩

end Vstuff.Vgsm.Pdu
