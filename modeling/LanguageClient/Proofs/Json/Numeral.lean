import LanguageClient.Proofs.Json.Literal

set_option autoImplicit false

namespace LanguageClient

namespace Json

namespace Literal

/-! ### Rows of digits -/

def worth (c : Char) : Nat := c.toNat - '0'.toNat

theorem isDigit_ofNat {c : Char} (digital : c.isDigit = true) :
    isDigit (UInt8.ofNat c.toNat) = true := by
  obtain ⟨lower, upper⟩ := Decimal.bounds_of_isDigit digital
  have same := Utf8.toNat_ofNat_of_low (by omega : c.toNat < 0x80)
  simp only [isDigit, Bool.and_eq_true, decide_eq_true_eq, UInt8.le_iff_toNat_le, same]
  exact ⟨lower, upper⟩

theorem digit_ofNat {c : Char} (digital : c.isDigit = true) :
    digit (UInt8.ofNat c.toNat) = worth c := by
  obtain ⟨lower, upper⟩ := Decimal.bounds_of_isDigit digital
  rw [digit, Utf8.toNat_ofNat_of_low (by omega : c.toNat < 0x80)]
  rfl

theorem encode_cons_of_digital {c : Char} (digital : c.isDigit = true) (rest : List Char) :
    Utf8.encode (c :: rest) = UInt8.ofNat c.toNat :: Utf8.encode rest := by
  have bounds := Decimal.bounds_of_isDigit digital
  rw [Utf8.encode_cons, Utf8.encodeChar_of_low (by omega)]
  rfl

theorem takeDigits_encode {row : List Char} (digital : ∀ c ∈ row, c.isDigit = true)
    {more : Bytes} (stops : ∀ byte ∈ more.head?, isDigit byte = false) :
    takeDigits (Utf8.encode row ++ more) = (row.map worth, more) := by
  induction row with
  | nil =>
    cases more with
    | nil => rfl
    | cons byte more =>
      have other : isDigit byte = false := stops byte rfl
      simp [takeDigits, Utf8.encode, other]
  | cons c rest ih =>
    obtain ⟨first, later⟩ := List.forall_mem_cons.mp digital
    rw [encode_cons_of_digital first, List.cons_append, takeDigits_cons (isDigit_ofNat first),
      ih later, digit_ofNat first]
    rfl

structure IsRow (row : List Char) : Prop where
  digital : ∀ c ∈ row, c.isDigit = true
  nonempty : row ≠ []

theorem isRow_digits (value : Nat) : IsRow (Decimal.digits value) :=
  ⟨fun _ mem => Decimal.isDigit_of_mem_digits mem, Nat.toDigits_ne_nil⟩

theorem readDigits_append {row : List Char} (isRow : IsRow row) (more : Bytes)
    (stops : ∀ byte ∈ more.head?, isDigit byte = false) :
    readDigits (Utf8.encode row ++ more) = .ok (row.map worth, more) := by
  have taken := takeDigits_encode isRow.digital stops
  obtain ⟨c, rest, rfl⟩ := List.exists_cons_of_ne_nil isRow.nonempty
  have first := isRow.digital c (List.mem_cons_self ..)
  rw [encode_cons_of_digital first, List.cons_append] at taken ⊢
  rw [readDigits, if_pos (isDigit_ofNat first), taken]

/-- The digits before the point of a literal: a zero stands alone. -/
def Leads (row : List Char) : Prop := row = ['0'] ∨ ∃ c rest, row = c :: rest ∧ c ≠ '0'

theorem readWhole_append {row : List Char} (digital : ∀ c ∈ row, c.isDigit = true)
    (leads : Leads row) {more : Bytes} (stops : ∀ byte ∈ more.head?, isDigit byte = false) :
    readWhole (Utf8.encode row ++ more) = .ok (row.map worth, more) := by
  rcases leads with rfl | ⟨c, rest, rfl, other⟩
  · change readWhole (0x30 :: more) = _
    cases more with
    | nil => rfl
    | cons byte more =>
      have stop : isDigit byte = false := stops byte rfl
      simp only [readWhole, stop, if_true, Bool.false_eq_true, if_false]
      rfl
  · have taken := takeDigits_encode digital stops
    have first := digital c (List.mem_cons_self ..)
    have nonzero : UInt8.ofNat c.toNat ≠ 0x30 := by
      intro zero
      have bounds := Decimal.bounds_of_isDigit first
      have same : c.toNat = 48 := by
        rw [← Utf8.toNat_ofNat_of_low (by omega : c.toNat < 0x80), zero]
        rfl
      exact other (Char.toNat_inj.mp same)
    rw [encode_cons_of_digital first, List.cons_append] at taken ⊢
    simp only [readWhole, nonzero, isDigit_ofNat first, if_true, if_false, taken]

theorem ne_zero_of_written {value : Nat} {c : Char} {rest : List Char} (positive : 0 < value)
    (written : Decimal.digits value = c :: rest) : c ≠ '0' := by
  have nonzero := Decimal.head?_digits_ne_zero positive
  rw [written] at nonzero
  exact fun zero => nonzero (congrArg some zero)

theorem leads_digits (value : Nat) : Leads (Decimal.digits value) := by
  rcases Nat.eq_zero_or_pos value with rfl | positive
  · exact .inl rfl
  · obtain ⟨c, rest, written⟩ := List.exists_cons_of_ne_nil (isRow_digits value).nonempty
    exact .inr ⟨c, rest, written, ne_zero_of_written positive written⟩

theorem accumulate_worth {text : List Char} {start : Nat}
    (fits : Nat.ofDigitChars 10 text start < wordLimit) :
    accumulate start (text.map worth) = (Nat.ofDigitChars 10 text start, []) := by
  induction text generalizing start with
  | nil => rfl
  | cons c rest ih =>
    rw [Nat.ofDigitChars_cons, Nat.mul_comm] at fits ⊢
    have inside := Decimal.le_ofDigitChars rest (start * 10 + (c.toNat - '0'.toNat))
    rw [List.map_cons, accumulate, if_pos (by rw [worth]; omega)]
    exact ih fits

theorem accumulate_digits {value : Nat} (fits : value < wordLimit) :
    accumulate 0 ((Decimal.digits value).map worth) = (value, []) := by
  have same := Decimal.ofDigitChars_digits value
  rw [accumulate_worth (by rwa [same]), same]

/-! ### Literals -/

def exponentText : Option (Bool × List Char) → List Char
  | none => []
  | some (downward, digits) => 'e' :: (if downward then '-' else '+') :: digits

theorem readExponent_text {exponent : Option (Bool × List Char)}
    (isRow : ∀ part ∈ exponent, IsRow part.2) :
    readExponent (Utf8.encode (exponentText exponent)) =
      .ok (exponent.map fun part => (part.1, part.2.map worth), []) := by
  cases exponent with
  | none => rfl
  | some part =>
    obtain ⟨downward, row⟩ := part
    have read := readDigits_append (isRow _ rfl) [] (by rintro byte ⟨⟩)
    rw [List.append_nil] at read
    cases downward with
    | true =>
      change (readDigits (Utf8.encode row)).map _ = _
      rw [read]
      rfl
    | false =>
      change (readDigits (Utf8.encode row)).map _ = _
      rw [read]
      rfl

theorem head?_exponentText (exponent : Option (Bool × List Char)) :
    ∀ byte ∈ (Utf8.encode (exponentText exponent)).head?, byte = 0x65 := by
  cases exponent with
  | none => rintro byte ⟨⟩
  | some part =>
    rintro byte ⟨⟩
    rfl

def text (whole : List Char) (fraction : Option (List Char))
    (exponent : Option (Bool × List Char)) : List Char :=
  whole ++ (fraction.elim [] ('.' :: ·) ++ exponentText exponent)

theorem readFraction_text {fraction : Option (List Char)}
    (isRow : ∀ row ∈ fraction, IsRow row) {tail : Bytes}
    (mark : ∀ byte ∈ tail.head?, byte = 0x65) :
    readFraction (Utf8.encode (fraction.elim [] ('.' :: ·)) ++ tail) =
      .ok (fraction.map (·.map worth), tail) := by
  cases fraction with
  | none =>
    change readFraction tail = _
    cases tail with
    | nil => rfl
    | cons byte rest =>
      rw [mark byte rfl]
      rfl
  | some row =>
    have stops : ∀ byte ∈ tail.head?, isDigit byte = false := fun byte mem => mark byte mem ▸ rfl
    have read := readDigits_append (isRow row rfl) tail stops
    change (readDigits (Utf8.encode row ++ tail)).map _ = _
    rw [read]
    rfl

theorem readUnsigned_text (negative : Bool) {whole : List Char} {fraction : Option (List Char)}
    {exponent : Option (Bool × List Char)} (digital : ∀ c ∈ whole, c.isDigit = true)
    (leads : Leads whole)
    (fractional : ∀ row ∈ fraction, IsRow row) (exponential : ∀ part ∈ exponent, IsRow part.2) :
    readUnsigned negative (Utf8.encode (text whole fraction exponent)) =
      .ok (⟨negative, whole.map worth, fraction.map (·.map worth),
        exponent.map fun part => (part.1, part.2.map worth)⟩, []) := by
  have powers := readExponent_text exponential
  have mark := head?_exponentText exponent
  have parts := readFraction_text fractional mark
  have stops : ∀ byte ∈ (Utf8.encode (fraction.elim [] ('.' :: ·)) ++
      Utf8.encode (exponentText exponent)).head?, isDigit byte = false := by
    cases fraction with
    | none =>
      intro byte mem
      rw [mark byte mem]
      rfl
    | some row =>
      rintro byte ⟨⟩
      rfl
  rw [text, Utf8.encode_append, Utf8.encode_append, readUnsigned,
    readWhole_append digital leads stops]
  simp only [bind, Except.bind, parts, powers]
  rfl

theorem read_of_readUnsigned {bytes : Bytes} {literal : Literal}
    (found : readUnsigned false bytes = .ok (literal, [])) : read bytes = .ok (literal, []) := by
  cases bytes with
  | nil => cases found
  | cons byte rest =>
    have other : byte ≠ 0x2D := by
      rintro rfl
      cases found
    rw [read, if_neg other]
    exact found

/-! ### Whole numbers -/

/-- The bytes of a number are read, to their end, as a literal that stands for it. -/
def Writes (bytes : Bytes) (number : Number) : Prop :=
  ∃ literal, read bytes = .ok (literal, []) ∧ literal.value = .ok number

theorem readUnsigned_digits (negative : Bool) (value : Nat) :
    readUnsigned negative (Utf8.encode (Decimal.digits value)) =
      .ok (⟨negative, (Decimal.digits value).map worth, none, none⟩, []) := by
  have same : Decimal.digits value = text (Decimal.digits value) none none := by
    simp [text, exponentText]
  have read := @readUnsigned_text negative _ none none (isRow_digits value).digital
    (leads_digits value) (by rintro row ⟨⟩) (by rintro part ⟨⟩)
  rwa [← same] at read

theorem value_negative {value : Nat} (positive : 0 < value)
    (lower : -0x8000000000000000 ≤ -(value : Int)) (upper : -(value : Int) < 0x10000000000000000) :
    Literal.value ⟨true, (Decimal.digits value).map worth, none, none⟩ =
      .ok (.integer ⟨-value, lower, upper⟩) := by
  have small : value ≤ 0x8000000000000000 := by omega
  have fits : value < wordLimit := by
    rw [wordLimit]
    omega
  rw [Literal.value, accumulate_digits fits]
  simp [positive, small]

theorem value_unsigned {value : Nat} (lower : -0x8000000000000000 ≤ (value : Int))
    (upper : (value : Int) < 0x10000000000000000) :
    Literal.value ⟨false, (Decimal.digits value).map worth, none, none⟩ =
      .ok (.integer ⟨value, lower, upper⟩) := by
  have fits : value < 0x10000000000000000 := by omega
  rw [Literal.value, accumulate_digits fits]
  simp [fits]

theorem writes_integer (whole : Integer) :
    Writes (Utf8.encode (numberChars (.integer whole))) (.integer whole) := by
  obtain ⟨value, lower, upper⟩ := whole
  rw [numberChars, Decimal.signed]
  dsimp only
  split
  · rename_i negative
    refine ⟨_, readUnsigned_digits true _, ?_⟩
    have same : -(value.natAbs : Int) = value := by omega
    rw [value_negative (by omega) (by omega) (by omega)]
    simp only [same]
  · rename_i positive
    refine ⟨_, read_of_readUnsigned (readUnsigned_digits false _), ?_⟩
    have same : (value.natAbs : Int) = value := by omega
    rw [value_unsigned (by omega) (by omega)]
    simp only [same]

end Literal

end Json

end LanguageClient
