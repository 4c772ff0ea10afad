import LanguageClient.Proofs.Json.Numeral
import LanguageClient.Proofs.Number.Shortest

set_option autoImplicit false

/-!
Literals whose value is in range. A literal is read with three roundings, so it has to stand for a
number that lies a little below the greatest double.
-/

namespace LanguageClient

namespace Json

namespace Literal

/-! ### Scaling -/

theorem one_le_powerOfTen (power : Nat) :
    Binary64.unitsPerOne ≤ Binary64.scaled (powerOfTen power) :=
  Binary64.le_scaled_nearest
    (Nat.le_mul_of_pos_left _ (Nat.pow_pos (by decide) : 0 < Nat.pow 10 power))

theorem scaleDown_lt_infinity {magnitude : Nat} (finite : magnitude < Binary64.infinity)
    (steps power : Nat) : scaleDown steps magnitude power < Binary64.infinity := by
  induction steps generalizing magnitude power with
  | zero => exact Binary64.quotient_lt_infinity finite (one_le_powerOfTen power)
  | succ steps ih =>
    rw [scaleDown]
    split
    · exact Binary64.quotient_lt_infinity finite (one_le_powerOfTen power)
    · split
      · decide
      · exact ih (Binary64.quotient_lt_infinity finite (one_le_powerOfTen _)) _

theorem ofNat_lt_infinity {significand : Nat} (fits : significand < wordLimit) :
    Binary64.ofNat significand < Binary64.infinity := by
  refine Binary64.nearest_lt_infinity Nat.one_pos ?_
  calc significand * Binary64.unitsPerOne < wordLimit * Binary64.unitsPerOne :=
        Nat.mul_lt_mul_of_pos_right fits (by decide +kernel)
    _ < Binary64.overflow * 1 := by decide +kernel

/-- What two roundings add to a product does not make it overflow. -/
theorem product_lt_infinity {significand power : Nat}
    (bounded : significand * Nat.pow 10 power * (2 * Binary64.unitsPerOne) ≤
      Binary64.twiceSafe) :
    Binary64.product (Binary64.ofNat significand) (powerOfTen power) < Binary64.infinity := by
  have first := Binary64.scaled_nearest_le (significand * Binary64.unitsPerOne)
  have second := Binary64.scaled_nearest_le (Nat.pow 10 power * Binary64.unitsPerOne)
  have room : 0x20000000000001 * 0x20000000000001 * Binary64.twiceSafe <
      2 * (0x20000000000000 * 0x20000000000000) * Binary64.overflow := by decide +kernel
  have one : 0 < Binary64.unitsPerOne := by decide +kernel
  refine Binary64.nearest_lt_infinity one ?_
  rw [Binary64.ofNat, powerOfTen, Binary64.ofNat]
  generalize Binary64.scaled (Binary64.nearest (significand * Binary64.unitsPerOne) 1) = a at *
  generalize Binary64.scaled (Binary64.nearest (Nat.pow 10 power * Binary64.unitsPerOne) 1) = b
    at *
  generalize Nat.pow 10 power = tens at *
  generalize Binary64.unitsPerOne = units at *
  generalize Binary64.twiceSafe = limit at *
  refine Nat.lt_of_mul_lt_mul_left (a := 2 * (0x20000000000000 * 0x20000000000000)) ?_
  calc 2 * (0x20000000000000 * 0x20000000000000) * (a * b)
      = 2 * (0x20000000000000 * a * (0x20000000000000 * b)) := by ac_rfl
    _ ≤ 2 * (0x20000000000001 * (significand * units) * (0x20000000000001 * (tens * units))) :=
        Nat.mul_le_mul_left _ (Nat.mul_le_mul first second)
    _ = 0x20000000000001 * 0x20000000000001 * (significand * tens * (2 * units)) * units := by
        ac_rfl
    _ ≤ 0x20000000000001 * 0x20000000000001 * limit * units :=
        Nat.mul_le_mul_right _ (Nat.mul_le_mul_left _ bounded)
    _ < 2 * (0x20000000000000 * 0x20000000000000) * Binary64.overflow * units :=
        Nat.mul_lt_mul_of_pos_right room one
    _ = _ := Nat.mul_assoc ..

/-- What is bounded as the text of a double is read as a double. -/
theorem exists_toDouble_of_bounded (negative : Bool) {significand power : Nat}
    (small : power ≤ largestPower)
    (bounded : significand * Nat.pow 10 power * (2 * Binary64.unitsPerOne) ≤
      Binary64.twiceSafe) :
    ∃ real, toDouble negative significand power = .ok real := by
  have up : ¬ (power : Int) < 0 := by omega
  have reach : (power : Int) ≤ (largestPower : Int) := by omega
  simp only [toDouble, up, if_false, reach, if_true, Int.natAbs_natCast, Binary64.ofMagnitude?,
    dif_pos (product_lt_infinity bounded)]
  exact ⟨_, rfl⟩

theorem exists_toDouble_of_down (negative : Bool) {significand : Nat} {exponent : Int}
    (fits : significand < wordLimit) (down : exponent ≤ 0) :
    ∃ real, toDouble negative significand exponent = .ok real := by
  rcases Int.lt_or_eq_of_le down with below | rfl
  · have finite := scaleDown_lt_infinity (ofNat_lt_infinity fits)
      (exponent.natAbs / largestPower) exponent.natAbs
    simp only [toDouble, below, if_true, Binary64.ofMagnitude?, dif_pos finite]
    exact ⟨_, rfl⟩
  · refine @exists_toDouble_of_bounded negative significand 0 (by decide) ?_
    calc significand * Nat.pow 10 0 * (2 * Binary64.unitsPerOne)
        ≤ wordLimit * Nat.pow 10 0 * (2 * Binary64.unitsPerOne) :=
          Nat.mul_le_mul_right _ (Nat.mul_le_mul_right _ (Nat.le_of_lt fits))
      _ ≤ _ := by decide +kernel

/-! ### Values -/

theorem ofDigitChars_lt {row : List Char} (digital : ∀ c ∈ row, c.isDigit = true) (start : Nat) :
    Nat.ofDigitChars 10 row start < (start + 1) * Nat.pow 10 row.length := by
  induction row generalizing start with
  | nil =>
    rw [Nat.ofDigitChars_nil, List.length_nil, show Nat.pow 10 0 = 1 from rfl]
    omega
  | cons c rest ih =>
    obtain ⟨first, later⟩ := List.forall_mem_cons.mp digital
    have bounds := Decimal.bounds_of_isDigit first
    have small : 10 * start + (c.toNat - '0'.toNat) + 1 ≤ (start + 1) * 10 := by
      rw [show '0'.toNat = 48 from rfl]
      omega
    calc Nat.ofDigitChars 10 (c :: rest) start
        = Nat.ofDigitChars 10 rest (10 * start + (c.toNat - '0'.toNat)) := Nat.ofDigitChars_cons ..
      _ < (10 * start + (c.toNat - '0'.toNat) + 1) * Nat.pow 10 rest.length := ih later _
      _ ≤ (start + 1) * 10 * Nat.pow 10 rest.length := Nat.mul_le_mul_right _ small
      _ = (start + 1) * (Nat.pow 10 rest.length * 10) := by ac_rfl

/-- Nineteen digits fit into a word. -/
theorem accumulate_of_length_le {row : List Char} (digital : ∀ c ∈ row, c.isDigit = true)
    (short : row.length ≤ 19) :
    accumulate 0 (row.map worth) = (Nat.ofDigitChars 10 row 0, []) ∧
      Nat.ofDigitChars 10 row 0 < wordLimit := by
  have fits : Nat.ofDigitChars 10 row 0 < wordLimit := by
    calc Nat.ofDigitChars 10 row 0 < (0 + 1) * Nat.pow 10 row.length := ofDigitChars_lt digital 0
      _ = Nat.pow 10 row.length := Nat.one_mul _
      _ ≤ Nat.pow 10 19 := Nat.pow_le_pow_right (by decide) short
      _ < wordLimit := by decide
  exact ⟨accumulate_worth fits, fits⟩

/-- What is accumulated are leading digits. -/
theorem accumulate_spec {start : Nat} (fits : start < wordLimit) (row : List Char)
    {value : Nat} {unread : List Nat} (found : accumulate start (row.map worth) = (value, unread)) :
    value < wordLimit ∧ unread.length ≤ row.length ∧
      value * Nat.pow 10 unread.length ≤ Nat.ofDigitChars 10 row start := by
  induction row generalizing start with
  | nil =>
    cases found
    exact ⟨fits, Nat.le_refl _, Nat.le_of_eq (Nat.mul_one _)⟩
  | cons c rest ih =>
    rw [List.map_cons, accumulate] at found
    split at found
    · rename_i further
      obtain ⟨below, fewer, leading⟩ := ih further found
      refine ⟨below, Nat.le_succ_of_le fewer, ?_⟩
      rw [Nat.ofDigitChars_cons, Nat.mul_comm 10]
      exact leading
    · cases found
      refine ⟨fits, by simp, ?_⟩
      rw [Nat.ofDigitChars_eq_ofDigitChars_zero, List.length_cons, List.length_cons,
        List.length_map, Nat.mul_comm]
      exact Nat.le_add_right _ _

theorem exists_value_of_point (negative : Bool) {whole : List Char}
    (digital : ∀ c ∈ whole, c.isDigit = true) (short : whole.length ≤ 19) (row : List Char) :
    ∃ real, Literal.value ⟨negative, whole.map worth, some (row.map worth), none⟩ =
      .ok (.double real) := by
  obtain ⟨front, fits⟩ := accumulate_of_length_le digital short
  obtain ⟨⟨significand, unread⟩, back⟩ : ∃ found,
      accumulate (Nat.ofDigitChars 10 whole 0) (row.map worth) = found := ⟨_, rfl⟩
  obtain ⟨below, fewer, -⟩ := accumulate_spec fits row back
  obtain ⟨real, same⟩ := @exists_toDouble_of_down negative _
    (([] : List Nat).length - ((row.map worth).length - unread.length : Nat)) below (by simp)
  refine ⟨real, ?_⟩
  simp only [Literal.value, front, Option.isNone_some, Bool.false_eq_true, false_and, if_false,
    Option.getD_some, back, same]
  rfl

theorem foldl_exponent (power : Nat) :
    ((Decimal.digits power).map worth).foldl
        (fun value digit => min exponentLimit (value * 10 + digit)) 0 =
      min exponentLimit power := by
  have bounded := Decimal.bounded_eq exponentLimit (Decimal.digits power)
  rw [Decimal.ofDigitChars_digits] at bounded
  rw [← bounded, Decimal.bounded, List.foldl_map]
  simp only [worth, Nat.mul_comm]

theorem pow_le_of_digits {value : Nat} (positive : 0 < value) {c : Char} {rest : List Char}
    (written : Decimal.digits value = c :: rest) : Nat.pow 10 rest.length ≤ value := by
  rcases Nat.eq_zero_or_pos rest.length with none | some
  · rw [none]
    exact positive
  · refine Nat.le_of_not_lt fun less => ?_
    have short := (Nat.length_toDigits_le_iff (by decide : 1 < 10) some).mpr less
    rw [show Nat.toDigits 10 value = c :: rest from written, List.length_cons] at short
    omega

/-- A decimal below the numbers that overflow has a power of ten that is in the table. -/
theorem le_largestPower {number : Decimal} {numerator : Nat} {c : Char} {rest : List Char}
    (written : Decimal.digits number.significand = c :: rest) (positive : 0 < number.significand)
    (least : number.AtMost numerator (2 * Binary64.unitsPerOne))
    (bounded : numerator ≤ Binary64.twiceSafe) (up : 0 ≤ number.exponent + rest.length) :
    (number.exponent + rest.length).natAbs ≤ largestPower := by
  have leads : 1 * Nat.pow 10 rest.length ≤ number.significand := by
    rw [Nat.one_mul]
    exact pow_le_of_digits positive written
  have high := least.mul_pow_le leads up
  rw [Nat.one_mul] at high
  refine Nat.le_of_not_lt fun more => ?_
  have rises {power further : Nat} (less : power ≤ further) :
      Nat.pow 10 power ≤ Nat.pow 10 further := Nat.pow_le_pow_right (by decide) less
  have far : Nat.pow 10 (largestPower + 1) ≤
      Nat.pow 10 (number.exponent + rest.length).toNat := rises (by omega)
  have beyond : Binary64.twiceSafe <
      Nat.pow 10 (largestPower + 1) * (2 * Binary64.unitsPerOne) := by decide +kernel
  exact absurd (Nat.lt_of_lt_of_le beyond
    (Nat.le_trans (Nat.mul_le_mul_right _ far) (Nat.le_trans high bounded)))
    (Nat.lt_irrefl _)

theorem exists_accumulate {value : Nat} {c : Char} {rest : List Char}
    (written : Decimal.digits value = c :: rest) :
    ∃ significand unread, accumulate 0 [worth c] = (worth c, []) ∧
      accumulate (worth c) (rest.map worth) = (significand, unread) ∧
      significand < wordLimit ∧ unread.length ≤ rest.length ∧
      significand * Nat.pow 10 unread.length ≤ value := by
  have first : c.isDigit = true :=
    Decimal.isDigit_of_mem_digits (written ▸ List.mem_cons_self .. : c ∈ Decimal.digits _)
  have small : worth c < wordLimit := by
    have bounds := Decimal.bounds_of_isDigit first
    rw [worth, wordLimit, show '0'.toNat = 48 from rfl]
    omega
  have front : accumulate 0 [worth c] = (worth c, []) := by
    rw [accumulate, Nat.zero_mul, Nat.zero_add, if_pos small]
    rfl
  obtain ⟨⟨significand, unread⟩, back⟩ : ∃ found,
      accumulate (worth c) (rest.map worth) = found := ⟨_, rfl⟩
  obtain ⟨below, fewer, leading⟩ := accumulate_spec small rest back
  refine ⟨significand, unread, front, back, below, fewer, ?_⟩
  have digits := Decimal.ofDigitChars_digits value
  rw [written, Nat.ofDigitChars_cons, Nat.mul_zero, Nat.zero_add] at digits
  rwa [← digits]

/-- A literal with an exponent is in range if it is a decimal below the numbers that overflow. -/
theorem exists_value_of_exponent (negative : Bool) {number : Decimal} {numerator : Nat}
    {c : Char} {rest : List Char} {fraction : Option (List Char)}
    (written : Decimal.digits number.significand = c :: rest) (same : fraction.getD [] = rest)
    (positive : 0 < number.significand)
    (least : number.AtMost numerator (2 * Binary64.unitsPerOne))
    (bounded : numerator ≤ Binary64.twiceSafe) :
    ∃ real, Literal.value ⟨negative, [worth c], fraction.map (·.map worth),
        some (decide (number.exponent + rest.length < 0),
          (Decimal.digits (number.exponent + rest.length).natAbs).map worth)⟩ =
      .ok (.double real) := by
  obtain ⟨significand, unread, front, back, below, fewer, whole⟩ := exists_accumulate written
  have tail : (fraction.map (·.map worth)).getD [] = rest.map worth := by
    rw [← same]
    cases fraction <;> rfl
  have real {exponent : Int} (found : ∃ real, toDouble negative significand exponent = .ok real) :
      ∃ real, (toDouble negative significand exponent).map Number.double =
        .ok (.double real) := by
    obtain ⟨real, same⟩ := found
    exact ⟨real, by rw [same]; rfl⟩
  simp only [Literal.value, front, tail, back, Option.isNone_some, Bool.false_eq_true, and_false,
    false_and, if_false, foldl_exponent, List.length_nil, List.length_map]
  by_cases down : number.exponent + rest.length < 0
  · simp only [down, decide_true, if_true, or_true]
    split
    · exact real (exists_toDouble_of_down negative below (by omega))
    · exact ⟨_, rfl⟩
  · have few := le_largestPower written positive least bounded (Int.not_lt.mp down)
    have reach : (number.exponent + rest.length).natAbs < exponentLimit :=
      Nat.lt_of_le_of_lt few (by decide)
    have exponent : ((0 : Nat) : Int) - ((rest.length - unread.length : Nat) : Int) +
        ((number.exponent + rest.length).natAbs : Int) = number.exponent + unread.length := by
      omega
    simp only [down, decide_false, Bool.false_eq_true, if_false,
      Nat.min_eq_right (Nat.le_of_lt reach), reach, if_true]
    rw [exponent]
    refine real ?_
    by_cases lower : number.exponent + unread.length < 0
    · exact exists_toDouble_of_down negative below (Int.le_of_lt lower)
    · have inside := least.mul_pow_le whole (Int.not_lt.mp lower)
      have natural : number.exponent + (unread.length : Int) =
          ((number.exponent + unread.length).toNat : Int) := by omega
      rw [natural]
      exact exists_toDouble_of_bounded negative (by omega) (Nat.le_trans inside bounded)

end Literal

end Json

end LanguageClient
