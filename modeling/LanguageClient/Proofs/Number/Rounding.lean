import LanguageClient.Number.Binary64

set_option autoImplicit false

namespace LanguageClient

namespace Binary64

/-- The least number of units that is rounded to infinity: half a step above the greatest double. -/
def overflow : Nat := 0x3FFFFFFFFFFFFF <<< 2044

/-- Twice the units that a number may have to stay finite through three roundings. It lies a step
and a half below the greatest double. -/
def twiceSafe : Nat := 0x3FFFFFFFFFFFFB <<< 2045

/-! ### Quotients -/

/-- A rounded quotient is at most a half above the quotient. -/
theorem roundedQuotient_mul_le (numerator denominator : Nat) :
    2 * (roundedQuotient numerator denominator * denominator) ≤ 2 * numerator + denominator := by
  have whole := Nat.div_add_mod' numerator denominator
  unfold roundedQuotient
  dsimp only
  split
  · rename_i upper
    rw [Nat.add_mul, Nat.one_mul]
    omega
  · omega

theorem div_le_roundedQuotient (numerator denominator : Nat) :
    numerator / denominator ≤ roundedQuotient numerator denominator := by
  unfold roundedQuotient
  dsimp only
  split
  · exact Nat.le_succ _
  · exact Nat.le_refl _

theorem roundedQuotient_le {numerator denominator bound : Nat} (positive : 0 < denominator)
    (below : numerator ≤ bound * denominator) : roundedQuotient numerator denominator ≤ bound := by
  have twice := roundedQuotient_mul_le numerator denominator
  refine Nat.le_of_not_lt fun beyond => ?_
  have more : (bound + 1) * denominator ≤ roundedQuotient numerator denominator * denominator :=
    Nat.mul_le_mul_right _ beyond
  rw [Nat.add_mul, Nat.one_mul] at more
  omega

/-! ### Binades -/

/-- By how many places a quotient is shifted before it is rounded. -/
def shift (numerator denominator : Nat) : Nat := (numerator / denominator).log2 - 52

/-- The distance of two neighbours of a quotient, in parts of its denominator. -/
def step (numerator denominator : Nat) : Nat := denominator <<< shift numerator denominator

theorem nearest_eq (numerator denominator : Nat) :
    nearest numerator denominator = (shift numerator denominator <<< 52) +
      roundedQuotient numerator (step numerator denominator) := rfl

section

variable {numerator denominator : Nat} (positive : 0 < denominator)

include positive

theorem step_pos : 0 < step numerator denominator := by
  rw [step, Nat.shiftLeft_eq]
  exact Nat.mul_pos positive (Nat.two_pow_pos _)

theorem lt_step : numerator < (1 <<< 53) * step numerator denominator := by
  have high : numerator / denominator < 2 ^ ((numerator / denominator).log2 + 1) :=
    Nat.lt_log2_self
  have more : 2 ^ ((numerator / denominator).log2 + 1) ≤
      2 ^ (shift numerator denominator + 53) := by
    refine Nat.pow_le_pow_right (by decide) ?_
    rw [shift]
    omega
  have below := (Nat.div_lt_iff_lt_mul positive).mp (Nat.lt_of_lt_of_le high more)
  rw [step, Nat.shiftLeft_eq, Nat.shiftLeft_eq, Nat.one_mul]
  rw [Nat.pow_add] at below
  calc numerator < _ := below
    _ = _ := by ac_rfl

theorem step_le (shifted : shift numerator denominator ≠ 0) :
    (1 <<< 52) * step numerator denominator ≤ numerator := by
  have place : (numerator / denominator).log2 = shift numerator denominator + 52 := by
    rw [shift] at shifted ⊢
    omega
  have nonzero : numerator / denominator ≠ 0 := by
    intro zero
    rw [zero] at place
    have none : Nat.log2 0 = 0 := by decide
    omega
  have low := Nat.log2_self_le nonzero
  rw [place] at low
  have below := (Nat.le_div_iff_mul_le positive).mp low
  rw [step, Nat.shiftLeft_eq, Nat.shiftLeft_eq, Nat.one_mul]
  rw [Nat.pow_add] at below
  calc _ = _ := by ac_rfl
    _ ≤ numerator := below

theorem roundedQuotient_step_le :
    roundedQuotient numerator (step numerator denominator) ≤ 1 <<< 53 :=
  roundedQuotient_le (step_pos positive) (Nat.le_of_lt (lt_step positive))

theorem le_roundedQuotient_step (shifted : shift numerator denominator ≠ 0) :
    1 <<< 52 ≤ roundedQuotient numerator (step numerator denominator) := by
  refine Nat.le_trans ?_ (div_le_roundedQuotient _ _)
  exact (Nat.le_div_iff_mul_le (step_pos positive)).mpr (step_le positive shifted)

end

theorem shiftLeft_mul (value places factor : Nat) :
    (value <<< places) * factor = value * (factor <<< places) := by
  rw [Nat.shiftLeft_eq, Nat.shiftLeft_eq]
  ac_rfl

/-- A number below the least one that overflows is rounded to a finite one. -/
theorem nearest_lt_infinity {numerator denominator : Nat} (positive : 0 < denominator)
    (small : numerator < overflow * denominator) : nearest numerator denominator < infinity := by
  have quotient : numerator / denominator < overflow :=
    (Nat.div_lt_iff_lt_mul positive).mpr small
  have place : (numerator / denominator).log2 < 2098 := by
    rcases Nat.eq_zero_or_pos (numerator / denominator) with zero | nonzero
    · rw [zero]
      decide
    · have bound : overflow < 1 <<< 2098 := by decide +kernel
      rw [Nat.one_shiftLeft] at bound
      exact (Nat.log2_lt (Nat.ne_of_gt nonzero)).mpr (Nat.lt_trans quotient bound)
  have high : shift numerator denominator ≤ 2045 := by
    rw [shift]
    omega
  have limit : infinity = 2047 * 0x10000000000000 := by decide
  have rounded : roundedQuotient numerator (step numerator denominator) ≤ 0x20000000000000 :=
    roundedQuotient_step_le positive
  rw [nearest_eq, limit, Nat.shiftLeft_eq]
  rcases Nat.lt_or_eq_of_le high with low | last
  · omega
  · -- In the last binade the greatest digits would carry over into infinity.
    have less : roundedQuotient numerator (step numerator denominator) < 0x20000000000000 := by
      have twice := roundedQuotient_mul_le numerator (step numerator denominator)
      rw [overflow, shiftLeft_mul] at small
      rw [step, last, Nat.shiftLeft_succ] at twice ⊢
      generalize denominator <<< 2044 = half at small twice ⊢
      refine Nat.lt_of_not_le fun full => ?_
      have more := Nat.mul_le_mul_right (2 * half) full
      omega
    rw [last]
    omega

/-- What a magnitude counts is what its place and its digits say. -/
theorem scaled_binade {place digits : Nat} (few : digits ≤ 0x20000000000000)
    (leading : place ≠ 0 → 0x10000000000000 ≤ digits) :
    scaled (place * 0x10000000000000 + digits) = digits <<< place := by
  have parts {magnitude : Nat} (exponent fraction : Nat) (small : fraction < 0x10000000000000)
      (same : magnitude = exponent * 0x10000000000000 + fraction) : scaled magnitude =
        if exponent = 0 then fraction else (0x10000000000000 + fraction) <<< (exponent - 1) := by
    have above : magnitude / 2 ^ 52 = exponent := by omega
    have below : magnitude % (1 <<< 52) = fraction := by
      rw [show 1 <<< 52 = 0x10000000000000 from rfl]
      omega
    rw [scaled, Nat.shiftRight_eq_div_pow, above, below]
    rfl
  rcases Nat.lt_or_ge digits 0x10000000000000 with low | normal
  · have none : place = 0 := by omega
    rw [parts 0 digits low (by omega), none]
    rfl
  · rcases Nat.lt_or_eq_of_le few with within | carried
    · rw [parts (place + 1) (digits - 0x10000000000000) (by omega) (by omega),
        if_neg (Nat.succ_ne_zero _), Nat.add_sub_cancel' normal]
      rfl
    · rw [parts (place + 2) 0 (by omega) (by omega),
        if_neg (Nat.succ_ne_zero _), carried, show place + 2 - 1 = place + 1 from rfl,
        Nat.shiftLeft_eq, Nat.shiftLeft_eq, Nat.pow_succ]
      omega

theorem scaled_nearest {numerator denominator : Nat} (positive : 0 < denominator) :
    scaled (nearest numerator denominator) =
      roundedQuotient numerator (step numerator denominator) <<< shift numerator denominator := by
  rw [nearest_eq, Nat.shiftLeft_eq]
  exact scaled_binade (roundedQuotient_step_le positive) (le_roundedQuotient_step positive)

/-- Rounding a whole number of units makes it larger by at most one part in `2 ^ 53`. -/
theorem scaled_nearest_le (units : Nat) :
    0x20000000000000 * scaled (nearest units 1) ≤ 0x20000000000001 * units := by
  have twice := roundedQuotient_mul_le units (step units 1)
  have spacing : step units 1 = 2 ^ shift units 1 := by
    rw [step, Nat.shiftLeft_eq, Nat.one_mul]
  rw [scaled_nearest Nat.one_pos, Nat.shiftLeft_eq, ← spacing]
  by_cases shifted : shift units 1 = 0
  · rw [spacing, shifted] at twice ⊢
    omega
  · have far : 0x10000000000000 * step units 1 ≤ units := step_le Nat.one_pos shifted
    omega

/-- Rounding does not go below a power of two. -/
theorem le_scaled_nearest {units place : Nat} (large : 1 <<< place ≤ units) :
    1 <<< place ≤ scaled (nearest units 1) := by
  rw [Nat.one_shiftLeft] at large ⊢
  rw [scaled_nearest Nat.one_pos, Nat.shiftLeft_eq]
  by_cases shifted : shift units 1 = 0
  · have whole := div_le_roundedQuotient units (step units 1)
    rw [step, shifted, Nat.shiftLeft_zero, Nat.div_one] at whole
    rw [step, shifted, Nat.shiftLeft_zero, Nat.pow_zero, Nat.mul_one]
    exact Nat.le_trans large whole
  · have digits : 2 ^ 52 ≤ roundedQuotient units (step units 1) :=
      le_roundedQuotient_step Nat.one_pos shifted
    have nonzero : units ≠ 0 := Nat.ne_of_gt (Nat.lt_of_lt_of_le (Nat.two_pow_pos place) large)
    have high : place ≤ 52 + shift units 1 := by
      have first : place ≤ units.log2 := (Nat.le_log2 nonzero).mpr large
      rw [shift, Nat.div_one] at shifted ⊢
      omega
    calc 2 ^ place ≤ 2 ^ (52 + shift units 1) := Nat.pow_le_pow_right (by decide) high
      _ = 2 ^ 52 * 2 ^ shift units 1 := Nat.pow_add ..
      _ ≤ _ := Nat.mul_le_mul_right _ digits

/-! ### Finite results -/

theorem shiftLeft_le_shiftLeft {a b places more : Nat} (less : a ≤ b) (fewer : places ≤ more) :
    a <<< places ≤ b <<< more := by
  rw [Nat.shiftLeft_eq, Nat.shiftLeft_eq]
  exact Nat.mul_le_mul less (Nat.pow_le_pow_right (by decide) fewer)

theorem scaled_le {magnitude below : Nat} (finite : magnitude + below < infinity)
    (few : below < 0x10000000000000) :
    scaled magnitude ≤ (0x1FFFFFFFFFFFFF - below) <<< 2045 := by
  have limit : infinity = 2047 * 0x10000000000000 := by decide
  rw [limit] at finite
  obtain ⟨place, digits, same, high, leading⟩ : ∃ place digits,
      magnitude = place * 0x10000000000000 + digits ∧ digits < 0x20000000000000 ∧
        (place ≠ 0 → 0x10000000000000 ≤ digits) := by
    by_cases low : magnitude < 0x10000000000000
    · exact ⟨0, magnitude, by omega, by omega, by omega⟩
    · exact ⟨magnitude / 0x10000000000000 - 1, 0x10000000000000 + magnitude % 0x10000000000000,
        by omega, by omega, by omega⟩
  rw [same, scaled_binade (Nat.le_of_lt high) leading]
  rcases Nat.lt_or_ge place 2045 with lower | last
  · calc digits <<< place ≤ 0x20000000000000 <<< 2044 :=
          shiftLeft_le_shiftLeft (Nat.le_of_lt high) (by omega)
      _ = 0x10000000000000 <<< 2045 := (Nat.shiftLeft_succ_inside 0x10000000000000 2044).symm
      _ ≤ _ := shiftLeft_le_shiftLeft (by omega) (Nat.le_refl _)
  · exact shiftLeft_le_shiftLeft (by omega) (by omega)

theorem scaled_lt_overflow {magnitude : Nat} (finite : magnitude < infinity) :
    scaled magnitude < overflow :=
  Nat.lt_of_le_of_lt (@scaled_le magnitude 0 finite (by decide)) (by decide +kernel)

/-- A double divided by one that is not below one stays finite. -/
theorem quotient_lt_infinity {a b : Nat} (finite : a < infinity) (large : unitsPerOne ≤ scaled b) :
    quotient a b < infinity := by
  have positive : 0 < scaled b := Nat.lt_of_lt_of_le (by decide +kernel) large
  refine nearest_lt_infinity positive ?_
  calc scaled a * unitsPerOne ≤ scaled a * scaled b := Nat.mul_le_mul_left _ large
    _ < overflow * scaled b := Nat.mul_lt_mul_of_pos_right (scaled_lt_overflow finite) positive

end Binary64

end LanguageClient
