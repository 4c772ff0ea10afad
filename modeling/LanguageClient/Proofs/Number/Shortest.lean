import LanguageClient.Number.Shortest
import LanguageClient.Proofs.Number.Rounding

set_option autoImplicit false

namespace LanguageClient

namespace Decimal

def AtMost (number : Decimal) (numerator denominator : Nat) : Prop :=
  number.significand * Nat.pow 10 number.exponent.toNat * denominator ≤
    numerator * Nat.pow 10 (-number.exponent).toNat

theorem AtMost.shorten {significand numerator denominator : Nat} {exponent : Int}
    (least : AtMost ⟨10 * significand, exponent⟩ numerator denominator) :
    AtMost ⟨significand, exponent + 1⟩ numerator denominator := by
  unfold AtMost at least ⊢
  dsimp only at least ⊢
  by_cases down : exponent < 0
  · obtain ⟨places, same⟩ : ∃ places : Nat, exponent = -((places + 1 : Nat) : Int) :=
      ⟨(-exponent).toNat - 1, by omega⟩
    subst same
    rw [show (-((places + 1 : Nat) : Int)).toNat = 0 by omega,
      show (- -((places + 1 : Nat) : Int)).toNat = places + 1 by omega] at least
    rw [show (-((places + 1 : Nat) : Int) + 1).toNat = 0 by omega,
      show (-(-((places + 1 : Nat) : Int) + 1)).toNat = places by omega]
    refine Nat.le_of_mul_le_mul_left ?_ (by decide : 0 < 10)
    calc 10 * (significand * Nat.pow 10 0 * denominator)
        = 10 * significand * Nat.pow 10 0 * denominator := by ac_rfl
      _ ≤ numerator * Nat.pow 10 (places + 1) := least
      _ = numerator * (Nat.pow 10 places * 10) := rfl
      _ = 10 * (numerator * Nat.pow 10 places) := by ac_rfl
  · obtain ⟨places, rfl⟩ := Int.eq_ofNat_of_zero_le (Int.not_lt.mp down)
    rw [show (-(places : Int)).toNat = 0 by omega, Int.toNat_natCast] at least
    rw [show (-((places : Int) + 1)).toNat = 0 by omega,
      show ((places : Int) + 1).toNat = places + 1 by omega]
    calc significand * Nat.pow 10 (places + 1) * denominator
        = significand * (Nat.pow 10 places * 10) * denominator := rfl
      _ = 10 * significand * Nat.pow 10 places * denominator := by ac_rfl
      _ ≤ numerator * Nat.pow 10 0 := least

theorem AtMost.strip {number : Decimal} {numerator denominator : Nat}
    (least : number.AtMost numerator denominator) (positive : 0 < number.significand)
    (steps : Nat) :
    (strip steps number).AtMost numerator denominator ∧ 0 < (strip steps number).significand := by
  induction steps generalizing number with
  | zero => exact ⟨least, positive⟩
  | succ steps ih =>
    obtain ⟨significand, exponent⟩ := number
    rw [Decimal.strip]
    split
    · rename_i zero
      dsimp only at zero positive
      have shorter : significand = 10 * (significand / 10) := by omega
      rw [shorter] at least
      exact ih least.shorten (by dsimp only; omega)
    · exact ⟨least, positive⟩

/-- The leading digits of a decimal, put in their place, are no more than the decimal is. -/
theorem AtMost.mul_pow_le {number : Decimal} {numerator denominator value places : Nat}
    (least : number.AtMost numerator denominator)
    (leading : value * Nat.pow 10 places ≤ number.significand)
    (whole : 0 ≤ number.exponent + places) :
    value * Nat.pow 10 (number.exponent + places).toNat * denominator ≤ numerator := by
  obtain ⟨significand, exponent⟩ := number
  unfold AtMost at least
  dsimp only at least leading whole ⊢
  by_cases down : exponent < 0
  · obtain ⟨lower, further, rfl, rfl⟩ : ∃ lower further : Nat,
        exponent = -(lower : Int) ∧ places = further + lower :=
      ⟨(-exponent).toNat, places - (-exponent).toNat, by omega, by omega⟩
    rw [show (-(lower : Int)).toNat = 0 by omega, Int.neg_neg, Int.toNat_natCast] at least
    rw [show (-(lower : Int) + (further + lower : Nat)).toNat = further by omega]
    refine Nat.le_of_mul_le_mul_right ?_ (Nat.pow_pos (n := lower) (by decide : 0 < 10))
    calc value * Nat.pow 10 further * denominator * 10 ^ lower
        = value * (10 ^ further * 10 ^ lower) * denominator := by
          rw [show Nat.pow 10 further = 10 ^ further from rfl]
          ac_rfl
      _ = value * 10 ^ (further + lower) * denominator := by rw [Nat.pow_add]
      _ ≤ significand * denominator := Nat.mul_le_mul_right _ leading
      _ = significand * Nat.pow 10 0 * denominator := by
          rw [show Nat.pow 10 0 = 1 from rfl, Nat.mul_one]
      _ ≤ numerator * 10 ^ lower := least
  · obtain ⟨upper, rfl⟩ := Int.eq_ofNat_of_zero_le (Int.not_lt.mp down)
    rw [show (-(upper : Int)).toNat = 0 by omega, Int.toNat_natCast] at least
    rw [show ((upper : Int) + (places : Int)).toNat = places + upper by omega]
    calc value * 10 ^ (places + upper) * denominator
        = value * 10 ^ places * 10 ^ upper * denominator := by
          rw [Nat.pow_add]
          ac_rfl
      _ ≤ significand * 10 ^ upper * denominator :=
          Nat.mul_le_mul_right _ (Nat.mul_le_mul_right _ leading)
      _ ≤ numerator * Nat.pow 10 0 := least
      _ = numerator := Nat.mul_one _

end Decimal

namespace Binary64

theorem scaled_pos {magnitude : Nat} (positive : 0 < magnitude) : 0 < scaled magnitude := by
  unfold scaled
  dsimp only
  split
  · rename_i low
    rw [Nat.shiftRight_eq_div_pow] at low
    have small : magnitude < 1 <<< 52 := by
      rw [Nat.shiftLeft_eq]
      omega
    rw [Nat.mod_eq_of_lt small]
    exact positive
  · rw [Nat.shiftLeft_eq]
    exact Nat.mul_pos (Nat.add_pos_left (by decide) _) (Nat.two_pow_pos _)

/-- Of two neighbours on a grid the one that is chosen meets what is asked. -/
theorem meets_of_chosen (meets : Nat → Bool) {target spacing point : Nat}
    (chosen : (match meets (target / spacing), meets (target / spacing + 1) with
      | true, true => some (roundedQuotient target spacing)
      | true, false => some (target / spacing)
      | false, true => some (target / spacing + 1)
      | false, false => none) = some point) : meets point = true := by
  cases lower : meets (target / spacing) with
  | true =>
    cases upper : meets (target / spacing + 1) with
    | true =>
      rw [lower, upper, Option.some.injEq] at chosen
      rw [← chosen, roundedQuotient]
      split
      · exact upper
      · exact lower
    | false =>
      rw [lower, upper, Option.some.injEq] at chosen
      rw [← chosen, lower]
  | false =>
    cases upper : meets (target / spacing + 1) with
    | true =>
      rw [lower, upper, Option.some.injEq] at chosen
      rw [← chosen, upper]
    | false =>
      rw [lower, upper] at chosen
      cases chosen

/-- A decimal of a grid that rounds to a double is at most half a step above it. -/
theorem atMost_of_onGrid {magnitude : Nat} (positive : 0 < magnitude) {exponent : Int}
    {number : Decimal} (found : onGrid magnitude exponent = some number) :
    number.AtMost (scaled magnitude + scaled (magnitude + 1)) (2 * unitsPerOne) ∧
      0 < number.significand := by
  have down : (if exponent < 0 then Nat.pow 10 exponent.natAbs else 1) =
      Nat.pow 10 (-exponent).toNat := by
    split
    · rw [show exponent.natAbs = (-exponent).toNat by omega]
    · rw [show (-exponent).toNat = 0 by omega, show Nat.pow 10 0 = 1 from rfl]
  have up : (if exponent < 0 then 1 else Nat.pow 10 exponent.natAbs) =
      Nat.pow 10 exponent.toNat := by
    split
    · rw [show exponent.toNat = 0 by omega, show Nat.pow 10 0 = 1 from rfl]
    · rw [show exponent.natAbs = exponent.toNat by omega]
  unfold onGrid at found
  dsimp only at found
  rw [down, up, Option.map_eq_some_iff] at found
  obtain ⟨point, chosen, rfl⟩ := found
  change point * Nat.pow 10 exponent.toNat * (2 * unitsPerOne) ≤
    (scaled magnitude + scaled (magnitude + 1)) * Nat.pow 10 (-exponent).toNat ∧ 0 < point
  have one : 0 < Nat.pow 10 (-exponent).toNat := Nat.pow_pos (by decide)
  generalize Nat.pow 10 (-exponent).toNat = lower at chosen one ⊢
  generalize Nat.pow 10 exponent.toNat = upper at chosen ⊢
  have rounds := meets_of_chosen (fun point =>
    if magnitude % 2 = 0 then
      (scaled (magnitude - 1) + scaled magnitude) * lower ≤ 2 * point * (unitsPerOne * upper) &&
        2 * point * (unitsPerOne * upper) ≤ (scaled magnitude + scaled (magnitude + 1)) * lower
    else
      (scaled (magnitude - 1) + scaled magnitude) * lower < 2 * point * (unitsPerOne * upper) &&
        2 * point * (unitsPerOne * upper) < (scaled magnitude + scaled (magnitude + 1)) * lower)
    chosen
  have between : (scaled (magnitude - 1) + scaled magnitude) * lower ≤
      2 * point * (unitsPerOne * upper) ∧
        2 * point * (unitsPerOne * upper) ≤
          (scaled magnitude + scaled (magnitude + 1)) * lower := by
    split at rounds
    · simpa only [Bool.and_eq_true, decide_eq_true_eq] using rounds
    · simp only [Bool.and_eq_true, decide_eq_true_eq] at rounds
      exact ⟨Nat.le_of_lt rounds.1, Nat.le_of_lt rounds.2⟩
  constructor
  · calc point * upper * (2 * unitsPerOne) = 2 * point * (unitsPerOne * upper) := by ac_rfl
      _ ≤ _ := between.2
  · refine Nat.pos_of_ne_zero fun zero => ?_
    have above := between.1
    rw [zero, Nat.mul_zero, Nat.zero_mul] at above
    have some : 0 < (scaled (magnitude - 1) + scaled magnitude) * lower :=
      Nat.mul_pos (Nat.add_pos_right _ (scaled_pos positive)) one
    omega

/-- What is printed for a double is at most half a step above it. -/
theorem atMost_shortest {magnitude : Nat} (positive : 0 < magnitude) :
    shortest magnitude = ⟨0, 17⟩ ∨
      (shortest magnitude).AtMost (scaled magnitude + scaled (magnitude + 1)) (2 * unitsPerOne) ∧
        0 < (shortest magnitude).significand := by
  unfold shortest
  dsimp only
  cases found : (List.range 17).findSome? fun further : Nat =>
      onGrid magnitude (leadingPower (scaled magnitude) unitsPerOne - further) with
  | none => exact .inl rfl
  | some number =>
    obtain ⟨further, -, same⟩ := List.exists_of_findSome?_eq_some found
    obtain ⟨least, nonzero⟩ := atMost_of_onGrid positive same
    exact .inr (least.strip nonzero 17)

end Binary64

end LanguageClient
