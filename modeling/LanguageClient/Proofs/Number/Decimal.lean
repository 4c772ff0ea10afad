import LanguageClient.Number.Decimal

set_option autoImplicit false

namespace LanguageClient

namespace Decimal

theorem isDigit_of_mem_digits {value : Nat} {c : Char} (mem : c ∈ digits value) :
    c.isDigit = true :=
  Nat.isDigit_of_mem_toDigits (by decide) (by decide) mem

theorem bounds_of_isDigit {c : Char} (digital : c.isDigit = true) :
    48 ≤ c.toNat ∧ c.toNat ≤ 57 := by
  simp only [Char.isDigit, Bool.and_eq_true, decide_eq_true_eq, ge_iff_le,
    UInt32.le_iff_toNat_le] at digital
  exact digital

theorem ofDigitChars_digits (value : Nat) : Nat.ofDigitChars 10 (digits value) 0 = value :=
  Nat.ofDigitChars_toDigits (by decide) (by decide)

theorem unsigned_eq (text : List Char) :
    (∃ rest, text = '+' :: rest ∧ unsigned text = rest) ∨ unsigned text = text := by
  unfold unsigned
  split
  · exact .inl ⟨_, rfl, rfl⟩
  · exact .inr rfl

theorem unsigned_of_digital {text : List Char} (digital : ∀ c ∈ text, c.isDigit = true) :
    unsigned text = text := by
  obtain ⟨rest, rfl, -⟩ | same := unsigned_eq text
  · exact absurd (digital '+' (List.mem_cons_self ..)) (by decide)
  · exact same

theorem value?_digits (value : Nat) : value? (unsigned (digits value)) = some value := by
  have digital : ∀ c ∈ digits value, c.isDigit = true := fun c mem => isDigit_of_mem_digits mem
  have number : isNumber (digits value) = true := by
    simp only [isNumber, Bool.and_eq_true, decide_eq_true_eq, List.all_eq_true]
    exact ⟨Nat.toDigits_ne_nil, digital⟩
  rw [unsigned_of_digital digital, value?, if_pos number, ofDigitChars_digits]

theorem below?_digits {value bound : Nat} (small : value < bound) :
    below? bound (digits value) = some value := by
  rw [below?_eq, value?_digits, Option.filter_some]
  simp [small]

/-- A text spells a number with digits, of which there is at least one, and perhaps a plus sign. -/
inductive Spells : List Char → Nat → Prop where
  | plain {row : List Char} (nonempty : row ≠ []) (digital : ∀ c ∈ row, c.isDigit = true) :
      Spells row (Nat.ofDigitChars 10 row 0)
  | signed {row : List Char} (nonempty : row ≠ []) (digital : ∀ c ∈ row, c.isDigit = true) :
      Spells ('+' :: row) (Nat.ofDigitChars 10 row 0)

theorem value?_eq_some_iff {text : List Char} {value : Nat} :
    value? text = some value ↔
      text ≠ [] ∧ (∀ c ∈ text, c.isDigit = true) ∧ Nat.ofDigitChars 10 text 0 = value := by
  simp only [value?, isNumber, Option.ite_none_right_eq_some, Option.some.injEq,
    Bool.and_eq_true, decide_eq_true_eq, List.all_eq_true, and_assoc]

theorem value?_unsigned_eq_some_iff {text : List Char} {value : Nat} :
    value? (unsigned text) = some value ↔ Spells text value := by
  rw [value?_eq_some_iff]
  constructor
  · rintro ⟨nonempty, digital, rfl⟩
    obtain ⟨rest, rfl, same⟩ | same := unsigned_eq text
    · rw [same] at nonempty digital ⊢
      exact .signed nonempty digital
    · rw [same] at nonempty digital ⊢
      exact .plain nonempty digital
  · intro spells
    cases spells with
    | signed nonempty digital => exact ⟨nonempty, digital, rfl⟩
    | plain nonempty digital =>
      rw [unsigned_of_digital digital]
      exact ⟨nonempty, digital, rfl⟩

/-- Reading takes the numbers that are spelled, up to the bound. -/
theorem below?_eq_some_iff {bound : Nat} {text : List Char} {value : Nat} :
    below? bound text = some value ↔ Spells text value ∧ value < bound := by
  rw [below?_eq, Option.filter_eq_some_iff, value?_unsigned_eq_some_iff, decide_eq_true_iff]

theorem spells_digits (value : Nat) : Spells (digits value) value :=
  value?_unsigned_eq_some_iff.mp (value?_digits value)

theorem head?_digits_ne_zero {value : Nat} (positive : 0 < value) :
    (digits value).head? ≠ some '0' := by
  induction value using Nat.strongRecOn with
  | ind value ih =>
    by_cases small : value < 10
    · have zero : ∀ digit < 10, digit.digitChar = '0' → digit = 0 := by decide
      rw [digits, Nat.toDigits_of_lt_base small]
      intro same
      rw [zero value small (Option.some.inj same)] at positive
      exact absurd positive (by decide)
    · have long : digits value = digits (value / 10) ++ [(value % 10).digitChar] :=
        Nat.toDigits_of_base_le (by decide) (by omega)
      have nonempty : digits (value / 10) ≠ [] := Nat.toDigits_ne_nil
      obtain ⟨c, rest, begun⟩ := List.exists_cons_of_ne_nil nonempty
      have earlier := ih (value / 10) (by omega) (by omega)
      rw [begun] at earlier
      rw [long, begun]
      exact earlier

theorem le_ofDigitChars (text : List Char) (start : Nat) :
    start ≤ Nat.ofDigitChars 10 text start := by
  induction text generalizing start with
  | nil => exact Nat.le_refl start
  | cons c rest ih =>
    have further := ih (10 * start + (c.toNat - '0'.toNat))
    rw [Nat.ofDigitChars_cons]
    omega

end Decimal

end LanguageClient
