import LanguageClient.Message.Basic
import LanguageClient.Proofs.Json.Range

set_option autoImplicit false

/-!
The text of a double is a literal, and what it stands for is never out of range. It lies at most
half a step above the double, so that only the two greatest doubles have to be looked at by
themselves.
-/

namespace LanguageClient

namespace Json

namespace Literal

/-- Bytes that stand for a double, also with a minus sign before them. -/
def Readable (bytes : Bytes) : Prop :=
  ∀ negative, ∃ literal real, readUnsigned negative bytes = .ok (literal, []) ∧
    literal.value = .ok (.double real)

theorem readable_of_point {whole row : List Char} (digital : ∀ c ∈ whole, c.isDigit = true)
    (leads : Leads whole) (short : whole.length ≤ 19) (fractional : IsRow row) :
    Readable (Utf8.encode (whole ++ '.' :: row)) := by
  intro negative
  have same : whole ++ '.' :: row = text whole (some row) none := by
    simp [text, exponentText]
  rw [same]
  obtain ⟨real, stands⟩ := exists_value_of_point negative digital short row
  exact ⟨_, real, readUnsigned_text negative digital leads
    (fun _ same => Option.some.inj same ▸ fractional) (by rintro part ⟨⟩), stands⟩

theorem readable_of_zero {row : List Char} (fractional : IsRow row) :
    Readable (Utf8.encode ('0' :: '.' :: row)) :=
  @readable_of_point ['0'] row (List.forall_mem_singleton.mpr rfl) (.inl rfl) (by decide) fractional

theorem digital_zeros (count : Nat) : ∀ c ∈ List.replicate count '0', c.isDigit = true := by
  intro c mem
  rw [List.eq_of_mem_replicate mem]
  rfl

section Chars

variable {number : Decimal} {c : Char} {rest : List Char}
  (written : Decimal.digits number.significand = c :: rest)

include written

theorem power_of_written :
    ((Decimal.digits number.significand).length : Int) - 1 + number.exponent =
      number.exponent + rest.length := by
  rw [written, List.length_cons]
  omega

theorem readable_of_positional (positive : 0 < number.significand)
    (inside : doubleLayout.leastPower ≤ number.exponent + rest.length ∧
      number.exponent + rest.length < doubleLayout.powerLimit) :
    Readable (Utf8.encode (number.chars doubleLayout)) := by
  have digital : ∀ d ∈ c :: rest, d.isDigit = true := (written ▸ isRow_digits _ : IsRow _).digital
  have other : c ≠ '0' := ne_zero_of_written positive written
  unfold Decimal.chars
  dsimp only
  rw [power_of_written written, written, if_pos inside]
  simp only [doubleLayout] at inside
  split
  · rename_i whole
    have short : (c :: rest ++ List.replicate number.exponent.toNat '0').length ≤ 19 := by
      rw [List.length_append, List.length_cons, List.length_replicate]
      omega
    exact readable_of_point (List.forall_mem_append.mpr ⟨digital, digital_zeros _⟩)
      (.inr ⟨c, _, rfl, other⟩) short ⟨List.forall_mem_singleton.mpr rfl, List.cons_ne_nil _ _⟩
  · split
    · rename_i broken upper
      have short : ((c :: rest).take ((number.exponent + rest.length).toNat + 1)).length ≤ 19 := by
        rw [List.length_take]
        omega
      have nonempty : (c :: rest).drop ((number.exponent + rest.length).toNat + 1) ≠ [] := by
        intro empty
        have all := List.drop_eq_nil_iff.mp empty
        rw [List.length_cons] at all
        omega
      exact readable_of_point (fun d mem => digital d (List.mem_of_mem_take mem))
        (.inr ⟨c, _, rfl, other⟩) short
        ⟨fun d mem => digital d (List.mem_of_mem_drop mem), nonempty⟩
    · exact readable_of_zero ⟨List.forall_mem_append.mpr ⟨digital_zeros _, digital⟩, by simp⟩

theorem chars_of_outside {layout : Decimal.Layout}
    (outside : ¬ (layout.leastPower ≤ number.exponent + rest.length ∧
      number.exponent + rest.length < layout.powerLimit)) :
    number.chars layout =
      text [c] (if rest = [] then none else some rest)
        (some (decide (number.exponent + rest.length < 0),
          Decimal.digits (number.exponent + rest.length).natAbs)) := by
  unfold Decimal.chars
  dsimp only
  rw [power_of_written written, written, if_neg outside]
  cases rest <;> simp [text, exponentText]

theorem readable_of_exponent {numerator : Nat} (positive : 0 < number.significand)
    (least : number.AtMost numerator (2 * Binary64.unitsPerOne))
    (bounded : numerator ≤ Binary64.twiceSafe)
    (outside : ¬ (doubleLayout.leastPower ≤ number.exponent + rest.length ∧
      number.exponent + rest.length < doubleLayout.powerLimit)) :
    Readable (Utf8.encode (number.chars doubleLayout)) := by
  intro negative
  have digital : ∀ d ∈ c :: rest, d.isDigit = true := (written ▸ isRow_digits _ : IsRow _).digital
  obtain ⟨first, later⟩ := List.forall_mem_cons.mp digital
  obtain ⟨real, stands⟩ := @exists_value_of_exponent negative _ _ c rest
    (if rest = [] then none else some rest) written (by cases rest <;> rfl) positive least bounded
  have fractional : ∀ row ∈ (if rest = [] then none else some rest), IsRow row := by
    intro row mem
    split at mem
    · cases mem
    · rename_i some
      exact Option.some.inj mem ▸ ⟨later, some⟩
  have exponential : ∀ part ∈ some (decide (number.exponent + (rest.length : Int) < 0),
      Decimal.digits (number.exponent + rest.length).natAbs), IsRow part.2 := by
    rintro part ⟨⟩
    exact isRow_digits _
  rw [chars_of_outside written outside]
  exact ⟨_, real, readUnsigned_text negative (List.forall_mem_singleton.mpr first)
    (.inr ⟨c, [], rfl, ne_zero_of_written positive written⟩) fractional exponential, stands⟩

end Chars

/-- What is printed of a decimal is readable if it is below the numbers that overflow. -/
theorem readable_chars {number : Decimal} {numerator : Nat} (positive : 0 < number.significand)
    (least : number.AtMost numerator (2 * Binary64.unitsPerOne))
    (bounded : numerator ≤ Binary64.twiceSafe) :
    Readable (Utf8.encode (number.chars doubleLayout)) := by
  obtain ⟨c, rest, written⟩ :=
    List.exists_cons_of_ne_nil (isRow_digits number.significand).nonempty
  by_cases inside : doubleLayout.leastPower ≤ number.exponent + rest.length ∧
      number.exponent + rest.length < doubleLayout.powerLimit
  · exact readable_of_positional written positive inside
  · exact readable_of_exponent written positive least bounded inside

/-- The texts of the two greatest doubles are both read as the greatest one. -/
theorem readable_of_largest {magnitude : Nat}
    (largest : magnitude = Binary64.infinity - 1 ∨ magnitude = Binary64.infinity - 2) :
    Readable (Utf8.encode ((Binary64.shortest magnitude).chars doubleLayout)) := by
  intro negative
  rcases largest with rfl | rfl
  · refine ⟨⟨negative, [1], some [7, 9, 7, 6, 9, 3, 1, 3, 4, 8, 6, 2, 3, 1, 5, 7],
      some (false, [3, 0, 8])⟩, ⟨negative, Binary64.infinity - 1, by decide⟩, ?_, ?_⟩ <;>
    cases negative <;> decide +kernel
  · refine ⟨⟨negative, [1], some [7, 9, 7, 6, 9, 3, 1, 3, 4, 8, 6, 2, 3, 1, 5, 5],
      some (false, [3, 0, 8])⟩, ⟨negative, Binary64.infinity - 1, by decide⟩, ?_, ?_⟩ <;>
    cases negative <;> decide +kernel

theorem readable_magnitude {magnitude : Nat} (finite : magnitude < Binary64.infinity) :
    Readable (Utf8.encode (if magnitude = 0 then ['0', '.', '0']
      else (Binary64.shortest magnitude).chars doubleLayout)) := by
  split
  · exact readable_of_zero ⟨List.forall_mem_singleton.mpr rfl, List.cons_ne_nil _ _⟩
  · rename_i nonzero
    by_cases largest : magnitude = Binary64.infinity - 1 ∨ magnitude = Binary64.infinity - 2
    · exact readable_of_largest largest
    · rcases Binary64.atMost_shortest (Nat.pos_of_ne_zero nonzero) with nothing | ⟨least, positive⟩
      · rw [nothing]
        intro negative
        refine ⟨⟨negative, [0], none, some (false, [1, 7])⟩, .zero negative, ?_, ?_⟩ <;>
        cases negative <;> decide +kernel
      · have here := @Binary64.scaled_le magnitude 2 (by omega) (by decide)
        have above := @Binary64.scaled_le (magnitude + 1) 1 (by omega) (by decide)
        have limit : (0x1FFFFFFFFFFFFF - 2) <<< 2045 + (0x1FFFFFFFFFFFFF - 1) <<< 2045 ≤
            Binary64.twiceSafe := by decide +kernel
        exact readable_chars positive least (Nat.le_trans (Nat.add_le_add here above) limit)

/-- A double is printed as a literal that stands for a double. -/
theorem exists_writes_double (real : Binary64) :
    ∃ other, Writes (Utf8.encode (numberChars (.double real))) (.double other) := by
  obtain ⟨negative, magnitude, finite⟩ := real
  obtain ⟨literal, other, found, stands⟩ := readable_magnitude finite negative
  refine ⟨other, literal, ?_, stands⟩
  rw [numberChars, Binary64.chars]
  cases negative with
  | true => exact found
  | false => exact read_of_readUnsigned found

end Literal

end Json

end LanguageClient
