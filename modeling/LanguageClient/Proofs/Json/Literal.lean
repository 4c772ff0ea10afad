import LanguageClient.Json.Literal
import LanguageClient.Json.Printer
import LanguageClient.Proofs.Number.Decimal
import LanguageClient.Proofs.Text.Utf8

set_option autoImplicit false

namespace LanguageClient

namespace Json

def Literal.Ends (bytes : Bytes) : Prop :=
  ∀ byte ∈ bytes.head?, isDigit byte = false ∧ byte ≠ 0x2E ∧ byte ≠ 0x65 ∧ byte ≠ 0x45

/-- A reader that takes bytes off the front, and that reads the same when more follows which does
not go on with what it has read. -/
def Reader.Stable {α : Type} (reader : Reader α) : Prop :=
  ∀ ⦃input value rest⦄, reader input = .ok (value, rest) →
    rest <:+ input ∧
      ∀ more, (rest = [] → Literal.Ends more) → reader (input ++ more) = .ok (value, rest ++ more)

namespace Reader

theorem exists_of_bind {ε α β : Type} {result : Except ε α} {next : α → Except ε β} {value : β}
    (read : (result >>= next) = .ok value) :
    ∃ inner, result = .ok inner ∧ next inner = .ok value := by
  cases result with
  | error error => cases read
  | ok inner => exact ⟨inner, rfl, read⟩

theorem exists_of_map {ε α β : Type} {result : Except ε α} {f : α → β} {value : β}
    (read : result.map f = .ok value) : ∃ inner, result = .ok inner ∧ f inner = value := by
  cases result with
  | error error => cases read
  | ok inner => exact ⟨inner, rfl, Except.ok.inj read⟩

theorem Stable.bind {α β : Type} {first : Reader α} {next : α → Reader β} (start : first.Stable)
    (goes : ∀ value, (next value).Stable) :
    Stable fun input => first input >>= fun (value, rest) => next value rest := by
  intro input value rest read
  obtain ⟨⟨inner, left⟩, early, late⟩ := exists_of_bind read
  obtain ⟨outer, same⟩ := start early
  obtain ⟨inside, later⟩ := goes inner late
  refine ⟨inside.trans outer, fun more ends => ?_⟩
  have whole : first (input ++ more) = .ok (inner, left ++ more) := by
    refine same more fun nothing => ends ?_
    rw [nothing] at inside
    exact List.suffix_nil.mp inside
  dsimp only
  rw [whole]
  exact later more ends

theorem Stable.pure {α : Type} (value : α) : Stable fun input => .ok (value, input) := by
  intro input value rest read
  cases read
  exact ⟨List.suffix_rfl, fun _ _ => rfl⟩

theorem Stable.map {α β : Type} {reader : Reader α} (stable : reader.Stable) (f : α → β) :
    Stable fun input => (reader input).map fun (value, rest) => (f value, rest) := by
  intro input value rest read
  obtain ⟨⟨inner, left⟩, found, same⟩ := exists_of_map read
  obtain ⟨rfl, rfl⟩ := Prod.mk.inj same
  obtain ⟨inside, same⟩ := stable found
  refine ⟨inside, fun more ends => ?_⟩
  dsimp only
  rw [same more ends]
  rfl

end Reader

namespace Literal

open Reader

theorem takeDigits_of_ends {more : Bytes} (ends : Ends more) : takeDigits more = ([], more) := by
  cases more with
  | nil => rfl
  | cons byte rest =>
    have other : isDigit byte = false := (ends byte rfl).1
    simp [takeDigits, other]

theorem takeDigits_cons {byte : UInt8} (digital : isDigit byte = true) (rest : Bytes) :
    takeDigits (byte :: rest) = (digit byte :: (takeDigits rest).1, (takeDigits rest).2) := by
  simp [takeDigits, digital]

theorem takeDigits_append {input rest : Bytes} {digits : List Nat} (more : Bytes)
    (taken : takeDigits input = (digits, rest)) (ends : rest = [] → Ends more) :
    takeDigits (input ++ more) = (digits, rest ++ more) := by
  induction input generalizing digits with
  | nil =>
    cases taken
    exact takeDigits_of_ends (ends rfl)
  | cons byte tail ih =>
    cases digital : isDigit byte with
    | true =>
      rw [takeDigits_cons digital] at taken
      obtain ⟨rfl, left⟩ := Prod.mk.inj taken
      rw [List.cons_append, takeDigits_cons digital, ih (Prod.ext rfl left)]
    | false =>
      have stays (input : Bytes) : takeDigits (byte :: input) = ([], byte :: input) := by
        simp [takeDigits, digital]
      rw [stays] at taken
      cases taken
      exact stays _

theorem suffix_of_takeDigits {input rest : Bytes} {digits : List Nat}
    (taken : takeDigits input = (digits, rest)) : rest <:+ input := by
  cases taken
  exact List.dropWhile_suffix isDigit

theorem stable_readDigits : Stable readDigits := by
  intro input digits rest read
  cases input with
  | nil => cases read
  | cons byte tail =>
    rw [readDigits] at read
    split at read
    · rename_i digital
      have taken : takeDigits (byte :: tail) = (digits, rest) := Except.ok.inj read
      refine ⟨suffix_of_takeDigits taken, fun more ends => ?_⟩
      rw [List.cons_append, readDigits, if_pos digital, ← List.cons_append,
        takeDigits_append more taken ends]
    · cases read

theorem stable_readWhole : Stable readWhole := by
  intro input digits rest read
  cases input with
  | nil => cases read
  | cons byte tail =>
    simp only [readWhole, List.cons_append] at read ⊢
    split at read
    · rename_i zero
      simp only [zero, if_true]
      cases tail with
      | nil =>
        cases read
        refine ⟨List.nil_suffix, fun more ends => ?_⟩
        cases more with
        | nil => rfl
        | cons next more =>
          have other : isDigit next = false := (ends rfl next rfl).1
          simp [other]
      | cons next tail =>
        dsimp only at read
        split at read
        · cases read
        · rename_i other
          cases read
          exact ⟨List.suffix_cons _ _, fun more _ => by simp [other]⟩
    · rename_i nonzero
      split at read
      · rename_i digital
        have taken : takeDigits (byte :: tail) = (digits, rest) := Except.ok.inj read
        refine ⟨suffix_of_takeDigits taken, fun more ends => ?_⟩
        rw [if_neg nonzero, if_pos digital, ← List.cons_append, takeDigits_append more taken ends]
      · cases read

/-- A part that is there only behind its mark. -/
theorem stable_optional {α : Type} {reader : Reader (Option α)} (marks : UInt8 → Prop)
    {inner : Reader (Option α)} (absent : reader [] = .ok (none, []))
    (unmarked : ∀ byte rest, ¬ marks byte → reader (byte :: rest) = .ok (none, byte :: rest))
    (marked : ∀ byte rest, marks byte → reader (byte :: rest) = inner rest)
    (stable : Stable inner) (apart : ∀ bytes, Ends bytes → ∀ byte ∈ bytes.head?, ¬ marks byte) :
    Stable reader := by
  intro input value rest read
  cases input with
  | nil =>
    rw [absent] at read
    cases read
    refine ⟨List.suffix_rfl, fun more ends => ?_⟩
    cases more with
    | nil => exact absent
    | cons byte more => exact unmarked byte more (apart _ (ends rfl) byte rfl)
  | cons byte tail =>
    by_cases mark : marks byte
    · rw [marked byte tail mark] at read
      obtain ⟨inside, same⟩ := stable read
      refine ⟨inside.trans (List.suffix_cons _ _), fun more ends => ?_⟩
      rw [List.cons_append, marked byte _ mark, same more ends]
    · rw [unmarked byte tail mark] at read
      cases read
      exact ⟨List.suffix_rfl, fun more _ => unmarked byte _ mark⟩

theorem stable_readFraction : Stable readFraction := by
  refine stable_optional (· = 0x2E) rfl ?_ ?_ (stable_readDigits.map some) ?_
  · intro byte rest other
    rw [readFraction, if_neg other]
  · intro byte rest point
    rw [readFraction, if_pos point]
  · exact fun bytes ends byte mem => (ends byte mem).2.1

theorem takeSign_append_cons {byte : UInt8} {input : Bytes} (more : Bytes) :
    takeSign (byte :: input ++ more) =
      ((takeSign (byte :: input)).1, (takeSign (byte :: input)).2 ++ more) := by
  simp only [takeSign, List.cons_append]
  split
  · rfl
  · split <;> rfl

theorem suffix_takeSign (input : Bytes) : (takeSign input).2 <:+ input := by
  cases input with
  | nil => exact List.suffix_rfl
  | cons byte rest =>
    rw [takeSign]
    split
    · exact List.suffix_cons _ _
    · split
      · exact List.suffix_cons _ _
      · exact List.suffix_rfl

theorem stable_readExponent : Stable readExponent := by
  have signed : Stable fun input => (readDigits (takeSign input).2).map fun part =>
      (some ((takeSign input).1, part.1), part.2) := by
    intro input value rest read
    obtain ⟨⟨digits, left⟩, found, same⟩ := exists_of_map read
    obtain ⟨rfl, rfl⟩ := Prod.mk.inj same
    cases input with
    | nil => cases found
    | cons byte tail =>
      obtain ⟨inside, same⟩ := stable_readDigits found
      refine ⟨inside.trans (suffix_takeSign _), fun more ends => ?_⟩
      dsimp only
      rw [takeSign_append_cons]
      dsimp only
      rw [same more ends]
      rfl
  refine stable_optional (fun byte => byte = 0x65 ∨ byte = 0x45) rfl ?_ ?_ signed ?_
  · intro byte rest other
    rw [readExponent, if_neg other]
  · intro byte rest mark
    rw [readExponent, if_pos mark]
  · exact fun bytes ends byte mem => not_or.mpr (ends byte mem).2.2

theorem stable_readUnsigned (negative : Bool) : Stable (readUnsigned negative) :=
  stable_readWhole.bind fun _ => stable_readFraction.bind fun _ =>
    stable_readExponent.bind fun _ => Stable.pure _

/-- A literal that has been read stays read when more follows. -/
theorem stable_read : Stable read := by
  intro input literal rest found
  cases input with
  | nil => cases found
  | cons byte tail =>
    rw [read] at found
    split at found
    · rename_i minus
      obtain ⟨inside, same⟩ := stable_readUnsigned true found
      refine ⟨inside.trans (List.suffix_cons _ _), fun more ends => ?_⟩
      rw [List.cons_append, read, if_pos minus, same more ends]
    · rename_i digital
      obtain ⟨inside, same⟩ := stable_readUnsigned false found
      refine ⟨inside, fun more ends => ?_⟩
      rw [List.cons_append, read, if_neg digital, ← List.cons_append, same more ends]

def IsNumeral (c : Char) : Prop := c.isDigit = true ∨ c ∈ ['.', 'e', '+', '-']

theorem isNumeral_digits {value : Nat} : ∀ c ∈ Decimal.digits value, IsNumeral c :=
  fun _ mem => Or.inl (Decimal.isDigit_of_mem_digits mem)

theorem isNumeral_chars (layout : Decimal.Layout) (number : Decimal) :
    ∀ c ∈ number.chars layout, IsNumeral c := by
  have row : ∀ c ∈ Decimal.digits number.significand, IsNumeral c := isNumeral_digits
  have zeros (count : Nat) : ∀ c ∈ List.replicate count '0', IsNumeral c := by
    intro c mem
    rw [List.eq_of_mem_replicate mem]
    exact Or.inl rfl
  have mark {c : Char} (mem : c ∈ ['.', 'e', '+', '-']) : IsNumeral c := Or.inr mem
  unfold Decimal.chars
  dsimp only
  split
  · split
    · simp only [List.forall_mem_append, List.forall_mem_cons]
      refine ⟨⟨row, zeros _⟩, mark (by decide), Or.inl rfl, nofun⟩
    · split
      · simp only [List.forall_mem_append, List.forall_mem_cons]
        exact ⟨fun c mem => row c (List.mem_of_mem_take mem), mark (by decide),
          fun c mem => row c (List.mem_of_mem_drop mem)⟩
      · simp only [List.forall_mem_append, List.forall_mem_cons]
        exact ⟨⟨Or.inl rfl, mark (by decide), zeros _⟩, row⟩
  · simp only [List.forall_mem_append, List.forall_mem_cons]
    refine ⟨⟨fun c mem => row c (List.mem_of_mem_take mem), ?_⟩, mark (by decide), ?_,
      isNumeral_digits⟩
    · have tail : ∀ c ∈ (Decimal.digits number.significand).tail, IsNumeral c :=
        fun c mem => row c (List.mem_of_mem_tail mem)
      generalize (Decimal.digits number.significand).tail = rest at tail
      cases rest with
      | nil => exact nofun
      | cons c rest => exact List.forall_mem_cons.mpr ⟨mark (by decide), tail⟩
    · split <;> exact mark (by decide)

theorem isNumeral_numberChars (number : Number) : ∀ c ∈ numberChars number, IsNumeral c := by
  cases number with
  | integer whole =>
    rw [numberChars, Decimal.signed]
    split
    · exact List.forall_mem_cons.mpr ⟨Or.inr (by decide), isNumeral_digits⟩
    · exact isNumeral_digits
  | double real =>
    have unsigned : ∀ c ∈ (if real.magnitude = 0 then ['0', '.', '0'] else
        (Binary64.shortest real.magnitude).chars doubleLayout), IsNumeral c := by
      split
      · simp only [List.forall_mem_cons]
        exact ⟨Or.inl rfl, Or.inr (by decide), Or.inl rfl, nofun⟩
      · exact isNumeral_chars _ _
    rw [numberChars, Binary64.chars]
    split
    · exact List.forall_mem_cons.mpr ⟨Or.inr (by decide), unsigned⟩
    · exact unsigned

theorem bounds_of_isNumeral {c : Char} (numeral : IsNumeral c) :
    43 ≤ c.toNat ∧ c.toNat ≤ 57 ∨ c.toNat = 101 := by
  rcases numeral with digital | mark
  · have := Decimal.bounds_of_isDigit digital
    omega
  · simp only [List.mem_cons, List.not_mem_nil, or_false] at mark
    obtain rfl | rfl | rfl | rfl := mark <;> decide

theorem bounds_of_mem_numberChars {number : Number} {byte : UInt8}
    (mem : byte ∈ Utf8.encode (numberChars number)) :
    43 ≤ byte.toNat ∧ byte.toNat ≤ 57 ∨ byte.toNat = 101 := by
  obtain ⟨c, inside, written⟩ := List.mem_flatMap.mp mem
  have bounds := bounds_of_isNumeral (isNumeral_numberChars number c inside)
  rw [Utf8.encodeChar_of_low (by omega), List.mem_singleton] at written
  rw [written, Utf8.toNat_ofNat_of_low (by omega)]
  exact bounds

end Literal

end Json

end LanguageClient
