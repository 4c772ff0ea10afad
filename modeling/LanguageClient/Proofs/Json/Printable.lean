import LanguageClient.Proofs.Json.Literal

set_option autoImplicit false

namespace LanguageClient

namespace Json

def Printable (text : List Char) : Prop := ∀ c ∈ text, 0x20 ≤ c.toNat

theorem printable_of_all {text : List Char}
    (all : (text.all fun c => 0x20 ≤ c.toNat) = true) : Printable text := fun c mem =>
  of_decide_eq_true (List.all_eq_true.mp all c mem)

theorem Printable.append {front back : List Char} (first : Printable front)
    (later : Printable back) : Printable (front ++ back) :=
  List.forall_mem_append.mpr ⟨first, later⟩

theorem Printable.cons {c : Char} {text : List Char} (first : 0x20 ≤ c.toNat)
    (later : Printable text) : Printable (c :: text) :=
  List.forall_mem_cons.mpr ⟨first, later⟩

theorem printable_escapeChar (c : Char) : Printable (escapeChar c) := by
  unfold escapeChar
  -- the seven characters with an escape of their own
  iterate 7
    split
    · exact printable_of_all (by decide)
  split
  · rename_i control
    have hex (digit : Nat) (small : digit < 16) : 0x20 ≤ (Nat.digitChar digit).toNat := by
      have all : ∀ digit < 16, 0x20 ≤ (Nat.digitChar digit).toNat := by decide
      exact all digit small
    have tail : Printable [Nat.digitChar (c.toNat / 16), Nat.digitChar (c.toNat % 16)] :=
      .cons (hex _ (by omega)) (.cons (hex _ (by omega)) (List.forall_mem_nil _))
    exact (printable_of_all (by decide : (['\\', 'u', '0', '0'].all
      fun c => 0x20 ≤ c.toNat) = true)).append tail
  · rename_i visible
    exact .cons (Nat.le_of_not_lt visible) (List.forall_mem_nil _)

theorem printable_stringChars (text : String) : Printable (stringChars text) := by
  have inner : Printable (text.toList.flatMap escapeChar) := fun c mem =>
    let ⟨part, _, inside⟩ := List.mem_flatMap.mp mem
    printable_escapeChar part c inside
  exact Printable.append (.cons (by decide) inner) (printable_of_all (by decide))

theorem printable_numberChars (number : Number) : Printable (numberChars number) := fun c mem => by
  have bounds := Literal.bounds_of_isNumeral (Literal.isNumeral_numberChars number c mem)
  omega

mutual

theorem printable_chars : ∀ value : Json, Printable value.chars
  | .null => printable_of_all (by decide)
  | .bool true => printable_of_all (by decide)
  | .bool false => printable_of_all (by decide)
  | .number value => printable_numberChars value
  | .string value => printable_stringChars value
  | .array elements =>
    .append (.cons (by decide) (printable_elementChars elements)) (printable_of_all (by decide))
  | .object members =>
    .append (.cons (by decide) (printable_memberChars members)) (printable_of_all (by decide))

theorem printable_elementChars : ∀ elements : List Json, Printable (elementChars elements)
  | [] => List.forall_mem_nil _
  | value :: rest => .append (printable_chars value) (printable_furtherElementChars rest)

theorem printable_furtherElementChars :
    ∀ elements : List Json, Printable (furtherElementChars elements)
  | [] => List.forall_mem_nil _
  | value :: rest =>
    .append (.cons (by decide) (printable_chars value)) (printable_furtherElementChars rest)

theorem printable_memberChars :
    ∀ members : List (String × Json), Printable (memberChars members)
  | [] => List.forall_mem_nil _
  | (key, value) :: rest =>
    .append (.append (printable_stringChars key) (.cons (by decide) (printable_chars value)))
      (printable_furtherMemberChars rest)

theorem printable_furtherMemberChars :
    ∀ members : List (String × Json), Printable (furtherMemberChars members)
  | [] => List.forall_mem_nil _
  | (key, value) :: rest =>
    .append (.cons (by decide) (.append (printable_stringChars key)
      (.cons (by decide) (printable_chars value)))) (printable_furtherMemberChars rest)

end

theorem not_mem_encode {byte : UInt8} (control : byte.toNat < 0x20) (value : Json) :
    byte ∉ value.encode := by
  intro mem
  obtain ⟨c, inside, written⟩ := List.mem_flatMap.mp mem
  have same := Utf8.toNat_of_mem_encodeChar (by omega) written
  have visible := printable_chars value c inside
  omega

end Json

end LanguageClient
