import LanguageClient.Json.Parser
import LanguageClient.Json.Printer
import LanguageClient.Proofs.Text.Utf8

set_option autoImplicit false

namespace LanguageClient

namespace Json

def Plain (byte : UInt8) : Prop := byte ≠ 0x22 ∧ byte ≠ 0x5C ∧ ¬ byte < 0x20

theorem readString_plain {bytes : Bytes} (plain : ∀ byte ∈ bytes, Plain byte)
    (reversed rest : Bytes) :
    readString reversed (bytes ++ rest) = readString (bytes.reverse ++ reversed) rest := by
  induction bytes generalizing reversed with
  | nil => rfl
  | cons byte bytes ih =>
    obtain ⟨⟨quote, escape, control⟩, later⟩ := List.forall_mem_cons.mp plain
    rw [List.cons_append, readString.eq_def]
    simp only [quote, escape, control, if_false]
    rw [ih later, List.reverse_cons, List.append_assoc]
    rfl

theorem plain_of_mem_encodeChar {c : Char} (quote : c ≠ '"') (escape : c ≠ '\\')
    (control : ¬ c.toNat < 0x20) {byte : UInt8} (mem : byte ∈ String.utf8EncodeChar c) :
    Plain byte := by
  have code (low : byte.toNat < 0x80) : c.toNat = byte.toNat :=
    Utf8.toNat_of_mem_encodeChar low mem
  refine ⟨?_, ?_, ?_⟩
  · rintro rfl
    exact quote (Char.toNat_inj.mp (code (by decide)))
  · rintro rfl
    exact escape (Char.toNat_inj.mp (code (by decide)))
  · intro less
    rw [UInt8.lt_iff_toNat_lt] at less
    change byte.toNat < 0x20 at less
    rw [code (by omega)] at control
    exact control less

theorem readString_escape {letter value : UInt8} (short : letter ≠ 0x75)
    (known : escaped? letter = some value) (reversed rest : Bytes) :
    readString reversed (0x5C :: letter :: rest) = readString (value :: reversed) rest := by
  rw [readString.eq_def]
  simp [short, known]

theorem readString_unit {a b c d : UInt8} {unit : Nat} (known : hexUnit? a b c d = some unit)
    (leading : isLeadingSurrogate unit = false) (trailing : isTrailingSurrogate unit = false)
    (reversed rest : Bytes) :
    readString reversed (0x5C :: 0x75 :: a :: b :: c :: d :: rest) =
      readString (pushChar (Char.ofNat unit) reversed) rest := by
  rw [readString.eq_def]
  simp [known, leading, trailing]

/-- Control characters are written as two zeros and two more digits. -/
theorem hexUnit?_control : ∀ code < 0x20,
    hexUnit? 0x30 0x30 (.ofNat (Nat.digitChar (code / 16)).toNat)
        (.ofNat (Nat.digitChar (code % 16)).toNat) = some code ∧
      isLeadingSurrogate code = false ∧ isTrailingSurrogate code = false := by
  decide

theorem readString_escapeChar (c : Char) (reversed rest : Bytes) :
    readString reversed (Utf8.encode (escapeChar c) ++ rest) =
      readString (pushChar c reversed) rest := by
  unfold escapeChar
  split
  · subst c
    exact readString_escape (by decide) rfl reversed rest
  split
  · subst c
    exact readString_escape (by decide) rfl reversed rest
  split
  · subst c
    exact readString_escape (by decide) rfl reversed rest
  split
  · subst c
    exact readString_escape (by decide) rfl reversed rest
  split
  · subst c
    exact readString_escape (by decide) rfl reversed rest
  split
  · subst c
    exact readString_escape (by decide) rfl reversed rest
  split
  · subst c
    exact readString_escape (by decide) rfl reversed rest
  next quote backslash _ _ _ _ _ =>
    split
    next control =>
      obtain ⟨known, leading, trailing⟩ := hexUnit?_control c.toNat control
      have hex : ∀ digit < 16, (Nat.digitChar digit).toNat < 0x80 := by decide
      have low : ∀ d ∈ ['\\', 'u', '0', '0', Nat.digitChar (c.toNat / 16),
          Nat.digitChar (c.toNat % 16)], d.toNat < 0x80 := by
        simp only [List.forall_mem_cons]
        exact ⟨by decide, by decide, by decide, by decide, hex _ (by omega), hex _ (by omega),
          nofun⟩
      have unit := readString_unit known leading trailing reversed rest
      rw [Char.ofNat_toNat] at unit
      rw [Utf8.encode_of_low low]
      exact unit
    next control =>
      have alone : Utf8.encode [c] = String.utf8EncodeChar c := List.flatMap_singleton ..
      rw [alone]
      exact readString_plain (fun _ => plain_of_mem_encodeChar quote backslash control)
        reversed rest

def quotedBytes (text : String) : Bytes := Utf8.encode (text.toList.flatMap escapeChar)

/-- A text is read as it is written. -/
theorem readString_quotedBytes (text : String) (rest : Bytes) :
    readString [] (quotedBytes text ++ 0x22 :: rest) = .ok (text, rest) := by
  have pushed (chars : List Char) (reversed : Bytes) :
      readString reversed (Utf8.encode (chars.flatMap escapeChar) ++ 0x22 :: rest) =
        readString ((Utf8.encode chars).reverse ++ reversed) (0x22 :: rest) := by
    induction chars generalizing reversed with
    | nil => rfl
    | cons c chars ih =>
      rw [List.flatMap_cons, Utf8.encode_append, List.append_assoc, readString_escapeChar, ih,
        Utf8.encode_cons, List.reverse_append, List.append_assoc]
      rfl
  rw [quotedBytes, pushed, readString.eq_def, List.append_nil, List.reverse_reverse,
    Utf8.text?_encode]
  simp only [if_true, String.ofList_toList]

end Json

end LanguageClient
