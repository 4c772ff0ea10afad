import LanguageClient.Packet.Segment
import LanguageClient.Proofs.Number.Decimal
import LanguageClient.Proofs.Text.Lossy

set_option autoImplicit false

namespace LanguageClient

namespace Split

variable {α : Type} [DecidableEq α] {first second : α}

theorem pair_of_not_mem {list : List α} (absent : first ∉ list) :
    pair first second list = [list] := by
  induction list with
  | nil => rfl
  | cons value rest ih =>
    rw [List.mem_cons, not_or] at absent
    obtain ⟨other, later⟩ := absent
    cases rest with
    | nil => rfl
    | cons next rest =>
      have apart : ¬ (value = first ∧ next = second) := fun both => other both.1.symm
      rw [pair, if_neg apart, ih later]

/-- A pair cuts, whatever stands before it, and what stands behind it is cut as it is by itself. -/
theorem pair_append (apart : first ≠ second) (back : List α) :
    ∀ front : List α, ∃ piece pieces,
      pair first second (front ++ first :: second :: back) =
        piece :: (pieces ++ pair first second back)
  | [] => ⟨[], [], by rw [List.nil_append, pair, if_pos ⟨rfl, rfl⟩]; rfl⟩
  | [value] => by
    have other : ¬ (value = first ∧ first = second) := fun both => apart both.2
    refine ⟨[value], [], ?_⟩
    rw [List.singleton_append, pair, if_neg other, pair, if_pos ⟨rfl, rfl⟩]
    rfl
  | value :: next :: front => by
    rw [List.cons_append, List.cons_append, pair]
    split
    · obtain ⟨piece, pieces, same⟩ := pair_append apart back front
      exact ⟨[], piece :: pieces, by rw [same]; rfl⟩
    · obtain ⟨piece, pieces, same⟩ := pair_append apart back (next :: front)
      rw [List.cons_append] at same
      exact ⟨value :: piece, pieces, by rw [same]⟩

end Split

namespace Header

/-- A header without a carriage return has no blank line in it, and none begins in it. -/
theorem unbroken_of_not_mem {header : Bytes} (absent : 0x0D ∉ header) :
    ¬ separator <:+: header ++ separator.dropLast := by
  rintro ⟨front, back, same⟩
  rw [List.append_assoc, List.append_eq_append_iff] at same
  obtain ⟨inside, rfl, tail⟩ | ⟨beyond, rfl, tail⟩ := same
  · cases inside with
    | nil => exact absurd (congrArg List.length tail) (by simp [separator])
    | cons byte inside =>
      have begins : byte = 0x0D := (List.cons.inj tail).1.symm
      rw [begins] at absent
      exact absent (List.mem_append_right _ (List.mem_cons_self ..))
  · have lengths := congrArg List.length tail
    simp only [separator, List.dropLast_cons_cons, List.dropLast_singleton, List.length_append,
      List.length_cons, List.length_nil] at lengths
    omega

def lengthLine (length : Nat) : List Char := contentLengthKey ++ ':' :: ' ' :: Decimal.digits length

theorem not_mem_lengthLine {c : Char} (length : Nat)
    (other : c ∉ contentLengthKey ++ [':', ' ']) (sign : c.isDigit = false) :
    c ∉ lengthLine length := by
  have whole : lengthLine length = contentLengthKey ++ [':', ' '] ++ Decimal.digits length := by
    simp [lengthLine]
  rw [whole]
  intro mem
  rcases List.mem_append.mp mem with front | digit
  · exact other front
  · rw [Decimal.isDigit_of_mem_digits digit] at sign
    cases sign

/-- A carriage return is written only for a carriage return. -/
theorem not_mem_ofLength (length : Nat) : 0x0D ∉ ofLength length := by
  intro mem
  obtain ⟨c, inside, written⟩ := List.mem_flatMap.mp (mem : 0x0D ∈ Utf8.encode (lengthLine length))
  have same : c = '\r' := Char.toNat_inj.mp (Utf8.toNat_of_mem_encodeChar (by decide) written)
  rw [same] at inside
  exact not_mem_lengthLine length (by decide) (by decide) inside

theorem lineValue_append_lengthLine (front : List Char) (length : Nat) :
    lineValue (front ++ lengthLine length) = Decimal.digits length := by
  have colon : ':' ∉ Decimal.digits length := fun mem =>
    absurd (Decimal.isDigit_of_mem_digits mem) (by decide)
  obtain ⟨piece, pieces, same⟩ :=
    Split.pair_append (by decide : ':' ≠ ' ') (Decimal.digits length) (front ++ contentLengthKey)
  have whole : front ++ lengthLine length =
      front ++ contentLengthKey ++ ':' :: ' ' :: Decimal.digits length :=
    (List.append_assoc ..).symm
  rw [lineValue, whole, same, Split.pair_of_not_mem colon, ← List.cons_append,
    List.getLastD_concat]

/-- A key whose first value does not return in it begins at the front of what it follows, or with
it. -/
theorem prefix_append_iff {α : Type} {head : α} {tail front line : List α} (once : head ∉ tail)
    (begins : head :: tail <+: line) :
    head :: tail <+: front ++ line ↔ front = [] ∨ head :: tail <+: front := by
  constructor
  · intro whole
    obtain inside | ⟨rest, same⟩ :=
      List.prefix_or_prefix_of_prefix whole (List.prefix_append front line)
    · exact Or.inr inside
    · match front, rest with
      | [], _ => exact Or.inl rfl
      | value :: front, [] =>
        rw [← same, List.append_nil]
        exact Or.inr (List.prefix_refl _)
      | value :: front, next :: rest =>
        -- the key would go on where the line begins, with its own first value
        rw [← same, List.prefix_append_right_inj] at whole
        obtain ⟨_, first⟩ := begins
        rw [← first, List.cons_append, List.cons_prefix_cons] at whole
        have later : tail = front ++ next :: rest := (List.cons.inj same).2.symm
        rw [later, whole.1] at once
        exact absurd (List.mem_append_right _ (List.mem_cons_self ..)) once
  · rintro (rfl | inside)
    · exact begins
    · exact inside.trans (List.prefix_append front line)

def keyBytes : Bytes := Utf8.encode contentLengthKey

/-- All of the key is low, so no other bytes are decoded as it. -/
theorem prefix_key_decodeLossy_iff {line : Bytes} :
    contentLengthKey <+: Utf8.decodeLossy line ↔ keyBytes <+: line :=
  Utf8.prefix_decodeLossy_iff fun c mem =>
    of_decide_eq_true (List.all_eq_true.mp (by decide :
      (contentLengthKey.all fun c => ¬ Utf8.High c) = true) c mem)

theorem decodeLossy_append_ofLength (front : Bytes) (length : Nat) :
    Utf8.decodeLossy (front ++ ofLength length) = Utf8.decodeLossy front ++ lengthLine length :=
  Utf8.decodeLossy_append_encode front (by decide : 'C'.toNat < 0x80) _

/-- Bytes that a header may be behind on its line: none, or some that begin with the key. -/
def Harmless (front : Bytes) : Prop := front = [] ∨ keyBytes <+: front

instance (front : Bytes) : Decidable (Harmless front) :=
  inferInstanceAs (Decidable (_ ∨ _))

theorem isPrefixOf_append_lengthLine (front : Bytes) (length : Nat) :
    contentLengthKey.isPrefixOf (Utf8.decodeLossy front ++ lengthLine length) =
      decide (Harmless front) := by
  have key : contentLengthKey = 'C' :: "ontent-Length".toList := rfl
  have once : 'C' ∉ "ontent-Length".toList := by decide
  have begins : 'C' :: "ontent-Length".toList <+: lengthLine length :=
    key ▸ List.prefix_append _ _
  rw [Bool.eq_iff_iff, List.isPrefixOf_iff_prefix, decide_eq_true_iff, key,
    prefix_append_iff once begins, ← key, Utf8.decodeLossy_eq_nil_iff, prefix_key_decodeLossy_iff,
    Harmless]

theorem lines_append_lengthLine {front : Bytes} (oneLine : 0x0D ∉ front) (length : Nat) :
    lines (Utf8.decodeLossy front ++ lengthLine length) =
      [Utf8.decodeLossy front ++ lengthLine length] := by
  refine Split.pair_of_not_mem fun mem => ?_
  obtain inside | inside := List.mem_append.mp mem
  · exact oneLine (Utf8.mem_of_mem_decodeLossy (by decide) inside)
  · exact not_mem_lengthLine length (by decide) (by decide) inside

/-- The length on a line counts only behind such bytes. -/
theorem declared_append_ofLength {front : Bytes} {length : Nat} (oneLine : 0x0D ∉ front)
    (accepted : length ≤ contentLimit) :
    Segment.declared (front ++ ofLength length) =
      if Harmless front then .ok length else .error .missingContentLength := by
  have text := decodeLossy_append_ofLength front length
  have keyed := isPrefixOf_append_lengthLine front length
  have nonempty : (front ++ ofLength length).isEmpty = false := by
    rw [List.isEmpty_eq_false_iff, Ne, ← Utf8.decodeLossy_eq_nil_iff, text, lengthLine]
    exact List.append_ne_nil_of_right_ne_nil _
      (List.append_ne_nil_of_right_ne_nil _ (List.cons_ne_nil _ _))
  have small : length < wordLimit := by
    have limits : contentLimit < wordLimit := by decide
    omega
  unfold Segment.declared contentLength
  rw [nonempty, text, lines_append_lengthLine oneLine]
  by_cases harmless : Harmless front
  · simp only [List.find?_cons, keyed, harmless, decide_true, lineValue_append_lengthLine,
      Decimal.below?_digits small, Nat.not_lt.mpr accepted, if_false, if_true, Bool.false_eq_true]
  · simp only [List.find?_cons, keyed, harmless, decide_false, List.find?_nil, if_false,
      Bool.false_eq_true]

theorem declared_ofLength {length : Nat} (accepted : length ≤ contentLimit) :
    Segment.declared (ofLength length) = .ok length :=
  (@declared_append_ofLength [] length List.not_mem_nil accepted).trans (if_pos (Or.inl rfl))

end Header

end LanguageClient
