import LanguageClient.Proofs.Text.Lossy
import Mathlib.Data.List.Basic

set_option autoImplicit false

/-!
Reading loses nothing: the bytes of the pieces, one after the other, are the bytes that were read.
So bytes are the text that is read from them if and only if they write it.
-/

namespace LanguageClient

namespace Utf8

def Piece.bytes : Piece → Bytes
  | .character value => String.utf8EncodeChar value
  | .illFormed bytes => bytes

/-- The second byte is bounded from above so that neither a surrogate nor a value past the last
character is written. -/
theorem upper_of_following {first : UInt8} {second : Bounds} {later : List Bounds}
    (begun : following first = some (second :: later)) :
    (first.toNat = 0xED → second.greatest.toNat ≤ 0x9F) ∧
      (first.toNat = 0xF4 → second.greatest.toNat ≤ 0x8F) := by
  constructor
  · intro value
    have same : first = 0xED := UInt8.toNat_inj.mp value
    subst same
    cases begun
    decide
  · intro value
    have same : first = 0xF4 := UInt8.toNat_inj.mp value
    subst same
    cases begun
    decide

theorem ofNat_eq_of_toNat {value : Nat} (byte : UInt8) (same : value = byte.toNat) :
    UInt8.ofNat value = byte := by
  rw [same, UInt8.ofNat_toNat]

theorem encodeChar_two {a b : UInt8} (first : 0xC2 ≤ a.toNat ∧ a.toNat < 0xE0)
    (second : 0x80 ≤ b.toNat ∧ b.toNat ≤ 0xBF) :
    String.utf8EncodeChar (character [a, b]) = [a, b] := by
  generalize whole : a.toNat % 32 * 64 + b.toNat % 64 = value
  have valid : value.isValidChar := Or.inl (by omega)
  have same : (Char.ofNat value).val.toNat = value := toNat_ofNat_of_valid valid
  simp only [character, whole, String.utf8EncodeChar, same]
  rw [if_neg (by omega), if_pos (by omega), ofNat_eq_of_toNat a (by omega),
    ofNat_eq_of_toNat b (by omega)]

/-- No surrogate is read from three bytes, and no shorter character. -/
theorem encodeChar_three {a b c : UInt8} (first : 0xE0 ≤ a.toNat ∧ a.toNat < 0xF0)
    (second : 0x80 ≤ b.toNat ∧ b.toNat ≤ 0xBF) (third : 0x80 ≤ c.toNat ∧ c.toNat ≤ 0xBF)
    (long : a.toNat = 0xE0 → 0xA0 ≤ b.toNat) (regular : a.toNat = 0xED → b.toNat ≤ 0x9F) :
    String.utf8EncodeChar (character [a, b, c]) = [a, b, c] := by
  generalize whole : a.toNat % 16 * 4096 + b.toNat % 64 * 64 + c.toNat % 64 = value
  have valid : value.isValidChar := by
    rcases Nat.lt_or_ge value 0xD800 with less | greater
    · exact Or.inl less
    · exact Or.inr ⟨by omega, by omega⟩
  have same : (Char.ofNat value).val.toNat = value := toNat_ofNat_of_valid valid
  simp only [character, whole, String.utf8EncodeChar, same]
  rw [if_neg (by omega), if_neg (by omega), if_pos (by omega), ofNat_eq_of_toNat a (by omega),
    ofNat_eq_of_toNat b (by omega), ofNat_eq_of_toNat c (by omega)]

/-- Nothing past the last character is read from four bytes, and no shorter character. -/
theorem encodeChar_four {a b c d : UInt8} (first : 0xF0 ≤ a.toNat ∧ a.toNat < 0xF5)
    (second : 0x80 ≤ b.toNat ∧ b.toNat ≤ 0xBF) (third : 0x80 ≤ c.toNat ∧ c.toNat ≤ 0xBF)
    (fourth : 0x80 ≤ d.toNat ∧ d.toNat ≤ 0xBF) (long : a.toNat = 0xF0 → 0x90 ≤ b.toNat)
    (last : a.toNat = 0xF4 → b.toNat ≤ 0x8F) :
    String.utf8EncodeChar (character [a, b, c, d]) = [a, b, c, d] := by
  generalize whole :
    a.toNat % 8 * 262144 + b.toNat % 64 * 4096 + c.toNat % 64 * 64 + d.toNat % 64 = value
  have valid : value.isValidChar := Or.inr ⟨by omega, by omega⟩
  have same : (Char.ofNat value).val.toNat = value := toNat_ofNat_of_valid valid
  simp only [character, whole, String.utf8EncodeChar, same]
  rw [if_neg (by omega), if_neg (by omega), if_neg (by omega), ofNat_eq_of_toNat a (by omega),
    ofNat_eq_of_toNat b (by omega), ofNat_eq_of_toNat c (by omega),
    ofNat_eq_of_toNat d (by omega)]

theorem encodeChar_character {first : UInt8} {bounds : List Bounds} {later : Bytes}
    (begun : following first = some bounds) (count : bounds.length = later.length)
    (fit : ∀ pair ∈ bounds.zip later, pair.1.admits pair.2 = true) :
    String.utf8EncodeChar (character (first :: later)) = first :: later := by
  -- One case for each number of bytes that the first one asks for.
  obtain ⟨low, rfl⟩ | ⟨lower, upper, rfl⟩ | ⟨lower, upper, second, rfl, least, greatest, long⟩ |
    ⟨lower, upper, second, rfl, least, greatest, long⟩ := following_cases begun
  · obtain rfl := List.length_eq_zero_iff.mp count.symm
    rw [character, encodeChar_of_low_byte low]
  · obtain ⟨b, rfl⟩ := List.length_eq_one_iff.mp count.symm
    have inside : 0x80 ≤ b.toNat ∧ b.toNat ≤ 0xBF :=
      bounds_of_admits (fit (continuation, b) (List.mem_cons_self ..))
    exact encodeChar_two ⟨lower, upper⟩ inside
  · obtain ⟨b, c, rfl⟩ := List.length_eq_two.mp count.symm
    obtain ⟨admitted, last⟩ := List.forall_mem_cons.mp fit
    have inside : second.least.toNat ≤ b.toNat ∧ b.toNat ≤ second.greatest.toNat :=
      bounds_of_admits admitted
    have third : 0x80 ≤ c.toNat ∧ c.toNat ≤ 0xBF :=
      bounds_of_admits (last (continuation, c) (List.mem_cons_self ..))
    have regular := (upper_of_following begun).1
    apply encodeChar_three ⟨lower, upper⟩ ⟨by omega, by omega⟩ third
    · omega
    · omega
  · obtain ⟨b, c, d, rfl⟩ := List.length_eq_three.mp count.symm
    obtain ⟨admitted, rest⟩ := List.forall_mem_cons.mp fit
    obtain ⟨middle, final⟩ := List.forall_mem_cons.mp rest
    have inside : second.least.toNat ≤ b.toNat ∧ b.toNat ≤ second.greatest.toNat :=
      bounds_of_admits admitted
    have third : 0x80 ≤ c.toNat ∧ c.toNat ≤ 0xBF := bounds_of_admits middle
    have fourth : 0x80 ≤ d.toNat ∧ d.toNat ≤ 0xBF :=
      bounds_of_admits (final (continuation, d) (List.mem_cons_self ..))
    have last := (upper_of_following begun).2
    apply encodeChar_four ⟨lower, upper⟩ ⟨by omega, by omega⟩ third fourth
    · omega
    · omega

/-- The bytes seen of a character, with whatever completes it, are those that write it. -/
structure Progress.Faithful (progress : Progress) : Prop where
  idle : progress.awaited = [] → progress.seen = []
  written : progress.awaited ≠ [] → ∀ later : Bytes, progress.awaited.length = later.length →
    (∀ pair ∈ progress.awaited.zip later, pair.1.admits pair.2 = true) →
      String.utf8EncodeChar (character (progress.seen ++ later)) = progress.seen ++ later

theorem Progress.faithful_idle : Progress.idle.Faithful :=
  ⟨fun _ => rfl, fun opens => absurd rfl opens⟩

theorem faithful_start (byte : UInt8) : (start byte).2.Faithful := by
  unfold start
  split
  · exact Progress.faithful_idle
  · exact Progress.faithful_idle
  · rename_i awaited opens begun
    refine ⟨fun nothing => absurd nothing opens, ?_⟩
    intro _ later count fit
    exact encodeChar_character begun count fit

theorem bytes_start (byte : UInt8) :
    (start byte).1.flatMap Piece.bytes ++ (start byte).2.seen = [byte] := by
  unfold start
  split
  · rfl
  · rename_i begun
    have alone : String.utf8EncodeChar (character [byte]) = [byte] :=
      encodeChar_character begun rfl fun _ inside => absurd inside List.not_mem_nil
    simp [Piece.bytes, Progress.idle, alone]
  · rfl

theorem faithful_step {progress : Progress} (faithful : progress.Faithful) (byte : UInt8) :
    (step progress byte).2.Faithful := by
  obtain ⟨seen, awaited⟩ := progress
  cases awaited with
  | nil => exact faithful_start byte
  | cons bound later =>
    by_cases admitted : bound.admits byte = true
    · cases later with
      | nil =>
        simp only [step, admitted, if_true]
        exact Progress.faithful_idle
      | cons next more =>
        simp only [step, admitted, if_true]
        refine ⟨fun nothing => absurd nothing (List.cons_ne_nil _ _), ?_⟩
        intro _ bytes count fit
        have whole := faithful.written (List.cons_ne_nil _ _) (byte :: bytes)
          (congrArg Nat.succ count) (List.forall_mem_cons.mpr ⟨admitted, fit⟩)
        simpa using whole
    · simp only [step, admitted, Bool.false_eq_true, if_false]
      exact faithful_start byte

/-- A byte is either in a piece or among those that are seen. -/
theorem bytes_step {progress : Progress} (faithful : progress.Faithful) (byte : UInt8) :
    (step progress byte).1.flatMap Piece.bytes ++ (step progress byte).2.seen =
      progress.seen ++ [byte] := by
  obtain ⟨seen, awaited⟩ := progress
  cases awaited with
  | nil =>
    have nothing : seen = [] := faithful.idle rfl
    subst nothing
    exact bytes_start byte
  | cons bound later =>
    by_cases admitted : bound.admits byte = true
    · cases later with
      | nil =>
        have whole := faithful.written (List.cons_ne_nil _ _) [byte] rfl
          (List.forall_mem_singleton.mpr admitted)
        simp only [step, admitted, if_true]
        simpa [Piece.bytes, Progress.idle] using whole
      | cons next more => simp [step, admitted]
    · simp only [step, admitted, Bool.false_eq_true, if_false, List.flatMap_cons,
        List.append_assoc, bytes_start]
      rfl

theorem flatMap_bytes_piecesFrom {progress : Progress} (faithful : progress.Faithful)
    (bytes : Bytes) :
    (piecesFrom progress bytes).flatMap Piece.bytes = progress.seen ++ bytes := by
  induction bytes generalizing progress with
  | nil =>
    obtain ⟨seen, awaited⟩ := progress
    cases awaited with
    | nil =>
      have nothing : seen = [] := faithful.idle rfl
      simp [piecesFrom, finish, nothing]
    | cons bound later => simp [piecesFrom, finish, Piece.bytes]
  | cons byte rest ih =>
    have later := ih (faithful_step faithful byte)
    have now := bytes_step faithful byte
    rw [piecesFrom, List.flatMap_append, later, ← List.append_assoc, now, List.append_assoc]
    rfl

theorem flatMap_bytes_pieces (bytes : Bytes) : (pieces bytes).flatMap Piece.bytes = bytes :=
  flatMap_bytes_piecesFrom Progress.faithful_idle bytes

theorem eq_map_of_mapM_character? {pieces : List Piece} {text : List Char}
    (read : pieces.mapM Piece.character? = some text) : pieces = text.map .character := by
  induction pieces generalizing text with
  | nil =>
    have empty : [] = text := Option.some.inj read
    rw [← empty]
    rfl
  | cons piece rest ih =>
    rw [List.mapM_cons] at read
    cases piece with
    | illFormed bytes => cases read
    | character value =>
      obtain ⟨first, self, further⟩ := Option.bind_eq_some_iff.mp read
      obtain ⟨later, tail, same⟩ := Option.bind_eq_some_iff.mp further
      cases self
      have whole : value :: later = text := Option.some.inj same
      rw [← whole, ih tail]
      rfl

/-- Bytes are read as a text if and only if they write it. -/
theorem text?_eq_some_iff {bytes : Bytes} {text : String} :
    text? bytes = some text ↔ bytes = Utf8.bytes text := by
  constructor
  · intro read
    obtain ⟨chars, decoded, same⟩ := Option.map_eq_some_iff.mp read
    have characters := eq_map_of_mapM_character? decoded
    have whole := flatMap_bytes_pieces bytes
    rw [characters, List.flatMap_map] at whole
    rw [← same, Utf8.bytes, String.toList_ofList]
    exact whole.symm
  · intro written
    rw [written, Utf8.bytes, text?_encode, String.ofList_toList]

end Utf8

end LanguageClient
