import LanguageClient.Proofs.Text.Utf8

set_option autoImplicit false

/-!
Text of any bytes, ill-formed parts replaced. Low bytes stand for themselves there: each is a
character of its own that ends whatever was begun before it, and no other bytes make up a low
character.
-/

namespace LanguageClient

namespace Utf8

/-- Not a character below 128, the null character apart. -/
def High (c : Char) : Prop := 0x80 ≤ c.toNat ∨ c.toNat = 0

instance (c : Char) : Decidable (High c) := inferInstanceAs (Decidable (_ ∨ _))

theorem toNat_ofNat_of_valid {value : Nat} (valid : value.isValidChar) :
    (Char.ofNat value).toNat = value := by
  rw [Char.ofNat, dif_pos valid]
  rfl

theorem high_ofNat {value : Nat} (lower : 0x80 ≤ value) : High (Char.ofNat value) := by
  by_cases valid : value.isValidChar
  · left
    rwa [toNat_ofNat_of_valid valid]
  · right
    rw [Char.ofNat, dif_neg valid]
    rfl

theorem bounds_of_admits {bounds : Bounds} {byte : UInt8} (admitted : bounds.admits byte = true) :
    bounds.least.toNat ≤ byte.toNat ∧ byte.toNat ≤ bounds.greatest.toNat := by
  simpa only [Bounds.admits, Bool.and_eq_true, decide_eq_true_eq, UInt8.le_iff_toNat_le]
    using admitted

/-- What a first byte awaits, by how many bytes that is. The second byte is bounded from below so
that no shorter character is written. -/
theorem following_cases {first : UInt8} {bounds : List Bounds}
    (begun : following first = some bounds) :
    (first.toNat < 0x80 ∧ bounds = []) ∨
      (0xC2 ≤ first.toNat ∧ first.toNat < 0xE0 ∧ bounds = [continuation]) ∨
      (0xE0 ≤ first.toNat ∧ first.toNat < 0xF0 ∧ ∃ second, bounds = [second, continuation] ∧
        0x80 ≤ second.least.toNat ∧ second.greatest.toNat < 0xC0 ∧
        (first.toNat = 0xE0 → 0xA0 ≤ second.least.toNat)) ∨
      (0xF0 ≤ first.toNat ∧ first.toNat < 0xF5 ∧ ∃ second,
        bounds = [second, continuation, continuation] ∧
        0x80 ≤ second.least.toNat ∧ second.greatest.toNat < 0xC0 ∧
        (first.toNat = 0xF0 → 0x90 ≤ second.least.toNat)) := by
  have byte := first.toNat_lt
  have same : UInt8.ofNat first.toNat = first := UInt8.ofNat_toNat
  rw [← same, following_ofNat byte] at begun
  split at begun
  · cases begun
    exact Or.inl ⟨‹_›, rfl⟩
  right
  split at begun
  · cases begun
  split at begun
  · cases begun
    exact Or.inl ⟨by omega, by omega, rfl⟩
  right
  split at begun
  · cases begun
    exact Or.inl ⟨by omega, by omega, _, rfl, by decide, by decide, fun _ => by decide⟩
  split at begun
  · cases begun
    exact Or.inl ⟨by omega, by omega, _, rfl, by decide, by decide, by omega⟩
  split at begun
  · cases begun
    exact Or.inl ⟨by omega, by omega, _, rfl, by decide, by decide, by omega⟩
  right
  split at begun
  · cases begun
    exact ⟨by omega, by omega, _, rfl, by decide, by decide, fun _ => by decide⟩
  split at begun
  · cases begun
    exact ⟨by omega, by omega, _, rfl, by decide, by decide, by omega⟩
  split at begun
  · cases begun
    exact ⟨by omega, by omega, _, rfl, by decide, by decide, by omega⟩
  · cases begun

theorem high_character {first : UInt8} {bounds : List Bounds} {later : Bytes}
    (begun : following first = some bounds) (opens : bounds ≠ [])
    (count : bounds.length = later.length)
    (fit : ∀ pair ∈ bounds.zip later, pair.1.admits pair.2 = true) :
    High (character (first :: later)) := by
  obtain ⟨-, rfl⟩ | ⟨lower, upper, rfl⟩ | ⟨lower, upper, second, rfl, least, greatest, long⟩ |
    ⟨lower, upper, second, rfl, least, greatest, long⟩ := following_cases begun
  · exact absurd rfl opens
  · match later, count, fit with
    | [b], _, fit =>
      apply high_ofNat
      omega
  -- a first byte of 0xE0 or 0xF0 adds nothing itself, so the second byte must not be too small
  · match later, count, fit with
    | [b, c], _, fit =>
      have inside : second.least.toNat ≤ b.toNat ∧ b.toNat ≤ second.greatest.toNat :=
        bounds_of_admits (fit (second, b) (List.mem_cons_self ..))
      apply high_ofNat
      omega
  · match later, count, fit with
    | [b, c, d], _, fit =>
      have inside : second.least.toNat ≤ b.toNat ∧ b.toNat ≤ second.greatest.toNat :=
        bounds_of_admits (fit (second, b) (List.mem_cons_self ..))
      apply high_ofNat
      omega

/-- Whatever completes a character that was begun makes a high character of it, and no low byte
does. -/
structure Progress.Sound (progress : Progress) : Prop where
  bounds : ∀ bound ∈ progress.awaited, 0x80 ≤ bound.least.toNat
  high : progress.awaited ≠ [] → ∀ later : Bytes, progress.awaited.length = later.length →
    (∀ pair ∈ progress.awaited.zip later, pair.1.admits pair.2 = true) →
      High (character (progress.seen ++ later))

theorem Progress.sound_of_nil {progress : Progress} (nothing : progress.awaited = []) :
    progress.Sound := by
  refine ⟨?_, fun opens => absurd nothing opens⟩
  rw [nothing]
  exact nofun

theorem Progress.Sound.high_last {seen : Bytes} {bound : Bounds} {byte : UInt8}
    (sound : Progress.Sound ⟨seen, [bound]⟩) (admitted : bound.admits byte = true) :
    High (character (seen ++ [byte])) :=
  sound.high (List.cons_ne_nil _ _) [byte] rfl (List.forall_mem_singleton.mpr admitted)

theorem bounds_of_following {first : UInt8} {bounds : List Bounds}
    (begun : following first = some bounds) : ∀ bound ∈ bounds, 0x80 ≤ bound.least.toNat := by
  have tail : 0x80 ≤ continuation.least.toNat := by decide
  obtain ⟨-, rfl⟩ | ⟨-, -, rfl⟩ | ⟨-, -, second, rfl, least, -⟩ | ⟨-, -, second, rfl, least, -⟩ :=
    following_cases begun
  · exact nofun
  · exact List.forall_mem_singleton.mpr tail
  · exact List.forall_mem_cons.mpr ⟨least, List.forall_mem_singleton.mpr tail⟩
  · exact List.forall_mem_cons.mpr ⟨least, List.forall_mem_cons.mpr
      ⟨tail, List.forall_mem_singleton.mpr tail⟩⟩

theorem sound_start (byte : UInt8) : (start byte).2.Sound := by
  unfold start
  split
  · exact Progress.sound_of_nil rfl
  · exact Progress.sound_of_nil rfl
  · rename_i awaited _ begun
    exact ⟨bounds_of_following begun,
      fun opens later count fit => high_character begun opens count fit⟩

theorem sound_step {progress : Progress} (sound : progress.Sound) (byte : UInt8) :
    (step progress byte).2.Sound := by
  obtain ⟨seen, awaited⟩ := progress
  unfold step
  split
  · exact sound_start byte
  · rename_i bound later awaits
    split
    · rename_i admitted
      split
      · exact Progress.sound_of_nil rfl
      · rename_i next more
        obtain ⟨bounds, high⟩ := sound
        rw [awaits] at bounds high
        refine ⟨fun other mem => bounds other (List.mem_cons_of_mem _ mem), ?_⟩
        intro _ bytes count fit
        -- what completes the character from here on completed it behind the byte before
        have whole := high (List.cons_ne_nil _ _) (byte :: bytes) (congrArg Nat.succ count)
          (List.forall_mem_cons.mpr ⟨admitted, fit⟩)
        rw [List.append_assoc]
        exact whole
    · exact sound_start byte

theorem start_of_low {byte : UInt8} (low : byte.toNat < 0x80) :
    start byte = ([.character (Char.ofNat byte.toNat)], .idle) := by
  have begun : following byte = some [] := if_pos (UInt8.lt_iff_toNat_lt.mpr low)
  rw [start, begun]
  rfl

/-- A low byte ends what was begun, and stands for itself. -/
theorem step_of_low {progress : Progress} (sound : progress.Sound) {byte : UInt8}
    (low : byte.toNat < 0x80) :
    step progress byte =
      (finish progress ++ [.character (Char.ofNat byte.toNat)], .idle) := by
  obtain ⟨seen, awaited⟩ := progress
  cases awaited with
  | nil => exact start_of_low low
  | cons bound later =>
    have refused : bound.admits byte = false := Bool.eq_false_iff.mpr fun admitted => by
      have least : 0x80 ≤ bound.least.toNat := sound.bounds bound (List.mem_cons_self ..)
      have inside := (bounds_of_admits admitted).1
      omega
    simp only [step, refused, Bool.false_eq_true, if_false, finish, start_of_low low,
      List.singleton_append]

theorem piecesFrom_append_of_low {progress : Progress} (sound : progress.Sound) (front : Bytes)
    {byte : UInt8} (low : byte.toNat < 0x80) (rest : Bytes) :
    piecesFrom progress (front ++ byte :: rest) =
      piecesFrom progress front ++ .character (Char.ofNat byte.toNat) :: pieces rest := by
  induction front generalizing progress with
  | nil =>
    rw [List.nil_append, piecesFrom, piecesFrom, step_of_low sound low, List.append_assoc]
    rfl
  | cons other front ih =>
    rw [List.cons_append, piecesFrom, piecesFrom, ih (sound_step sound other), List.append_assoc]

theorem sound_idle : Progress.idle.Sound := Progress.sound_of_nil rfl

theorem decodeLossy_append_of_low (front : Bytes) {byte : UInt8} (low : byte.toNat < 0x80)
    (rest : Bytes) :
    decodeLossy (front ++ byte :: rest) =
      decodeLossy front ++ Char.ofNat byte.toNat :: decodeLossy rest := by
  rw [decodeLossy, pieces, piecesFrom_append_of_low sound_idle front low, List.map_append]
  rfl

theorem decodeLossy_cons_of_low {byte : UInt8} (low : byte.toNat < 0x80) (rest : Bytes) :
    decodeLossy (byte :: rest) = Char.ofNat byte.toNat :: decodeLossy rest :=
  decodeLossy_append_of_low [] low rest

theorem decodeLossy_append_encode (front : Bytes) {c : Char} (low : c.toNat < 0x80)
    (text : List Char) :
    decodeLossy (front ++ encode (c :: text)) = decodeLossy front ++ c :: text := by
  have same : (UInt8.ofNat c.toNat).toNat = c.toNat := toNat_ofNat_of_low low
  have small : (UInt8.ofNat c.toNat).toNat < 0x80 := by rwa [same]
  rw [encode_cons, encodeChar_of_low low, List.singleton_append,
    decodeLossy_append_of_low front small, same, Char.ofNat_toNat, decodeLossy_encode]

theorem high_illFormed (bytes : Bytes) : High (Piece.illFormed bytes).orReplacement :=
  Or.inl (by decide : 0x80 ≤ '\uFFFD'.toNat)

theorem mem_start {byte : UInt8} {piece : Piece} (mem : piece ∈ (start byte).1) :
    High piece.orReplacement ∨ byte.toNat < 0x80 ∧ piece.orReplacement = Char.ofNat byte.toNat := by
  by_cases low : byte.toNat < 0x80
  · rw [start_of_low low] at mem
    rw [List.mem_singleton.mp mem]
    exact Or.inr ⟨low, rfl⟩
  · unfold start at mem
    split at mem
    · rw [List.mem_singleton.mp mem]
      exact Or.inl (high_illFormed _)
    · rename_i begun
      rw [List.mem_singleton.mp mem]
      exact Or.inl (high_ofNat (Nat.le_of_not_lt low))
    · cases mem

theorem mem_step {progress : Progress} (sound : progress.Sound) {byte : UInt8} {piece : Piece}
    (mem : piece ∈ (step progress byte).1) :
    High piece.orReplacement ∨ byte.toNat < 0x80 ∧ piece.orReplacement = Char.ofNat byte.toNat := by
  obtain ⟨seen, awaited⟩ := progress
  cases awaited with
  | nil => exact mem_start mem
  | cons bound later =>
    cases admitted : bound.admits byte with
    | false =>
      simp only [step, admitted, Bool.false_eq_true, if_false, List.mem_cons] at mem
      obtain rfl | mem := mem
      · exact Or.inl (high_illFormed _)
      · exact mem_start mem
    | true =>
      cases later with
      | nil =>
        simp only [step, admitted, if_true, List.mem_singleton] at mem
        rw [mem]
        exact Or.inl (sound.high_last admitted)
      | cons next more =>
        simp only [step, admitted, if_true, List.not_mem_nil] at mem

theorem mem_piecesFrom {progress : Progress} (sound : progress.Sound) {bytes : Bytes}
    {piece : Piece} (mem : piece ∈ piecesFrom progress bytes) :
    High piece.orReplacement ∨ ∃ byte ∈ bytes, byte.toNat < 0x80 ∧
      piece.orReplacement = Char.ofNat byte.toNat := by
  induction bytes generalizing progress with
  | nil =>
    unfold piecesFrom finish at mem
    split at mem
    · cases mem
    · rw [List.mem_singleton.mp mem]
      exact Or.inl (high_illFormed _)
  | cons byte rest ih =>
    rw [piecesFrom, List.mem_append] at mem
    obtain mem | mem := mem
    · exact (mem_step sound mem).imp_right fun own => ⟨byte, List.mem_cons_self .., own⟩
    · obtain high | ⟨other, inside, own⟩ := ih (sound_step sound byte) mem
      · exact Or.inl high
      · exact Or.inr ⟨other, List.mem_cons_of_mem _ inside, own⟩

theorem toNat_ofNat_of_low_byte {byte : UInt8} (low : byte.toNat < 0x80) :
    (Char.ofNat byte.toNat).toNat = byte.toNat :=
  toNat_ofNat_of_valid (Or.inl (by omega))

theorem encodeChar_of_low_byte {byte : UInt8} (low : byte.toNat < 0x80) :
    String.utf8EncodeChar (Char.ofNat byte.toNat) = [byte] := by
  have value : (Char.ofNat byte.toNat).toNat = byte.toNat := toNat_ofNat_of_low_byte low
  rw [encodeChar_of_low (by omega), value, UInt8.ofNat_toNat]

/-- A low character of the text is a byte on its own. -/
theorem mem_of_mem_decodeLossy {bytes : Bytes} {c : Char} (low : ¬ High c)
    (mem : c ∈ decodeLossy bytes) : UInt8.ofNat c.toNat ∈ bytes := by
  obtain ⟨piece, inside, rfl⟩ := List.mem_map.mp mem
  obtain high | ⟨byte, found, small, same⟩ := mem_piecesFrom sound_idle inside
  · exact absurd high low
  · rw [same, toNat_ofNat_of_low_byte small, UInt8.ofNat_toNat]
    exact found

theorem exists_high_of_awaited {seen : Bytes} {bound : Bounds} {later : List Bounds}
    (sound : Progress.Sound ⟨seen, bound :: later⟩) (bytes : Bytes) :
    ∃ piece pieces, piecesFrom ⟨seen, bound :: later⟩ bytes = piece :: pieces ∧
      High piece.orReplacement := by
  induction bytes generalizing seen bound later with
  | nil => exact ⟨_, _, rfl, high_illFormed _⟩
  | cons byte rest ih =>
    have next := sound_step sound byte
    cases admitted : bound.admits byte with
    | false =>
      simp only [piecesFrom, step, admitted, Bool.false_eq_true, if_false, List.cons_append]
      exact ⟨_, _, rfl, high_illFormed _⟩
    | true =>
      cases later with
      | nil =>
        simp only [piecesFrom, step, admitted, if_true, List.singleton_append]
        exact ⟨_, _, rfl, sound.high_last admitted⟩
      | cons second more =>
        simp only [step, admitted, if_true] at next
        simp only [piecesFrom, step, admitted, if_true, List.nil_append]
        exact ih next

/-- Text begins with a low character only where the bytes do. -/
theorem exists_high_of_high {byte : UInt8} (high : 0x80 ≤ byte.toNat) (rest : Bytes) :
    ∃ c later, decodeLossy (byte :: rest) = c :: later ∧ High c := by
  have sound := sound_start byte
  have begun : step .idle byte = start byte := rfl
  simp only [decodeLossy, pieces, piecesFrom, begun]
  unfold start at sound ⊢
  split at sound
  · exact ⟨_, _, rfl, high_illFormed _⟩
  · exact ⟨_, _, rfl, high_ofNat high⟩
  · rename_i awaited opens begun
    cases awaited with
    | nil => exact absurd rfl opens
    | cons bound later =>
      obtain ⟨piece, pieces, same, high⟩ := exists_high_of_awaited sound rest
      exact ⟨_, _, congrArg (List.map _) same, high⟩

theorem decodeLossy_eq_nil_iff {bytes : Bytes} : decodeLossy bytes = [] ↔ bytes = [] := by
  cases bytes with
  | nil => exact ⟨fun _ => rfl, fun _ => rfl⟩
  | cons byte rest =>
    have something : decodeLossy (byte :: rest) ≠ [] := by
      by_cases low : byte.toNat < 0x80
      · rw [decodeLossy_cons_of_low low]
        exact List.cons_ne_nil _ _
      · obtain ⟨c, later, begins, -⟩ := exists_high_of_high (Nat.le_of_not_lt low) rest
        rw [begins]
        exact List.cons_ne_nil _ _
    exact iff_of_false something (List.cons_ne_nil _ _)

/-- A key of low characters stands at the front of the text only where its bytes do. -/
theorem prefix_decodeLossy_iff {key : List Char} (low : ∀ c ∈ key, ¬ High c) {bytes : Bytes} :
    key <+: decodeLossy bytes ↔ encode key <+: bytes := by
  induction key generalizing bytes with
  | nil => simp [encode]
  | cons c key ih =>
    obtain ⟨first, later⟩ := List.forall_mem_cons.mp low
    have small : c.toNat < 0x80 := Nat.lt_of_not_le fun high => first (Or.inl high)
    rw [encode_cons, encodeChar_of_low small, List.singleton_append]
    cases bytes with
    | nil => simp [decodeLossy, pieces, piecesFrom, finish, Progress.idle]
    | cons byte rest =>
      by_cases own : byte.toNat < 0x80
      · have same : c = Char.ofNat byte.toNat ↔ UInt8.ofNat c.toNat = byte := by
          rw [← Char.toNat_inj, toNat_ofNat_of_low_byte own, ← UInt8.toNat_inj,
            toNat_ofNat_of_low small]
        rw [decodeLossy_cons_of_low own, List.cons_prefix_cons, List.cons_prefix_cons, same,
          ih later]
      · obtain ⟨other, text, begins, high⟩ := exists_high_of_high (Nat.le_of_not_lt own) rest
        have differ : UInt8.ofNat c.toNat ≠ byte := by
          rintro rfl
          rw [toNat_ofNat_of_low small] at own
          exact own small
        rw [begins, List.cons_prefix_cons, List.cons_prefix_cons]
        constructor
        · rintro ⟨rfl, -⟩
          exact absurd high first
        · rintro ⟨same, -⟩
          exact absurd same differ

end Utf8

end LanguageClient
