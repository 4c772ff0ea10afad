import LanguageClient.Text.Utf8

set_option autoImplicit false

namespace LanguageClient

namespace Utf8

theorem admits_ofNat {least greatest value : Nat} (lower : least ≤ value) (upper : value ≤ greatest)
    (byte : greatest < 256) :
    (Bounds.mk (.ofNat least) (.ofNat greatest)).admits (.ofNat value) = true := by
  simp only [Bounds.admits, Bool.and_eq_true, decide_eq_true_eq, UInt8.le_iff_toNat_le,
    UInt8.toNat_ofNat']
  omega

theorem continuation_admits (value : Nat) :
    continuation.admits (.ofNat (value % 64 + 0x80)) = true := by
  have upper : value % 64 + 0x80 ≤ 0xBF := by omega
  exact admits_ofNat (Nat.le_add_left 0x80 _) upper (by decide)

theorem following_ofNat {value : Nat} (byte : value < 256) :
    following (.ofNat value) =
      if value < 0x80 then some []
      else if value < 0xC2 then none
      else if value < 0xE0 then some [continuation]
      else if value = 0xE0 then some [⟨0xA0, 0xBF⟩, continuation]
      else if value = 0xED then some [⟨0x80, 0x9F⟩, continuation]
      else if value < 0xF0 then some [continuation, continuation]
      else if value = 0xF0 then some [⟨0x90, 0xBF⟩, continuation, continuation]
      else if value < 0xF4 then some [continuation, continuation, continuation]
      else if value = 0xF4 then some [⟨0x80, 0x8F⟩, continuation, continuation]
      else none := by
  simp only [following, UInt8.lt_iff_toNat_lt, ← UInt8.toNat_inj, UInt8.toNat_ofNat']
  simp only [Nat.mod_eq_of_lt byte]
  rfl

/-- Bytes that are admitted one after the other complete the character begun. -/
theorem piecesFrom_admitted (bounds : List Bounds) (bound : Bounds) (seen later : Bytes)
    (byte : UInt8) (count : bounds.length = later.length)
    (fit : ∀ pair ∈ (bound :: bounds).zip (byte :: later), pair.1.admits pair.2 = true)
    (rest : Bytes) :
    piecesFrom ⟨seen, bound :: bounds⟩ (byte :: later ++ rest) =
      .character (character (seen ++ byte :: later)) :: piecesFrom .idle rest := by
  induction bounds generalizing bound seen later byte with
  | nil =>
    obtain rfl := List.length_eq_zero_iff.mp count.symm
    have admitted : bound.admits byte = true := fit _ (List.mem_cons_self ..)
    simp only [List.cons_append, List.nil_append, piecesFrom, step, admitted, if_true]
  | cons next bounds ih =>
    cases later with
    | nil => cases count
    | cons second later =>
      have admitted : bound.admits byte = true := fit _ (List.mem_cons_self ..)
      have tail := ih next (seen ++ [byte]) later second (Nat.succ.inj count) fun pair mem =>
        fit pair (List.mem_cons_of_mem _ mem)
      simp only [List.append_assoc, List.singleton_append] at tail
      rw [List.cons_append, piecesFrom]
      simp only [step, admitted, if_true, List.nil_append]
      exact tail

theorem piecesFrom_character {first : UInt8} {bounds : List Bounds} {later : Bytes}
    (begun : following first = some bounds) (count : bounds.length = later.length)
    (fit : ∀ pair ∈ bounds.zip later, pair.1.admits pair.2 = true) (rest : Bytes) :
    piecesFrom .idle (first :: later ++ rest) =
      .character (character (first :: later)) :: piecesFrom .idle rest := by
  rw [List.cons_append, piecesFrom]
  cases bounds with
  | nil =>
    obtain rfl := List.length_eq_zero_iff.mp count.symm
    simp only [step, Progress.idle, start, begun]
    rfl
  | cons bound bounds =>
    cases later with
    | nil => cases count
    | cons second later =>
      simp only [step, Progress.idle, start, begun, List.nil_append]
      exact piecesFrom_admitted bounds bound [first] later second (Nat.succ.inj count) fit rest

/-- The second of three bytes is bounded so that no surrogate and no shorter character is
written. -/
theorem following_three {value : Nat} (lower : 0x800 ≤ value) (upper : value ≤ 0xFFFF)
    (valid : value < 0xD800 ∨ 0xDFFF < value) :
    ∃ second, following (.ofNat (value / 4096 % 0x10 + 0xe0)) = some [second, continuation] ∧
      second.admits (.ofNat (value / 64 % 0x40 + 0x80)) = true := by
  by_cases least : value < 0x1000
  · refine ⟨⟨.ofNat 0xA0, .ofNat 0xBF⟩, ?_, admits_ofNat (by omega) (by omega) (by decide)⟩
    rw [following_ofNat (by omega), if_neg (by omega), if_neg (by omega), if_neg (by omega),
      if_pos (by omega)]
    rfl
  · by_cases surrogates : 0xD000 ≤ value ∧ value < 0xE000
    · refine ⟨⟨.ofNat 0x80, .ofNat 0x9F⟩, ?_, admits_ofNat (by omega) (by omega) (by decide)⟩
      rw [following_ofNat (by omega), if_neg (by omega), if_neg (by omega), if_neg (by omega),
        if_neg (by omega), if_pos (by omega)]
      rfl
    · refine ⟨continuation, ?_, continuation_admits _⟩
      rw [following_ofNat (by omega), if_neg (by omega), if_neg (by omega), if_neg (by omega),
        if_neg (by omega), if_neg (by omega), if_pos (by omega)]

/-- The second of four bytes is bounded so that no shorter character and none past the last one is
written. -/
theorem following_four {value : Nat} (lower : 0x10000 ≤ value) (upper : value < 0x110000) :
    ∃ second, following (.ofNat (value / 262144 % 0x08 + 0xf0)) =
        some [second, continuation, continuation] ∧
      second.admits (.ofNat (value / 4096 % 0x40 + 0x80)) = true := by
  by_cases least : value < 0x40000
  · refine ⟨⟨.ofNat 0x90, .ofNat 0xBF⟩, ?_, admits_ofNat (by omega) (by omega) (by decide)⟩
    rw [following_ofNat (by omega), if_neg (by omega), if_neg (by omega), if_neg (by omega),
      if_neg (by omega), if_neg (by omega), if_neg (by omega), if_pos (by omega)]
    rfl
  · by_cases greatest : 0x100000 ≤ value
    · refine ⟨⟨.ofNat 0x80, .ofNat 0x8F⟩, ?_, admits_ofNat (by omega) (by omega) (by decide)⟩
      rw [following_ofNat (by omega), if_neg (by omega), if_neg (by omega), if_neg (by omega),
        if_neg (by omega), if_neg (by omega), if_neg (by omega), if_neg (by omega),
        if_neg (by omega), if_pos (by omega)]
      rfl
    · refine ⟨continuation, ?_, continuation_admits _⟩
      rw [following_ofNat (by omega), if_neg (by omega), if_neg (by omega), if_neg (by omega),
        if_neg (by omega), if_neg (by omega), if_neg (by omega), if_neg (by omega),
        if_pos (by omega)]

theorem piecesFrom_encodeChar (c : Char) (rest : Bytes) :
    piecesFrom .idle (String.utf8EncodeChar c ++ rest) =
      .character c :: piecesFrom .idle rest := by
  have valid := c.valid
  have same : Char.ofNat c.val.toNat = c := Char.ofNat_toNat c
  simp only [UInt32.isValidChar, Nat.isValidChar] at valid
  unfold String.utf8EncodeChar
  generalize c.val.toNat = value at valid same
  dsimp only
  split
  · have begun : following (.ofNat value) = some [] := by
      rw [following_ofNat (by omega), if_pos (by omega)]
    have low : (UInt8.ofNat value).toNat = value := by
      rw [UInt8.toNat_ofNat']
      omega
    rw [piecesFrom_character begun rfl nofun, character, low, same]
  · split
    · have begun : following (.ofNat (value / 64 % 0x20 + 0xc0)) = some [continuation] := by
        rw [following_ofNat (by omega), if_neg (by omega), if_neg (by omega), if_pos (by omega)]
      have fit : ∀ pair ∈ [continuation].zip [UInt8.ofNat (value % 0x40 + 0x80)],
          pair.1.admits pair.2 = true :=
        List.forall_mem_cons.mpr ⟨continuation_admits _, nofun⟩
      rw [piecesFrom_character begun rfl fit, character]
      simp only [UInt8.toNat_ofNat']
      have whole : (value / 64 % 0x20 + 0xc0) % 2 ^ 8 % 32 * 64 +
          (value % 0x40 + 0x80) % 2 ^ 8 % 64 = value := by omega
      rw [whole, same]
    · split
      · obtain ⟨second, begun, admitted⟩ := following_three (by omega : 0x800 ≤ value)
          (by omega) (by omega)
        have fit : ∀ pair ∈ [second, continuation].zip
            [UInt8.ofNat (value / 64 % 0x40 + 0x80), .ofNat (value % 0x40 + 0x80)],
            pair.1.admits pair.2 = true :=
          List.forall_mem_cons.mpr ⟨admitted,
            List.forall_mem_cons.mpr ⟨continuation_admits _, nofun⟩⟩
        rw [piecesFrom_character begun rfl fit, character]
        simp only [UInt8.toNat_ofNat']
        have whole : (value / 4096 % 0x10 + 0xe0) % 2 ^ 8 % 16 * 4096 +
            (value / 64 % 0x40 + 0x80) % 2 ^ 8 % 64 * 64 +
              (value % 0x40 + 0x80) % 2 ^ 8 % 64 = value := by omega
        rw [whole, same]
      · obtain ⟨second, begun, admitted⟩ := following_four (by omega : 0x10000 ≤ value) (by omega)
        have fit : ∀ pair ∈ [second, continuation, continuation].zip
            [UInt8.ofNat (value / 4096 % 0x40 + 0x80), .ofNat (value / 64 % 0x40 + 0x80),
              .ofNat (value % 0x40 + 0x80)], pair.1.admits pair.2 = true :=
          List.forall_mem_cons.mpr ⟨admitted, List.forall_mem_cons.mpr ⟨continuation_admits _,
            List.forall_mem_cons.mpr ⟨continuation_admits _, nofun⟩⟩⟩
        rw [piecesFrom_character begun rfl fit, character]
        simp only [UInt8.toNat_ofNat']
        have whole : (value / 262144 % 0x08 + 0xf0) % 2 ^ 8 % 8 * 262144 +
            (value / 4096 % 0x40 + 0x80) % 2 ^ 8 % 64 * 4096 +
              (value / 64 % 0x40 + 0x80) % 2 ^ 8 % 64 * 64 +
                (value % 0x40 + 0x80) % 2 ^ 8 % 64 = value := by omega
        rw [whole, same]

/-- A byte below 128 is written only for the character of that value. -/
theorem toNat_of_mem_encodeChar {c : Char} {byte : UInt8} (low : byte.toNat < 0x80)
    (mem : byte ∈ String.utf8EncodeChar c) : c.toNat = byte.toNat := by
  change c.val.toNat = byte.toNat
  unfold String.utf8EncodeChar at mem
  generalize c.val.toNat = value at mem
  dsimp only at mem
  split at mem
  · rw [List.mem_singleton.mp mem, UInt8.toNat_ofNat']
    omega
  · repeat' split at mem
    all_goals
      simp only [List.mem_cons, List.not_mem_nil, or_false, ← UInt8.toNat_inj,
        UInt8.toNat_ofNat'] at mem
      omega

theorem pieces_encode (text : List Char) : pieces (encode text) = text.map .character := by
  unfold pieces
  induction text with
  | nil => rfl
  | cons c rest ih =>
    rw [encode, List.flatMap_cons, piecesFrom_encodeChar]
    exact congrArg _ ih

theorem decodeLossy_encode (text : List Char) : decodeLossy (encode text) = text := by
  rw [decodeLossy, pieces_encode, List.map_map]
  exact List.map_id _

theorem text?_encode (text : List Char) : text? (encode text) = some (String.ofList text) := by
  have read (chars : List Char) :
      (chars.map Piece.character).mapM Piece.character? = some chars := by
    induction chars with
    | nil => rfl
    | cons c rest ih =>
      rw [List.map_cons, List.mapM_cons, ih]
      rfl
  rw [text?, decode?, pieces_encode, read]
  rfl

theorem encode_append (front back : List Char) :
    encode (front ++ back) = encode front ++ encode back :=
  List.flatMap_append

theorem encode_cons (c : Char) (text : List Char) :
    encode (c :: text) = String.utf8EncodeChar c ++ encode text :=
  List.flatMap_cons

theorem toNat_ofNat_of_low {value : Nat} (low : value < 0x80) :
    (UInt8.ofNat value).toNat = value := by
  rw [UInt8.toNat_ofNat']
  omega

theorem encodeChar_of_low {c : Char} (low : c.toNat < 0x80) :
    String.utf8EncodeChar c = [UInt8.ofNat c.toNat] := by
  change c.val.toNat < 0x80 at low
  rw [String.utf8EncodeChar, if_pos (by omega)]
  rfl

theorem encode_of_low {text : List Char} (low : ∀ c ∈ text, c.toNat < 0x80) :
    encode text = text.map fun c => UInt8.ofNat c.toNat := by
  induction text with
  | nil => rfl
  | cons c rest ih =>
    obtain ⟨first, later⟩ := List.forall_mem_cons.mp low
    rw [encode_cons, encodeChar_of_low first, ih later]
    rfl

end Utf8

end LanguageClient
