import LanguageClient.Path.Uri
import LanguageClient.Proofs.Text.Lossy
import LanguageClient.Proofs.Text.Split
import Mathlib.Data.List.Basic

set_option autoImplicit false

namespace LanguageClient

namespace Uri

/-- The value of a digit to base 16, capital or not. -/
def hexValue? (byte : UInt8) : Option Nat :=
  if 0x30 ≤ byte ∧ byte ≤ 0x39 then some (byte.toNat - 0x30)
  else if 0x41 ≤ byte ∧ byte ≤ 0x46 then some (byte.toNat - 0x37)
  else if 0x61 ≤ byte ∧ byte ≤ 0x66 then some (byte.toNat - 0x57)
  else none

/-- Percent-decoding: a percent sign before two digits is the byte of their value, and every other
byte stands for itself. -/
def percentDecode : Bytes → Bytes
  | sign :: high :: low :: rest =>
    if sign = 0x25 then
      match hexValue? high, hexValue? low with
      | some upper, some lower => .ofNat (16 * upper + lower) :: percentDecode rest
      | _, _ => sign :: percentDecode (high :: low :: rest)
    else sign :: percentDecode (high :: low :: rest)
  | bytes => bytes

/-- A text that spells bytes: a character other than the percent sign for its own bytes, or a
percent sign with two digits for any byte. -/
inductive Spells : List Char → Bytes → Prop where
  | nil : Spells [] []
  | plain {c : Char} {text : List Char} {bytes : Bytes} (plain : c ≠ '%')
      (further : Spells text bytes) : Spells (c :: text) (String.utf8EncodeChar c ++ bytes)
  | percent {byte : UInt8} {text : List Char} {bytes : Bytes} (further : Spells text bytes) :
      Spells (percent byte ++ text) (byte :: bytes)

/-! ### Decoding -/

theorem percentDecode_cons_of_ne {byte : UInt8} (plain : byte ≠ 0x25) (rest : Bytes) :
    percentDecode (byte :: rest) = byte :: percentDecode rest := by
  match rest with
  | [] => rfl
  | [_] => rfl
  | _ :: _ :: _ => rw [percentDecode, if_neg plain]

theorem percentDecode_append_of_not_mem {front : Bytes} (plain : 0x25 ∉ front) (rest : Bytes) :
    percentDecode (front ++ rest) = front ++ percentDecode rest := by
  induction front with
  | nil => rfl
  | cons byte later ih =>
    rw [List.mem_cons, not_or] at plain
    rw [List.cons_append, percentDecode_cons_of_ne (Ne.symm plain.1), ih plain.2]
    rfl

theorem hexValue?_hexDigit : ∀ value < 16,
    String.utf8EncodeChar (hexDigit value) = [.ofNat (hexDigit value).toNat] ∧
      hexValue? (.ofNat (hexDigit value).toNat) = some value ∧ hexDigit value ≠ '/' := by
  decide

theorem percentDecode_percent (byte : UInt8) (rest : Bytes) :
    percentDecode (Utf8.encode (percent byte) ++ rest) = byte :: percentDecode rest := by
  have size : byte.toNat < 256 := byte.toNat_lt
  obtain ⟨first, upper, -⟩ := hexValue?_hexDigit (byte.toNat / 16) (by omega)
  obtain ⟨second, lower, -⟩ := hexValue?_hexDigit (byte.toNat % 16) (by omega)
  have sign : String.utf8EncodeChar '%' = [0x25] := by decide
  have written : Utf8.encode (percent byte) =
      [0x25, .ofNat (hexDigit (byte.toNat / 16)).toNat,
        .ofNat (hexDigit (byte.toNat % 16)).toNat] := by
    simp only [percent, Utf8.encode_cons, sign, first, second]
    rfl
  have whole : 16 * (byte.toNat / 16) + byte.toNat % 16 = byte.toNat := Nat.div_add_mod ..
  rw [written]
  simp only [List.cons_append, List.nil_append, percentDecode, if_true, upper, lower, whole,
    UInt8.ofNat_toNat]

theorem not_mem_encodeChar {c : Char} (plain : c ≠ '%') : 0x25 ∉ String.utf8EncodeChar c := by
  intro mem
  have value : c.toNat = 0x25 := Utf8.toNat_of_mem_encodeChar (by decide) mem
  apply plain
  exact Char.toNat_inj.mp value

theorem Spells.decode {text : List Char} {bytes : Bytes} (spelled : Spells text bytes) :
    percentDecode (Utf8.encode text) = bytes := by
  induction spelled with
  | nil => rfl
  | plain plain _ ih =>
    rw [Utf8.encode_cons, percentDecode_append_of_not_mem (not_mem_encodeChar plain), ih]
  | percent _ ih => rw [Utf8.encode_append, percentDecode_percent, ih]

theorem Spells.append {front back : List Char} {first second : Bytes}
    (spelled : Spells front first) (further : Spells back second) :
    Spells (front ++ back) (first ++ second) := by
  induction spelled with
  | nil => exact further
  | plain plain _ ih =>
    rw [List.append_assoc]
    exact .plain plain ih
  | percent _ ih =>
    rw [List.append_assoc]
    exact .percent ih

/-! ### What is written -/

theorem toNat_of_isLiteral {byte : UInt8} (literal : isLiteral byte = true) :
    byte.toNat < 0x7F ∧ Char.ofNat byte.toNat ∉ reserved := by
  simp only [isLiteral, Bool.and_eq_true, decide_eq_true_eq, UInt8.lt_iff_toNat_lt,
    Bool.not_eq_true', List.contains_eq_mem, decide_eq_false_iff_not] at literal
  exact ⟨literal.1.2, literal.2⟩

theorem spells_percent (byte : UInt8) : Spells (percent byte) [byte] := .percent .nil

theorem spells_character {c : Char} (plain : c ≠ '%') : Spells [c] (String.utf8EncodeChar c) := by
  have alone := Spells.plain plain .nil
  rwa [List.append_nil] at alone

theorem spells_encodeByte (byte : UInt8) : Spells (encodeByte byte) [byte] := by
  unfold encodeByte
  by_cases literal : isLiteral byte = true
  · obtain ⟨low, free⟩ := toNat_of_isLiteral literal
    have plain : Char.ofNat byte.toNat ≠ '%' := by
      intro same
      rw [same] at free
      exact free (by decide)
    have spelled := spells_character plain
    rw [Utf8.encodeChar_of_low_byte (by omega)] at spelled
    rwa [if_pos literal]
  · rw [if_neg literal]
    exact spells_percent byte

theorem spells_encodeName (name : Bytes) : Spells (encodeName name) name := by
  induction name with
  | nil => exact .nil
  | cons byte rest ih => exact (spells_encodeByte byte).append ih

theorem spells_slash {text : List Char} {bytes : Bytes} (further : Spells text bytes) :
    Spells ('/' :: text) (Path.slash :: bytes) :=
  .plain (by decide) further

def escapeChar (c : Char) : List Char :=
  if c = '%' then "%25".toList
  else if c = ' ' then "%20".toList
  else if c = '#' then "%23".toList
  else if c = '?' then "%3F".toList
  else [c]

/-- The replacements that are made one after the other come to a single one, since none of them
finds anything in a code that an earlier one has written. -/
theorem escape_eq_flatMap (text : List Char) : escape text = text.flatMap escapeChar := by
  simp only [escape, replace, List.flatMap_assoc]
  refine List.flatMap_congr fun c _ => ?_
  unfold escapeChar
  by_cases sign : c = '%'
  · subst sign
    decide
  by_cases blank : c = ' '
  · subst blank
    decide
  by_cases hash : c = '#'
  · subst hash
    decide
  by_cases question : c = '?'
  · subst question
    decide
  simp [sign, blank, hash, question]

/-- A character that is escaped is written as the percent sign for its only byte. -/
theorem spells_escapeChar (c : Char) : Spells (escapeChar c) (String.utf8EncodeChar c) := by
  unfold escapeChar
  by_cases sign : c = '%'
  · subst sign
    exact spells_percent 0x25
  by_cases blank : c = ' '
  · subst blank
    exact spells_percent 0x20
  by_cases hash : c = '#'
  · subst hash
    exact spells_percent 0x23
  by_cases question : c = '?'
  · subst question
    exact spells_percent 0x3F
  rw [if_neg sign, if_neg blank, if_neg hash, if_neg question]
  exact spells_character sign

theorem spells_escapeText (path : Path) :
    Spells (escapeText path) (Utf8.encode (Utf8.decodeLossy path)) := by
  rw [escapeText, escape_eq_flatMap]
  induction Utf8.decodeLossy path with
  | nil => exact .nil
  | cons c text ih =>
    rw [List.flatMap_cons, Utf8.encode_cons]
    exact (spells_escapeChar c).append ih

def joined (path : Path) : Bytes := Path.slash :: [Path.slash].intercalate (Path.names path)

theorem spells_names {name : Bytes} {names : List Bytes} :
    Spells ((name :: names).flatMap fun name => '/' :: encodeName name)
      (Path.slash :: [Path.slash].intercalate (name :: names)) := by
  induction names generalizing name with
  | nil =>
    rw [List.intercalate_singleton, List.flatMap_singleton]
    exact spells_slash (spells_encodeName name)
  | cons next rest ih =>
    rw [List.intercalate_cons_cons, List.append_assoc, List.flatMap_cons, List.cons_append]
    exact spells_slash ((spells_encodeName name).append ih)

theorem spells_pathChars (path : Path) : Spells (pathChars path) (joined path) := by
  unfold pathChars joined
  cases Path.names path with
  | nil => exact spells_slash .nil
  | cons name names => exact spells_names

end Uri

namespace Path

theorem mem_names {path : Path} {name : Bytes} (mem : name ∈ names path) :
    slash ∉ name ∧ name ≠ [] ∧ name ≠ [dot] := by
  obtain ⟨piece, kept⟩ := List.mem_filter.mp mem
  exact ⟨Split.not_mem_of_mem_on piece, of_decide_eq_true kept⟩

/-- The names of a path can be read off the path that they make up. -/
theorem names_joined (path : Path) : names (Uri.joined path) = names path := by
  have front (bytes : Bytes) : Split.on slash (slash :: bytes) = [] :: Split.on slash bytes := by
    rw [Split.on, if_pos rfl]
  have kept : (names path).filter (fun name => name ≠ [] ∧ name ≠ [dot]) = names path :=
    List.filter_eq_self.mpr fun name mem => decide_eq_true (mem_names mem).2
  -- The slash at the front only adds an empty piece, which is no name.
  rw [Uri.joined, names, front]
  by_cases nothing : names path = []
  · rw [nothing]
    rfl
  · rw [Split.on_intercalate (fun name mem => (mem_names mem).1) nothing]
    simpa using kept

theorem isAbsolute_join {folder : Path} (absolute : isAbsolute folder = true) (path : Path) :
    isAbsolute (join folder path) = true := by
  have head : folder.head? = some slash := of_decide_eq_true absolute
  obtain ⟨rest, whole⟩ := List.head?_eq_some_iff.mp head
  unfold join
  split
  · assumption
  · split
    · rw [whole]
      rfl
    · rw [whole]
      rfl

end Path

namespace Uri

/-! ### The URI of a path -/

theorem ofPath_of_absolute {current : Option Path} {path : Path}
    (rooted : Path.isAbsolute (absolute current path) = true) :
    ofPath current path = "file://" ++ String.ofList (pathChars (absolute current path)) := by
  rw [ofPath, if_pos rooted, String.ofList_append]
  rfl

theorem ofPath_of_relative {current : Option Path} {path : Path}
    (unrooted : Path.isAbsolute (absolute current path) = false) :
    ofPath current path = "file://" ++ String.ofList (escapeText (absolute current path)) := by
  rw [ofPath, unrooted, String.ofList_append]
  rfl

theorem pathChars_eq_iff {path other : Path} :
    pathChars path = pathChars other ↔ Path.names path = Path.names other := by
  constructor
  · intro same
    have decoded := (spells_pathChars path).decode
    rw [same, (spells_pathChars other).decode] at decoded
    rw [← Path.names_joined path, ← decoded, Path.names_joined]
  · intro same
    rw [pathChars, same, pathChars]

/-! ### The URI of a folder -/

theorem slash_not_mem_encodeByte (byte : UInt8) : '/' ∉ encodeByte byte := by
  have size : byte.toNat < 256 := byte.toNat_lt
  unfold encodeByte
  by_cases literal : isLiteral byte = true
  · obtain ⟨-, free⟩ := toNat_of_isLiteral literal
    rw [if_pos literal, List.mem_singleton]
    intro same
    rw [← same] at free
    exact free (by decide)
  · have upper := (hexValue?_hexDigit (byte.toNat / 16) (by omega)).2.2
    have lower := (hexValue?_hexDigit (byte.toNat % 16) (by omega)).2.2
    rw [if_neg literal]
    simp [percent, upper.symm, lower.symm]

theorem encodeName_ne_nil {name : Bytes} (nonempty : name ≠ []) : encodeName name ≠ [] := by
  intro nothing
  have spelled := (spells_encodeName name).decode
  rw [nothing] at spelled
  exact nonempty spelled.symm

theorem pathChars_of_named {path : Path} (named : Path.names path ≠ []) :
    pathChars path = (Path.names path).flatMap fun name => '/' :: encodeName name := by
  unfold pathChars
  split
  · contradiction
  · rfl

/-- The text of a file's names ends in a slash only where there are none. -/
theorem getLast?_pathChars {path : Path} (named : Path.names path ≠ []) :
    (pathChars path).getLast? ≠ some '/' := by
  obtain ⟨before, last, whole⟩ :
      ∃ before last, Path.names path = before ++ [last] :=
    ⟨_, _, (List.dropLast_concat_getLast named).symm⟩
  have nonempty : encodeName last ≠ [] := by
    apply encodeName_ne_nil
    exact (Path.mem_names (whole ▸ List.mem_append_right _ (List.mem_singleton_self _))).2.1
  have text : pathChars path =
      (before.flatMap fun name => '/' :: encodeName name) ++ '/' :: encodeName last := by
    rw [pathChars_of_named named, whole, List.flatMap_append, List.flatMap_singleton]
  intro ends
  rw [text, List.getLast?_append_of_ne_nil _ (List.cons_ne_nil _ _),
    List.getLast?_cons_of_ne_nil nonempty] at ends
  obtain ⟨byte, -, mem⟩ := List.mem_flatMap.mp (List.mem_of_getLast? ends)
  exact slash_not_mem_encodeByte byte mem

/-- A slash behind each name but the first one's comes to a slash before each and one at the end. -/
theorem folderChars_eq (path : Path) : folderChars path = endWithSlash (pathChars path) := by
  unfold endWithSlash
  by_cases nothing : Path.names path = []
  · have text : pathChars path = ['/'] := by rw [pathChars, nothing]
    rw [text, folderChars, nothing]
    rfl
  · rw [if_neg (getLast?_pathChars nothing)]
    have shifted (names : List Bytes) :
        '/' :: names.flatMap (fun name => encodeName name ++ ['/']) =
          (names.flatMap fun name => '/' :: encodeName name) ++ ['/'] := by
      induction names with
      | nil => rfl
      | cons name rest ih => simp [List.flatMap_cons, ← ih]
    rw [folderChars, shifted, pathChars_of_named nothing]

theorem endWithSlash_append {front back : List Char} (nonempty : back ≠ []) :
    endWithSlash (front ++ back) = front ++ endWithSlash back := by
  unfold endWithSlash
  rw [List.getLast?_append_of_ne_nil front nonempty]
  split
  · rfl
  · rw [List.append_assoc]

theorem toList_ofFolder (current : Option Path) (path : Path) :
    (ofFolder current path).toList = endWithSlash (ofPath current path).toList := by
  by_cases rooted : Path.isAbsolute (absolute current path) = true
  · have nonempty : pathChars (absolute current path) ≠ [] := by
      intro nothing
      have spelled := (spells_pathChars (absolute current path)).decode
      rw [nothing] at spelled
      cases spelled
    rw [ofFolder, ofPath, if_pos rooted, if_pos rooted, String.toList_ofList, String.toList_ofList,
      endWithSlash_append nonempty, folderChars_eq]
  · rw [ofFolder, ofPath, if_neg rooted, if_neg rooted, String.toList_ofList, String.toList_ofList]

theorem getLast?_endWithSlash (text : List Char) : (endWithSlash text).getLast? = some '/' := by
  unfold endWithSlash
  split
  · assumption
  · simp

/-- With an absolute current folder every path is made absolute. What is made absolute is read back
from its URI, so that two such paths have one URI if and only if they have the same names. What
stays relative is read back as text. The URI of a folder is that of the file, with a slash at its
end. -/
theorem ofPath_read_back :
    (∀ folder path, Path.isAbsolute folder = true →
      Path.isAbsolute (absolute (some folder) path) = true) ∧
    (∀ current path, Path.isAbsolute (absolute current path) = true →
      ∃ text, ofPath current path = "file://" ++ text ∧
        percentDecode (Utf8.bytes text) = joined (absolute current path)) ∧
    (∀ current path others other, Path.isAbsolute (absolute current path) = true →
      Path.isAbsolute (absolute others other) = true →
        (ofPath current path = ofPath others other ↔
          Path.names (absolute current path) = Path.names (absolute others other))) ∧
    (∀ path, Path.isAbsolute path = false →
      ∃ text, ofPath none path = "file://" ++ text ∧
        percentDecode (Utf8.bytes text) = Utf8.bytes (Utf8.lossyText path)) ∧
    ∀ current path, (ofFolder current path).toList.getLast? = some '/' ∧
      ofFolder current path =
        if (ofPath current path).toList.getLast? = some '/' then ofPath current path
        else ofPath current path ++ "/" := by
  refine ⟨?_, ?_, ?_, ?_, ?_⟩
  · intro folder path rooted
    exact Path.isAbsolute_join rooted path
  · intro current path rooted
    refine ⟨_, ofPath_of_absolute rooted, ?_⟩
    rw [Utf8.bytes, String.toList_ofList]
    exact (spells_pathChars _).decode
  · intro current path others other rooted also
    rw [ofPath_of_absolute rooted, ofPath_of_absolute also, String.append_right_inj,
      String.ofList_inj, pathChars_eq_iff]
  · intro path unrooted
    have stays : Path.isAbsolute (absolute none path) = false := unrooted
    refine ⟨_, ofPath_of_relative stays, ?_⟩
    rw [Utf8.bytes, Utf8.bytes, Utf8.lossyText, String.toList_ofList, String.toList_ofList]
    exact (spells_escapeText path).decode
  · intro current path
    have text := toList_ofFolder current path
    refine ⟨?_, ?_⟩
    · rw [text]
      exact getLast?_endWithSlash _
    · apply String.toList_inj.mp
      rw [text, endWithSlash]
      split
      · rfl
      · rw [String.toList_append]
        rfl

/-- Two ways to one file whose names hold a blank, a percent sign and a byte that is no text, and a
relative path that is cut inside a character. -/
theorem ofPath_read_back_of_odd_names :
    let folder := Utf8.bytes "/usr/"
    let path := Utf8.bytes "./a b//%41/" ++ [0xFF]
    let other := Utf8.bytes "/usr/a b/./%41/" ++ 0xFF :: Utf8.bytes "/"
    let relative := Utf8.bytes "a b%41#" ++ [0xC3]
    Path.isAbsolute folder = true ∧ Path.isAbsolute other = true ∧
      Path.isAbsolute relative = false ∧ ofPath (some folder) path = ofPath none other ∧
      (∃ text, ofPath (some folder) path = "file://" ++ text ∧
        percentDecode (Utf8.bytes text) = Utf8.bytes "/usr/a b/%41/" ++ [0xFF]) ∧
      (∃ text, ofPath none relative = "file://" ++ text ∧
        percentDecode (Utf8.bytes text) = Utf8.bytes "a b%41#\uFFFD") ∧
      ofFolder none relative = ofPath none relative ++ "/" := by
  intro folder path other relative
  obtain ⟨rooted, read, same, relativeRead, folders⟩ := ofPath_read_back
  have absoluteFolder : Path.isAbsolute folder = true := by decide +kernel
  have absoluteOther : Path.isAbsolute other = true := by decide +kernel
  have isRelative : Path.isAbsolute relative = false := by decide +kernel
  have made := rooted folder path absoluteFolder
  have names : Path.names (absolute (some folder) path) = Path.names (absolute none other) := by
    decide +kernel
  have whole : joined (absolute (some folder) path) = Utf8.bytes "/usr/a b/%41/" ++ [0xFF] := by
    decide +kernel
  have lossy : Utf8.lossyText relative = "a b%41#\uFFFD" := by decide +kernel
  have openEnded : ¬ (ofPath none relative).toList.getLast? = some '/' := by decide +kernel
  refine ⟨absoluteFolder, absoluteOther, isRelative, ?_, ?_, ?_, ?_⟩
  · exact (same _ _ none other made absoluteOther).mpr names
  · rw [← whole]
    exact read _ _ made
  · rw [← lossy]
    exact relativeRead relative isRelative
  · rw [(folders none relative).2, if_neg openEnded]

end Uri

end LanguageClient
