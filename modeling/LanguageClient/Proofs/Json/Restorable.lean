import LanguageClient.Json.Parser
import LanguageClient.Proofs.Json.Numeral

set_option autoImplicit false

/-!
What a value must be to come back from its text: its objects list their members in order, and its
doubles are read back, each by itself. A double that is read back is written as a literal that
stands for it, so that it is also read before other bytes.
-/

namespace LanguageClient

namespace Json

/-! ### What is asked of a value -/

def ReadBack (real : Binary64) : Prop :=
  parse (encode (.number (.double real))) = .ok (.number (.double real))

mutual

/-- The numbers of a value that are not whole. -/
def doubles : Json → List Binary64
  | .null | .bool _ | .number (.integer _) | .string _ => []
  | .number (.double real) => [real]
  | .array elements => doublesOfElements elements
  | .object members => doublesOfMembers members

def doublesOfElements : List Json → List Binary64
  | [] => []
  | value :: rest => value.doubles ++ doublesOfElements rest

def doublesOfMembers : List (String × Json) → List Binary64
  | [] => []
  | (_, value) :: rest => value.doubles ++ doublesOfMembers rest

end

/-- Objects list their members in order, as every value that is read does, and doubles are read
back. -/
structure Restorable (value : Json) : Prop where
  canonical : value.Canonical
  exact : ∀ real ∈ value.doubles, ReadBack real

theorem restorable_null : Json.null.Restorable := ⟨trivial, nofun⟩

theorem restorable_string (text : String) : (Json.string text).Restorable :=
  ⟨trivial, nofun⟩

theorem restorable_ofInt64 (value : Int64) : (Json.ofInt64 value).Restorable :=
  ⟨trivial, nofun⟩

theorem canonicalElements_iff {elements : List Json} :
    CanonicalElements elements ↔ ∀ value ∈ elements, value.Canonical := by
  induction elements with
  | nil => simp [CanonicalElements]
  | cons value rest ih => simp [CanonicalElements, ih]

theorem canonicalMembers_iff {members : List (String × Json)} :
    CanonicalMembers members ↔ ∀ member ∈ members, member.2.Canonical := by
  induction members with
  | nil => simp [CanonicalMembers]
  | cons member rest ih => simp [CanonicalMembers, ih]

theorem mem_doublesOfElements {elements : List Json} {real : Binary64} :
    real ∈ doublesOfElements elements ↔ ∃ value ∈ elements, real ∈ value.doubles := by
  induction elements with
  | nil => simp [doublesOfElements]
  | cons value rest ih => simp [doublesOfElements, ih]

theorem mem_doublesOfMembers {members : List (String × Json)} {real : Binary64} :
    real ∈ doublesOfMembers members ↔ ∃ member ∈ members, real ∈ member.2.doubles := by
  induction members with
  | nil => simp [doublesOfMembers]
  | cons member rest ih => simp [doublesOfMembers, ih]

theorem restorable_array_iff {elements : List Json} :
    (array elements).Restorable ↔ ∀ value ∈ elements, value.Restorable := by
  constructor
  · rintro ⟨canonical, exact⟩ value mem
    exact ⟨canonicalElements_iff.mp canonical value mem,
      fun real inside => exact real (mem_doublesOfElements.mpr ⟨value, mem, inside⟩)⟩
  · intro all
    refine ⟨canonicalElements_iff.mpr fun value mem => (all value mem).canonical, ?_⟩
    intro real inside
    obtain ⟨value, mem, inside⟩ := mem_doublesOfElements.mp inside
    exact (all value mem).exact real inside

theorem restorable_object_iff {members : List (String × Json)} :
    (object members).Restorable ↔
      members.Pairwise (·.1 < ·.1) ∧ ∀ member ∈ members, member.2.Restorable := by
  constructor
  · rintro ⟨⟨sorted, canonical⟩, exact⟩
    refine ⟨sorted, fun member mem => ⟨canonicalMembers_iff.mp canonical member mem, ?_⟩⟩
    exact fun real inside => exact real (mem_doublesOfMembers.mpr ⟨member, mem, inside⟩)
  · rintro ⟨sorted, all⟩
    refine ⟨⟨sorted, canonicalMembers_iff.mpr fun member mem => (all member mem).canonical⟩, ?_⟩
    intro real inside
    obtain ⟨member, mem, inside⟩ := mem_doublesOfMembers.mp inside
    exact (all member mem).exact real inside

theorem restorable_object {members : List (String × Json)}
    (keys : (members.map Prod.fst).Pairwise (· < ·))
    (all : ∀ member ∈ members, member.2.Restorable) : (object members).Restorable :=
  restorable_object_iff.mpr ⟨List.pairwise_map.mp keys, all⟩

/-! ### Tokens -/

theorem isBlank_eq_false {byte : UInt8} (visible : 0x20 < byte.toNat) : isBlank byte = false := by
  simp only [isBlank, Bool.or_eq_false_iff, decide_eq_false_iff_not, ← UInt8.toNat_inj]
  refine ⟨⟨⟨?_, ?_⟩, ?_⟩, ?_⟩ <;>
  · intro same
    rw [same] at visible
    exact absurd visible (by decide)

theorem skipBlank_cons {byte : UInt8} (visible : isBlank byte = false) (rest : Bytes) :
    skipBlank (byte :: rest) = byte :: rest :=
  List.dropWhile_cons_of_neg (by rw [visible]; exact Bool.false_ne_true)

theorem skipBlank_of_visible {bytes : Bytes} (visible : ∀ byte ∈ bytes, 0x20 < byte.toNat) :
    skipBlank bytes = bytes := by
  cases bytes with
  | nil => rfl
  | cons byte rest =>
    exact skipBlank_cons (isBlank_eq_false (visible byte (List.mem_cons_self ..))) rest

/-- How the parts of arrays and objects are read, if there may be any. -/
def innerReader? (steps : Nat) : Nat → Option (Reader Json)
  | 0 => none
  | levels + 1 => some (readValue steps levels)

theorem readValue_eq (steps levels : Nat) :
    readValue steps levels = readWith steps (innerReader? steps levels) := by
  cases levels <;> rfl

theorem ne_of_toNat_lt {byte other : UInt8} (less : byte.toNat < other.toNat) : byte ≠ other := by
  rintro rfl
  exact Nat.lt_irrefl _ less

theorem bounds_of_begins {byte : UInt8} (begins : byte = 0x2D ∨ isDigit byte = true) :
    0x20 < byte.toNat ∧ byte.toNat < 0x66 := by
  rcases begins with rfl | digital
  · decide
  · simp only [isDigit, Bool.and_eq_true, decide_eq_true_eq, UInt8.le_iff_toNat_le] at digital
    obtain ⟨lower, upper⟩ := digital
    change 0x30 ≤ byte.toNat at lower
    change byte.toNat ≤ 0x39 at upper
    omega

variable {steps : Nat} {inner? : Option (Reader Json)}

theorem readWith_number {byte : UInt8} {rest : Bytes}
    (begins : byte = 0x2D ∨ isDigit byte = true) :
    readWith steps inner? (byte :: rest) =
      (Literal.read (byte :: rest) >>= fun (literal, rest) =>
        literal.value >>= fun number => .ok (.number number, rest)) := by
  obtain ⟨visible, bound⟩ := bounds_of_begins begins
  have n : byte ≠ 0x6E := ne_of_toNat_lt (Nat.lt_trans bound (by decide))
  have t : byte ≠ 0x74 := ne_of_toNat_lt (Nat.lt_trans bound (by decide))
  have f : byte ≠ 0x66 := ne_of_toNat_lt bound
  rw [readWith, skipBlank_cons (isBlank_eq_false visible)]
  simp only [n, t, f, begins, if_true, if_false]
  rfl

theorem exists_of_parse {input : Bytes} {value : Json} (found : parse input = .ok value) :
    ∃ rest, readValue input.length depthLimit input = .ok (value, rest) ∧ skipBlank rest = [] := by
  obtain ⟨⟨first, rest⟩, read, ended⟩ := Reader.exists_of_bind found
  dsimp only at ended
  split at ended
  · rename_i nothing
    cases ended
    exact ⟨rest, read, List.isEmpty_iff.mp nothing⟩
  · cases ended

theorem writes_of_readBack {real : Binary64} (same : ReadBack real) :
    Literal.Writes (Utf8.encode (numberChars (.double real))) (.double real) := by
  have visible (byte : UInt8) (mem : byte ∈ Utf8.encode (numberChars (.double real))) :=
    Literal.bounds_of_mem_numberChars mem
  obtain ⟨rest, found, ended⟩ := exists_of_parse same
  change readValue _ _ (Utf8.encode (numberChars (.double real))) = _ at found
  generalize Utf8.encode (numberChars (.double real)) = bytes at found visible
  rw [readValue_eq] at found
  cases bytes with
  | nil => cases found
  | cons byte tail =>
    by_cases begins : byte = 0x2D ∨ isDigit byte = true
    · rw [readWith_number begins] at found
      obtain ⟨⟨literal, left⟩, read, later⟩ := Reader.exists_of_bind found
      obtain ⟨number, stands, same⟩ := Reader.exists_of_bind later
      cases same
      have inside : rest <:+ byte :: tail := (Literal.stable_read read).1
      have nothing : rest = [] := by
        rw [← ended, skipBlank_of_visible]
        intro byte mem
        have := visible byte (inside.subset mem)
        omega
      rw [nothing] at read
      exact ⟨literal, read, stands⟩
    · have bounds := visible byte (List.mem_cons_self ..)
      have apart (other : UInt8)
          (outside : ¬ (43 ≤ other.toNat ∧ other.toNat ≤ 57 ∨ other.toNat = 101)) :
          byte ≠ other := by
        rintro rfl
        exact outside bounds
      rw [readWith, skipBlank_cons (isBlank_eq_false (by omega))] at found
      simp only [begins, apart 0x6E (by decide), apart 0x74 (by decide), apart 0x66 (by decide),
        apart 0x22 (by decide), apart 0x5B (by decide), apart 0x7B (by decide), if_false] at found
      cases found

theorem Literal.begins_of_read {input rest : Bytes} {literal : Literal}
    (found : read input = .ok (literal, rest)) :
    ∃ byte tail, input = byte :: tail ∧ (byte = 0x2D ∨ isDigit byte = true) := by
  cases input with
  | nil => cases found
  | cons byte tail =>
    refine ⟨byte, tail, rfl, ?_⟩
    by_cases minus : byte = 0x2D
    · exact Or.inl minus
    · rw [read, if_neg minus] at found
      obtain ⟨⟨digits, left⟩, whole, -⟩ := Reader.exists_of_bind found
      right
      rw [readWhole.eq_def] at whole
      dsimp only at whole
      split at whole
      · rename_i zero
        rw [zero]
        rfl
      · split at whole
        · assumption
        · cases whole

end Json

end LanguageClient
