import LanguageClient.Proofs.Json.Quoted
import LanguageClient.Proofs.Json.Reread

set_option autoImplicit false

/-!
Values that are written and read again. The text of a value is read if it is not nested too deeply,
and else the reader stops at the first array or object that is too deep, since all before it is
read. The induction is on the levels that may still be opened; elements and members are lists
within a level.
-/

namespace LanguageClient

namespace Json

/-! ### Arrays and objects -/

/-- The value is read from its text, whatever ends it, if it opens no more levels than allowed;
otherwise it is refused as too deep. -/
def ReadBy (reader : Reader Json) (levels : Nat) (value : Json) : Prop :=
  ∀ rest, Literal.Ends rest → reader (value.encode ++ rest) =
    if value.depth ≤ levels then .ok (value.reread, rest) else .error .tooDeep

/-- A text that begins with neither a blank nor a closing bracket. -/
def Begins (bytes : Bytes) : Prop :=
  ∃ byte rest, bytes = byte :: rest ∧ isBlank byte = false ∧ byte ≠ 0x5D

theorem Begins.append {bytes : Bytes} (begin : Begins bytes) (more : Bytes) :
    Begins (bytes ++ more) := by
  obtain ⟨byte, rest, rfl, visible, other⟩ := begin
  exact ⟨byte, rest ++ more, rfl, visible, other⟩

section Elements

variable {reader : Reader Json} {steps : Nat} {reversed : List Json} {input rest : Bytes}
  {value : Json}

theorem readElements_of_error {error : SyntaxError} (found : reader input = .error error) :
    readElements reader (steps + 1) reversed input = .error error := by
  rw [readElements, found]
  rfl

theorem readElements_of_last (found : reader input = .ok (value, 0x5D :: rest)) :
    readElements reader (steps + 1) reversed input =
      .ok (.array (reversed.reverse ++ [value]), rest) := by
  rw [readElements, found, ← List.reverse_cons]
  rfl

theorem readElements_of_further (found : reader input = .ok (value, 0x2C :: rest))
    (begin : Begins rest) :
    readElements reader (steps + 1) reversed input =
      readElements reader steps (value :: reversed) rest := by
  obtain ⟨byte, rest, rfl, visible, other⟩ := begin
  have apart : ¬ (some byte = some 0x5D) := fun same => other (Option.some.inj same)
  rw [readElements, found]
  change (if (skipBlank (byte :: rest)).head? = some 0x5D then .error .trailingComma
    else readElements reader steps (value :: reversed) (byte :: rest)) = _
  rw [skipBlank_cons visible, List.head?_cons, if_neg apart]

theorem ends_elements (more : List Json) (rest : Bytes) :
    Literal.Ends (Utf8.encode (furtherElementChars more) ++ 0x5D :: rest) := by
  cases more with
  | nil =>
    rintro byte ⟨⟩
    decide
  | cons value more =>
    rintro byte ⟨⟩
    decide

theorem encode_furtherElementChars (value : Json) (more : List Json) :
    Utf8.encode (furtherElementChars (value :: more)) =
      0x2C :: (value.encode ++ Utf8.encode (furtherElementChars more)) := by
  rw [furtherElementChars, List.cons_append, Utf8.encode_cons, Utf8.encode_append]
  rfl

theorem readElements_encode {levels : Nat} {value : Json} {more : List Json}
    (read : ∀ element ∈ value :: more, element.ReadBy reader levels)
    (begin : ∀ element ∈ more, Begins element.encode) (enough : more.length < steps)
    (reversed : List Json) (rest : Bytes) :
    readElements reader steps reversed
        (value.encode ++ (Utf8.encode (furtherElementChars more) ++ 0x5D :: rest)) =
      if depthOfElements (value :: more) ≤ levels then
        .ok (.array (reversed.reverse ++ rereadElements (value :: more)), rest)
      else .error .tooDeep := by
  induction more generalizing value steps reversed with
  | nil =>
    obtain ⟨steps, rfl⟩ := Nat.exists_eq_add_one_of_ne_zero (Nat.ne_zero_of_lt enough)
    have found := read value (List.mem_cons_self ..) _ (ends_elements [] rest)
    have same : depthOfElements [value] = value.depth := Nat.max_zero _
    rw [same]
    by_cases shallow : value.depth ≤ levels
    · rw [if_pos shallow] at found ⊢
      exact readElements_of_last found
    · rw [if_neg shallow] at found ⊢
      exact readElements_of_error found
  | cons next more ih =>
    obtain ⟨steps, rfl⟩ := Nat.exists_eq_add_one_of_ne_zero (Nat.ne_zero_of_lt enough)
    obtain ⟨first, later⟩ := List.forall_mem_cons.mp read
    obtain ⟨begins, others⟩ := List.forall_mem_cons.mp begin
    have found := first _ (ends_elements (next :: more) rest)
    by_cases shallow : value.depth ≤ levels
    · have rest' := ih later others (Nat.lt_of_succ_lt_succ enough) (value.reread :: reversed)
      have same : depthOfElements (value :: next :: more) ≤ levels ↔
          depthOfElements (next :: more) ≤ levels := by
        rw [depthOfElements, Nat.max_le]
        exact and_iff_right shallow
      rw [if_pos shallow, encode_furtherElementChars, List.cons_append, List.append_assoc] at found
      rw [encode_furtherElementChars, List.cons_append, List.append_assoc,
        readElements_of_further found (begins.append _), rest']
      simp only [same, rereadElements, List.reverse_cons, List.append_assoc,
        List.singleton_append]
    · rw [if_neg shallow] at found
      have deep : ¬ depthOfElements (value :: next :: more) ≤ levels := by
        rw [depthOfElements]
        omega
      rw [readElements_of_error found, if_neg deep]

end Elements

section Members

variable {reader : Reader Json} {steps : Nat} {held : List (String × Json)} {key : String}
  {input rest : Bytes} {value : Json}

theorem readKey_quotedBytes (key : String) (rest : Bytes) :
    readKey (quotedBytes key ++ 0x22 :: 0x3A :: rest) = .ok (key, rest) := by
  rw [readKey, readString_quotedBytes]
  rfl

theorem readMembers_of_error {error : SyntaxError} (found : reader input = .error error) :
    readMembers reader (steps + 1) held (quotedBytes key ++ 0x22 :: 0x3A :: input) =
      .error error := by
  rw [readMembers, readKey_quotedBytes]
  simp only [bind, Except.bind, found]

theorem readMembers_of_last (found : reader input = .ok (value, 0x7D :: rest)) :
    readMembers reader (steps + 1) held (quotedBytes key ++ 0x22 :: 0x3A :: input) =
      .ok (.object (insert key value held), rest) := by
  rw [readMembers, readKey_quotedBytes]
  simp only [bind, Except.bind, found]
  rfl

theorem readMembers_of_further (found : reader input = .ok (value, 0x2C :: 0x22 :: rest)) :
    readMembers reader (steps + 1) held (quotedBytes key ++ 0x22 :: 0x3A :: input) =
      readMembers reader steps (insert key value held) rest := by
  rw [readMembers, readKey_quotedBytes]
  simp only [bind, Except.bind, found]
  rfl

theorem ends_members (more : List (String × Json)) (rest : Bytes) :
    Literal.Ends (Utf8.encode (furtherMemberChars more) ++ 0x7D :: rest) := by
  cases more with
  | nil =>
    rintro byte ⟨⟩
    decide
  | cons member more =>
    rintro byte ⟨⟩
    decide

theorem encode_memberChars (key : String) (value : Json) (more : List (String × Json)) :
    Utf8.encode (memberChars ((key, value) :: more)) =
      0x22 :: (quotedBytes key ++ 0x22 :: 0x3A ::
        (value.encode ++ Utf8.encode (furtherMemberChars more))) := by
  simp only [memberChars, stringChars, Utf8.encode_append, Utf8.encode_cons, List.cons_append,
    List.append_assoc, quotedBytes, encode]
  rfl

theorem encode_furtherMemberChars (member : String × Json) (more : List (String × Json)) :
    Utf8.encode (furtherMemberChars (member :: more)) =
      0x2C :: Utf8.encode (memberChars (member :: more)) := by
  rfl

theorem readMembers_encode {levels : Nat} {more : List (String × Json)}
    (read : ∀ member ∈ (key, value) :: more, member.2.ReadBy reader levels)
    (enough : more.length < steps) (rest : Bytes) :
    readMembers reader steps held
        (quotedBytes key ++ 0x22 :: 0x3A ::
          (value.encode ++ (Utf8.encode (furtherMemberChars more) ++ 0x7D :: rest))) =
      if depthOfMembers ((key, value) :: more) ≤ levels then
        .ok (.object (rereadMembers held ((key, value) :: more)), rest)
      else .error .tooDeep := by
  induction more generalizing key value steps held with
  | nil =>
    obtain ⟨steps, rfl⟩ := Nat.exists_eq_add_one_of_ne_zero (Nat.ne_zero_of_lt enough)
    have found := read (key, value) (List.mem_cons_self ..) _ (ends_members [] rest)
    have same : depthOfMembers [(key, value)] = value.depth := Nat.max_zero _
    rw [same]
    by_cases shallow : value.depth ≤ levels
    · rw [if_pos shallow] at found ⊢
      exact readMembers_of_last found
    · rw [if_neg shallow] at found ⊢
      exact readMembers_of_error found
  | cons next more ih =>
    obtain ⟨steps, rfl⟩ := Nat.exists_eq_add_one_of_ne_zero (Nat.ne_zero_of_lt enough)
    obtain ⟨first, later⟩ := List.forall_mem_cons.mp read
    obtain ⟨name, other⟩ := next
    have found := first _ (ends_members ((name, other) :: more) rest)
    by_cases shallow : value.depth ≤ levels
    · have rest' := @ih steps (insert key value.reread held) name other later
        (Nat.lt_of_succ_lt_succ enough)
      have same : depthOfMembers ((key, value) :: (name, other) :: more) ≤ levels ↔
          depthOfMembers ((name, other) :: more) ≤ levels := by
        rw [depthOfMembers, Nat.max_le]
        exact and_iff_right shallow
      rw [if_pos shallow] at found
      rw [encode_furtherMemberChars, encode_memberChars] at found ⊢
      simp only [List.cons_append, List.append_assoc] at found ⊢
      rw [readMembers_of_further found, rest']
      simp only [same, rereadMembers]
    · rw [if_neg shallow] at found
      have deep : ¬ depthOfMembers ((key, value) :: (name, other) :: more) ≤ levels := by
        rw [depthOfMembers]
        omega
      rw [readMembers_of_error found, if_neg deep]

end Members

/-! ### Values -/

theorem encode_array (value : Json) (more : List Json) :
    (array (value :: more)).encode =
      0x5B :: (value.encode ++ (Utf8.encode (furtherElementChars more) ++ [0x5D])) := by
  simp only [encode, chars, elementChars, Utf8.encode_append, Utf8.encode_cons, List.cons_append,
    List.append_assoc]
  rfl

theorem encode_object (member : String × Json) (more : List (String × Json)) :
    (object (member :: more)).encode =
      0x7B :: (Utf8.encode (memberChars (member :: more)) ++ [0x7D]) := by
  simp only [encode, chars, Utf8.encode_append, Utf8.encode_cons, List.cons_append]
  rfl

theorem length_furtherElementChars (more : List Json) :
    more.length ≤ (Utf8.encode (furtherElementChars more)).length ∧
      ∀ value ∈ more, value.encode.length ≤ (Utf8.encode (furtherElementChars more)).length := by
  induction more with
  | nil => exact ⟨Nat.le_refl _, nofun⟩
  | cons value more ih =>
    obtain ⟨count, inside⟩ := ih
    rw [encode_furtherElementChars, List.length_cons, List.length_cons, List.length_append]
    refine ⟨by omega, List.forall_mem_cons.mpr ⟨by omega, fun other mem => ?_⟩⟩
    have := inside other mem
    omega

theorem length_furtherMemberChars (more : List (String × Json)) :
    more.length ≤ (Utf8.encode (furtherMemberChars more)).length ∧
      ∀ member ∈ more, member.2.encode.length ≤ (Utf8.encode (furtherMemberChars more)).length := by
  induction more with
  | nil => exact ⟨Nat.le_refl _, nofun⟩
  | cons member more ih =>
    obtain ⟨count, inside⟩ := ih
    rw [encode_furtherMemberChars, encode_memberChars]
    simp only [List.length_cons, List.length_append]
    refine ⟨by omega, List.forall_mem_cons.mpr ⟨by omega, fun other mem => ?_⟩⟩
    have := inside other mem
    omega

theorem begins_encode (value : Json) : Begins value.encode := by
  cases value with
  | null => exact ⟨_, _, rfl, rfl, by decide⟩
  | bool b => cases b <;> exact ⟨_, _, rfl, rfl, by decide⟩
  | number number =>
    obtain ⟨literal, found, -⟩ := writes_rereadNumber number
    obtain ⟨byte, tail, same, begins⟩ := Literal.begins_of_read found
    obtain ⟨visible, bound⟩ := bounds_of_begins begins
    refine ⟨byte, tail, same, isBlank_eq_false visible, ?_⟩
    rintro rfl
    rcases begins with minus | digit
    · exact absurd minus (by decide)
    · exact absurd digit (by decide)
  | string text => exact ⟨_, _, rfl, rfl, by decide⟩
  | array elements => exact ⟨_, _, rfl, rfl, by decide⟩
  | object members => exact ⟨_, _, rfl, rfl, by decide⟩

variable {steps levels : Nat}

theorem encode_number (number : Number) :
    (Json.number number).encode = Utf8.encode (numberChars number) := rfl

theorem readBy_number (number : Number) :
    (Json.number number).ReadBy (readValue steps levels) levels := by
  intro rest ends
  obtain ⟨literal, found, stands⟩ := writes_rereadNumber number
  obtain ⟨byte, tail, same, begins⟩ := Literal.begins_of_read found
  have further := (Literal.stable_read found).2 rest fun _ => ends
  rw [same, List.cons_append] at further
  rw [readValue_eq, encode_number, same, List.cons_append, readWith_number begins, further]
  simp only [bind, Except.bind, stands, depth, Nat.zero_le, if_true, List.nil_append, reread]

theorem encode_string (text : String) :
    (string text).encode = 0x22 :: (quotedBytes text ++ [0x22]) := by
  simp only [encode, chars, stringChars, Utf8.encode_append, Utf8.encode_cons, List.cons_append,
    quotedBytes]
  rfl

theorem readBy_string (text : String) :
    (string text).ReadBy (readValue steps levels) levels := by
  intro rest ends
  have read := readString_quotedBytes text rest
  rw [readValue_eq, encode_string, List.cons_append, List.append_assoc]
  change (readString [] (quotedBytes text ++ 0x22 :: rest)).map _ = _
  rw [read]
  rfl

theorem readArray_of_begins {reader : Reader Json} {input : Bytes} (begin : Begins input) :
    readArray steps reader input = readElements reader steps [] input := by
  obtain ⟨byte, rest, rfl, visible, other⟩ := begin
  rw [readArray, skipBlank_cons visible]
  exact if_neg other

theorem readBy_array {elements : List Json}
    (enough : (array elements).encode.length ≤ steps)
    (parts : ∀ value ∈ elements, value.ReadBy (readValue steps levels) levels) :
    (array elements).ReadBy (readValue steps (levels + 1)) (levels + 1) := by
  intro rest _
  cases elements with
  | nil => rfl
  | cons value more =>
    have few : more.length < steps := by
      have counted := (length_furtherElementChars more).1
      rw [encode_array, List.length_cons, List.length_append, List.length_append] at enough
      omega
    have elements := readElements_encode parts (fun element _ => begins_encode element) few [] rest
    rw [encode_array, List.cons_append, List.append_assoc, List.append_assoc]
    change readArray steps (readValue steps levels) _ = _
    rw [readArray_of_begins ((begins_encode value).append _)]
    simp only [depth, reread, Nat.add_le_add_iff_right]
    exact elements

theorem readBy_object {members : List (String × Json)}
    (enough : (object members).encode.length ≤ steps)
    (parts : ∀ member ∈ members, member.2.ReadBy (readValue steps levels) levels) :
    (object members).ReadBy (readValue steps (levels + 1)) (levels + 1) := by
  intro rest _
  cases members with
  | nil => rfl
  | cons member more =>
    obtain ⟨key, value⟩ := member
    have few : more.length < steps := by
      have counted := (length_furtherMemberChars more).1
      rw [encode_object, encode_memberChars] at enough
      simp only [List.length_cons, List.length_append] at enough
      omega
    have members := @readMembers_encode _ _ [] key value _ more parts few rest
    rw [encode_object, encode_memberChars]
    simp only [List.cons_append, List.append_assoc]
    change readMembers (readValue steps levels) steps [] _ = _
    simp only [depth, reread, Nat.add_le_add_iff_right]
    exact members

theorem length_encode_of_mem_array {elements : List Json} {value : Json} (mem : value ∈ elements) :
    value.encode.length ≤ (array elements).encode.length := by
  cases elements with
  | nil => cases mem
  | cons first more =>
    rw [encode_array, List.length_cons, List.length_append, List.length_append]
    rcases List.mem_cons.mp mem with rfl | later
    · omega
    · have := (length_furtherElementChars more).2 value later
      omega

theorem length_encode_of_mem_object {members : List (String × Json)} {member : String × Json}
    (mem : member ∈ members) : member.2.encode.length ≤ (object members).encode.length := by
  cases members with
  | nil => cases mem
  | cons first more =>
    rw [encode_object, encode_memberChars]
    simp only [List.length_cons, List.length_append]
    rcases List.mem_cons.mp mem with rfl | later
    · omega
    · have := (length_furtherMemberChars more).2 member later
      omega

/-- The text of a value is read as far as the value is no deeper than allowed. -/
theorem readBy_readValue (levels : Nat) {value : Json} (enough : value.encode.length ≤ steps) :
    value.ReadBy (readValue steps levels) levels := by
  cases value with
  | null =>
    intro rest _
    rw [readValue_eq]
    rfl
  | bool b =>
    intro rest _
    rw [readValue_eq]
    cases b <;> rfl
  | number number => exact readBy_number number
  | string text => exact readBy_string text
  | array elements =>
    cases levels with
    | zero =>
      intro rest _
      rfl
    | succ levels =>
      refine readBy_array enough fun value mem => ?_
      exact readBy_readValue levels (Nat.le_trans (length_encode_of_mem_array mem) enough)
  | object members =>
    cases levels with
    | zero =>
      intro rest _
      rfl
    | succ levels =>
      refine readBy_object enough fun member mem => ?_
      exact readBy_readValue levels (Nat.le_trans (length_encode_of_mem_object mem) enough)
termination_by levels

theorem parse_encode_eq (value : Json) :
    parse value.encode =
      if value.depth ≤ depthLimit then .ok value.reread else .error .tooDeep := by
  have read := readBy_readValue depthLimit (Nat.le_refl value.encode.length) [] nofun
  rw [List.append_nil] at read
  rw [parse, read]
  split <;> rfl

/-- What is written for a value without losses is read as that value, unless it is too deep. -/
theorem parse_encode {value : Json} (restorable : value.Restorable) :
    parse value.encode = if value.depth ≤ depthLimit then .ok value else .error .tooDeep := by
  rw [parse_encode_eq, reread_of_restorable restorable]

end Json
end LanguageClient
