import LanguageClient.Proofs.Json.Double
import LanguageClient.Proofs.Json.Restorable

set_option autoImplicit false

namespace LanguageClient

namespace Json

def rereadDouble (real : Binary64) : Binary64 :=
  match Literal.read (Utf8.encode (numberChars (.double real))) with
  | .ok (literal, _) =>
    match literal.value with
    | .ok (.double other) => other
    | _ => real
  | .error _ => real

def rereadNumber : Number → Number
  | .integer whole => .integer whole
  | .double real => .double (rereadDouble real)

mutual

/-- The value that the text of a value is read as. -/
def reread : Json → Json
  | .null => .null
  | .bool value => .bool value
  | .number kept => .number (rereadNumber kept)
  | .string characters => .string characters
  | .array elements => .array (rereadElements elements)
  | .object members => .object (rereadMembers [] members)

def rereadElements : List Json → List Json
  | [] => []
  | value :: rest => value.reread :: rereadElements rest

/-- The members that come behind others which are held already. -/
def rereadMembers (held : List (String × Json)) : List (String × Json) → List (String × Json)
  | [] => held
  | (key, value) :: rest => rereadMembers (insert key value.reread held) rest

end

theorem writes_rereadNumber (number : Number) :
    Literal.Writes (Utf8.encode (numberChars number)) (rereadNumber number) := by
  cases number with
  | integer whole => exact Literal.writes_integer whole
  | double real =>
    obtain ⟨other, literal, read, stands⟩ := Literal.exists_writes_double real
    refine ⟨literal, read, ?_⟩
    rw [stands, rereadNumber, rereadDouble, read]
    dsimp only
    rw [stands]

/-! ### Values without losses -/

theorem rereadDouble_of_readBack {real : Binary64} (same : ReadBack real) :
    rereadDouble real = real := by
  obtain ⟨literal, read, stands⟩ := writes_of_readBack same
  rw [rereadDouble, read]
  dsimp only
  rw [stands]

theorem insert_eq_append {held : List (String × Json)} {key : String} {value : Json}
    (last : ∀ member ∈ held, member.1 < key) :
    insert key value held = held ++ [(key, value)] := by
  induction held with
  | nil => rfl
  | cons member held ih =>
    obtain ⟨name, other⟩ := member
    obtain ⟨less, later⟩ := List.forall_mem_cons.mp last
    have apart : key ≠ name := fun same => String.lt_irrefl _ (same ▸ less)
    rw [insert, if_neg (String.lt_asymm less), if_neg apart, ih later]
    rfl

theorem rereadMembers_eq_append {held members : List (String × Json)}
    (sorted : (held ++ members).Pairwise (·.1 < ·.1)) :
    rereadMembers held members = held ++ members.map fun member => (member.1, member.2.reread) := by
  induction members generalizing held with
  | nil =>
    rw [rereadMembers, List.map_nil, List.append_nil]
  | cons member members ih =>
    obtain ⟨key, value⟩ := member
    obtain ⟨before, after, across⟩ := List.pairwise_append.mp sorted
    obtain ⟨first, later⟩ := List.pairwise_cons.mp after
    have last : ∀ member ∈ held, member.1 < key := fun member mem =>
      across member mem _ (List.mem_cons_self ..)
    have placed : (held ++ [(key, value.reread)] ++ members).Pairwise (·.1 < ·.1) := by
      rw [List.append_assoc]
      refine List.pairwise_append.mpr ⟨before, List.pairwise_cons.mpr ⟨first, later⟩, ?_⟩
      intro member mem other inside
      rcases List.mem_cons.mp inside with rfl | further
      · exact last member mem
      · exact across member mem other (List.mem_cons_of_mem _ further)
    rw [rereadMembers, insert_eq_append last, ih placed, List.append_assoc]
    rfl

theorem reread_object {members : List (String × Json)} (sorted : members.Pairwise (·.1 < ·.1)) :
    (object members).reread =
      .object (members.map fun member => (member.1, member.2.reread)) := by
  rw [reread, @rereadMembers_eq_append [] members sorted, List.nil_append]

mutual

/-- What is restored is what is read of the text. -/
theorem reread_of_restorable : ∀ {value : Json}, value.Restorable → value.reread = value
  | .null, _ | .bool _, _ | .string _, _ | .number (.integer _), _ => rfl
  | .number (.double real), restorable => by
    rw [reread, rereadNumber, rereadDouble_of_readBack (restorable.exact real (.head _))]
  | .array elements, restorable => by
    rw [reread, rereadElements_of_restorable (restorable_array_iff.mp restorable)]
  | .object members, restorable => by
    obtain ⟨sorted, parts⟩ := restorable_object_iff.mp restorable
    rw [reread_object sorted, map_reread_of_restorable parts]

theorem rereadElements_of_restorable : ∀ {elements : List Json},
    (∀ value ∈ elements, value.Restorable) → rereadElements elements = elements
  | [], _ => rfl
  | value :: rest, restorable => by
    obtain ⟨first, later⟩ := List.forall_mem_cons.mp restorable
    rw [rereadElements, reread_of_restorable first, rereadElements_of_restorable later]

theorem map_reread_of_restorable : ∀ {members : List (String × Json)},
    (∀ member ∈ members, member.2.Restorable) →
    members.map (fun member => (member.1, member.2.reread)) = members
  | [], _ => rfl
  | (key, value) :: rest, restorable => by
    obtain ⟨first, later⟩ := List.forall_mem_cons.mp restorable
    rw [List.map_cons, reread_of_restorable first, map_reread_of_restorable later]

end

end Json

end LanguageClient
