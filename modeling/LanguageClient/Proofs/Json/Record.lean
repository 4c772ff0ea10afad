import Mathlib.Data.List.Forall2
import LanguageClient.Json.Decoder

set_option autoImplicit false

namespace LanguageClient

namespace Json

/-! ### Plain values and lists -/

namespace Decoder

theorem uint32_eq_ok_iff {value : Json} {number : UInt32} :
    uint32 value = .ok number ↔ value = .ofUInt32 number := by
  constructor
  · intro read
    unfold uint32 at read
    split at read
    · rename_i found
      obtain ⟨held, lower, upper⟩ := found
      dsimp only at read
      split at read
      · rename_i bounds
        have small : held.toNat < UInt32.size := by
          change held.toNat < 4294967296
          omega
        cases read
        simp only [ofUInt32, Integer.ofUInt32, UInt32.toNat_ofNat_of_lt' small,
          Int.toNat_of_nonneg bounds.1]
      · cases read
    · cases read
  · intro same
    have bound := number.toNat_lt
    have inside : (0 : Int) ≤ number.toNat ∧ (number.toNat : Int) < 0x100000000 := by omega
    rw [same]
    simp only [ofUInt32, Integer.ofUInt32, uint32, inside, and_self, if_true, Int.toNat_natCast,
      UInt32.ofNat_toNat]

theorem int32_eq_ok_iff {value : Json} {number : Int32} :
    int32 value = .ok number ↔ value = .ofInt32 number := by
  constructor
  · intro read
    unfold int32 at read
    split at read
    · rename_i found
      obtain ⟨held, lower, upper⟩ := found
      dsimp only at read
      split at read
      · rename_i bounds
        have kept : (Int32.ofInt held).toInt = held := Int32.toInt_ofInt_of_le bounds.1 bounds.2
        cases read
        simp only [ofInt32, Integer.ofInt32, kept]
      · cases read
    · cases read
  · intro same
    have lower := number.le_toInt
    have upper := number.toInt_lt
    have inside : -0x80000000 ≤ number.toInt ∧ number.toInt < 0x80000000 := by omega
    rw [same]
    simp only [ofInt32, Integer.ofInt32, int32, inside, and_self, if_true, Int32.ofInt_toInt]

theorem string_eq_ok_iff {value : Json} {text : String} :
    string value = .ok text ↔ value = .string text := by
  constructor
  · intro read
    unfold string Decoder.text at read
    split at read
    · cases read
      rfl
    · cases read
  · intro same
    rw [same]
    rfl

variable {α : Type}

theorem bind_eq_ok_iff {ε β : Type} {result : Except ε α} {next : α → Except ε β} {value : β} :
    (result >>= next) = .ok value ↔ ∃ inner, result = .ok inner ∧ next inner = .ok value := by
  constructor
  · intro read
    cases result with
    | error error => cases read
    | ok inner => exact ⟨inner, rfl, read⟩
  · intro ⟨inner, same, read⟩
    rw [same]
    exact read

theorem mapM_eq_ok_iff {element : Decoder α} {elements : List Json} {found : List α} :
    elements.mapM element = .ok found ↔
      List.Forall₂ (fun value part => element value = .ok part) elements found := by
  induction elements generalizing found with
  | nil =>
    rw [List.mapM_nil, List.forall₂_nil_left_iff]
    exact ⟨fun read => (Except.ok.inj read).symm, fun same => congrArg Except.ok same.symm⟩
  | cons value rest ih =>
    simp only [List.mapM_cons, bind_eq_ok_iff, ih, List.forall₂_cons_left_iff]
    constructor
    · intro ⟨part, first, parts, later, same⟩
      exact ⟨part, parts, first, later, (Except.ok.inj same).symm⟩
    · intro ⟨part, parts, first, later, same⟩
      exact ⟨part, first, parts, later, congrArg Except.ok same.symm⟩

theorem list_eq_ok_iff {element : Decoder α} {value : Json} {found : List α} :
    list element value = .ok found ↔ ∃ elements, value = .array elements ∧
      List.Forall₂ (fun value part => element value = .ok part) elements found := by
  constructor
  · intro read
    unfold list at read
    split at read
    · exact ⟨_, rfl, mapM_eq_ok_iff.mp read⟩
    · cases read
  · intro ⟨elements, same, all⟩
    rw [same]
    exact mapM_eq_ok_iff.mpr all

theorem option_eq_ok_iff {content : Decoder α} {value : Json} {found : Option α} :
    option content value = .ok found ↔ value = .null ∧ found = none ∨
      value ≠ .null ∧ ∃ inner, content value = .ok inner ∧ found = some inner := by
  unfold option
  split
  · constructor
    · intro read
      exact Or.inl ⟨rfl, (Except.ok.inj read).symm⟩
    · intro either
      rcases either with ⟨-, same⟩ | ⟨some, -⟩
      · rw [same]
      · exact absurd rfl some
  · rename_i other
    constructor
    · intro read
      cases inner : content value with
      | error error =>
        rw [inner] at read
        cases read
      | ok part =>
        rw [inner] at read
        exact Or.inr ⟨other, part, rfl, (Except.ok.inj read).symm⟩
    · intro either
      rcases either with ⟨null, -⟩ | ⟨-, inner, read, same⟩
      · exact absurd null other
      · rw [read, same]
        rfl

end Decoder

/-! ### Records -/

/-- Where the fields of a record of so many fields are found. An object may have further members,
but an array no further elements. -/
inductive Source.Of (count : Nat) : Json → Source → Prop where
  | object (members : List (String × Json)) : Of count (.object members) (.members members)
  | array {elements : List Json} (few : elements.length ≤ count) :
      Of count (.array elements) (.elements elements)

/-- A field of an object is found by its name, whatever its place. -/
@[simp] theorem Source.item?_members (members : List (String × Json)) (index : Nat)
    (name : String) : (Source.members members).item? index name = members.lookup name := rfl

/-- A field of an array is found by its place, whatever its name. -/
@[simp] theorem Source.item?_elements (elements : List Json) (index : Nat) (name : String) :
    (Source.elements elements).item? index name = elements[index]? := rfl

variable {α : Type}

def Source.Has (source : Source) (index : Nat) (name : String) (denotes : Json → α → Prop)
    (content : α) : Prop :=
  ∃ held, source.item? index name = some held ∧ denotes held content

theorem Source.has_eq_iff {source : Source} {index : Nat} {name : String} {write : α → Json}
    {content : α} :
    source.Has index name (fun held content => held = write content) content ↔
      source.item? index name = some (write content) := by
  simp [Has]

theorem Source.value_slot_iff {source : Source} {index : Nat} {name : String}
    {content : Decoder α} {value : α} :
    (source.slot index name content).value = .ok value ↔
      source.Has index name (fun held found => content held = .ok found) value := by
  unfold Has
  cases found : source.item? index name with
  | none => simp [slot, Slot.value, found]
  | some held => simp [slot, Slot.value, found]

theorem Source.value_slotOr_iff {source : Source} {index : Nat} {name : String}
    {content : Decoder α} {absent value : α} :
    (source.slotOr index name content absent).value = .ok value ↔
      source.item? index name = none ∧ value = absent ∨
        source.Has index name (fun held found => content held = .ok found) value := by
  unfold Has
  cases found : source.item? index name with
  | none => simp [slotOr, Slot.value, found, eq_comm]
  | some held => simp [slotOr, Slot.value, found]

theorem Slot.good_of_value {slot : Slot α} {value : α} (read : slot.value = .ok value) :
    slot.status.2 = .good := by
  obtain ⟨name, content⟩ := slot
  rcases content with - | (error | found)
  · cases read
  · cases read
  · rfl

/-- A fold that gives nothing as long as no entry is of a kind. -/
theorem foldl_eq_none_iff {β : Type} {step : Option β → α → Option β} (clean : α → Prop)
    (keeps : ∀ held entry, step held entry = none ↔ held = none ∧ clean entry) {entries : List α}
    {start : Option β} :
    entries.foldl step start = none ↔ start = none ∧ ∀ entry ∈ entries, clean entry := by
  induction entries generalizing start with
  | nil => simp
  | cons entry rest ih => rw [List.foldl_cons, ih, keeps, and_assoc, List.forall_mem_cons]

theorem leastBad_eq_none_iff {fields : List (String × Status)} :
    leastBad fields = none ↔ ∀ field ∈ fields, ∀ error, field.2 ≠ .bad error := by
  unfold leastBad
  rw [foldl_eq_none_iff fun field => ∀ error, field.2 ≠ .bad error]
  · simp
  · intro held field
    obtain ⟨name, status⟩ := field
    cases status with
    | good => simp
    | absent => simp
    | bad error =>
      cases held with
      | none => simp
      | some other => by_cases less : name < other.1 <;> simp [less]

theorem Status.eq_good_iff {status : Status} :
    status = .good ↔ (∀ error, status ≠ .bad error) ∧ status ≠ .absent := by
  cases status <;> simp

theorem Source.check_eq_ok_iff {source : Source} {record : String}
    {fields : List (String × Status)} :
    source.check record fields = .ok () ↔ (∀ field ∈ fields, field.2 = .good) ∧
      ∀ elements, source = .elements elements → elements.length ≤ fields.length := by
  cases source with
  | members found =>
    have good : (∀ field ∈ fields, field.2 = .good) ↔ leastBad fields = none ∧
        ∀ field ∈ fields, field.2 ≠ .absent := by
      rw [leastBad_eq_none_iff, ← forall₂_and]
      exact forall₂_congr fun field _ => Status.eq_good_iff
    rw [good]
    simp only [check]
    cases leastBad fields with
    | some worst => simp
    | none =>
      dsimp only
      split
      · rename_i name status missing
        have mem := List.mem_of_find?_eq_some missing
        have absent : status = .absent := by
          have holds := List.find?_some missing
          cases status <;> simp at holds ⊢
        subst absent
        simp only [reduceCtorEq, false_iff]
        intro clean
        exact clean.1.2 _ mem rfl
      · rename_i noneMissing
        rw [List.find?_eq_none] at noneMissing
        simp only [reduceCtorEq, true_and, true_iff, and_true, false_implies, implies_true]
        intro field mem absent
        have holds := noneMissing field mem
        simp [absent] at holds
  | elements found =>
    simp only [check]
    split
    · rename_i error first
      simp only [reduceCtorEq, false_iff]
      intro clean
      obtain ⟨⟨⟨name, status⟩, index⟩, mem, fault⟩ := List.exists_of_findSome?_eq_some first
      have good : status = .good := clean.1 (name, status) (List.fst_mem_of_mem_zipIdx mem)
      simp [good] at fault
    · rename_i noFault
      rw [List.findSome?_eq_none_iff] at noFault
      have good : ∀ field ∈ fields, field.2 = .good := by
        intro field mem
        obtain ⟨index, at_index⟩ := List.mem_iff_getElem?.mp mem
        have clean := noFault (field, index) (List.mk_mem_zipIdx_iff_getElem?.mpr at_index)
        obtain ⟨name, status⟩ := field
        cases status <;> simp at clean ⊢
      by_cases further : fields.length < found.length
      · simp [further]
      · have few : found.length ≤ fields.length := by omega
        simpa [further, few] using good

/-- A record is read from a source of its size if all of its fields are good. -/
theorem Source.good_and_of_iff {source : Source} {record : String} {value : Json}
    {fields : List (String × Status)} :
    (∀ field ∈ fields, field.2 = .good) ∧ Of fields.length value source ↔
      Source.ofJson record value = .ok source ∧ source.check record fields = .ok () := by
  rw [check_eq_ok_iff]
  constructor
  · intro ⟨good, found⟩
    cases found with
    | object members => exact ⟨rfl, good, by simp⟩
    | array few => exact ⟨rfl, good, by simpa using few⟩
  · intro ⟨found, good, few⟩
    refine ⟨good, ?_⟩
    unfold Source.ofJson at found
    split at found
    · cases found
      exact .object _
    · cases found
      exact .array (few _ rfl)
    · cases found

theorem depth_le_of_mem_elements {elements : List Json} {value : Json} (mem : value ∈ elements) :
    value.depth ≤ depthOfElements elements := by
  induction elements with
  | nil => cases mem
  | cons first rest ih =>
    rw [depthOfElements]
    rcases List.mem_cons.mp mem with same | later
    · rw [same]
      exact Nat.le_max_left ..
    · exact Nat.le_trans (ih later) (Nat.le_max_right ..)

theorem depth_le_of_mem_members {members : List (String × Json)} {name : String} {value : Json}
    (mem : (name, value) ∈ members) : value.depth ≤ depthOfMembers members := by
  induction members with
  | nil => cases mem
  | cons first rest ih =>
    obtain ⟨key, held⟩ := first
    rw [depthOfMembers]
    rcases List.mem_cons.mp mem with same | later
    · cases same
      exact Nat.le_max_left ..
    · exact Nat.le_trans (ih later) (Nat.le_max_right ..)

/-- What a record holds is nested less deeply than the record. -/
theorem Source.Of.depth_lt {count index : Nat} {value held : Json} {source : Source} {name : String}
    (record : Of count value source) (present : source.item? index name = some held) :
    held.depth < value.depth := by
  cases record with
  | object members =>
    rw [item?_members] at present
    obtain ⟨before, after, same, -⟩ := List.lookup_eq_some_iff.mp present
    have mem : (name, held) ∈ members := by simp [same]
    exact Nat.lt_succ_of_le (depth_le_of_mem_members mem)
  | array few =>
    rw [item?_elements] at present
    exact Nat.lt_succ_of_le (depth_le_of_mem_elements (List.mem_of_getElem? present))

theorem Decoder.pair_eq_ok_iff {β γ : Type} {record : String} (first : Source → Slot α)
    (second : Source → Slot β) (make : α → β → γ) {value : Json} {result : γ} :
    (do
      let source ← Source.ofJson record value
      source.check record [(first source).status, (second source).status]
      return make (← (first source).value) (← (second source).value)) = .ok result ↔
      ∃ source, Source.Of 2 value source ∧ ∃ one other, (first source).value = .ok one ∧
        (second source).value = .ok other ∧ result = make one other := by
  simp only [bind_eq_ok_iff]
  constructor
  · intro ⟨source, found, _, checked, one, readOne, other, readOther, same⟩
    have record := (Source.good_and_of_iff.mpr ⟨found, checked⟩).2
    exact ⟨source, record, one, other, readOne, readOther, (Except.ok.inj same).symm⟩
  · intro ⟨source, record, one, other, readOne, readOther, same⟩
    have good : ∀ field ∈ [(first source).status, (second source).status], field.2 = .good := by
      simp [Slot.good_of_value readOne, Slot.good_of_value readOther]
    obtain ⟨found, checked⟩ := Source.good_and_of_iff.mp ⟨good, record⟩
    exact ⟨source, found, (), checked, one, readOne, other, readOther, congrArg Except.ok same.symm⟩

end Json

end LanguageClient
