import LanguageClient.Proofs.Json.Restorable

set_option autoImplicit false

namespace LanguageClient

namespace Json

theorem mem_insert {key : String} {value : Json} {held : List (String × Json)}
    {member : String × Json} (mem : member ∈ insert key value held) :
    member = (key, value) ∨ member ∈ held := by
  induction held with
  | nil => exact Or.inl (List.mem_singleton.mp mem)
  | cons first held ih =>
    obtain ⟨name, other⟩ := first
    rw [insert] at mem
    split at mem
    · exact List.mem_cons.mp mem
    · split at mem
      · exact (List.mem_cons.mp mem).imp_right (List.mem_cons_of_mem _)
      · obtain rfl | later := List.mem_cons.mp mem
        · exact Or.inr (List.mem_cons_self ..)
        · exact (ih later).imp_right (List.mem_cons_of_mem _)

theorem pairwise_insert {key : String} {value : Json} {held : List (String × Json)}
    (sorted : held.Pairwise (·.1 < ·.1)) : (insert key value held).Pairwise (·.1 < ·.1) := by
  induction held with
  | nil => exact List.pairwise_singleton ..
  | cons first held ih =>
    obtain ⟨name, other⟩ := first
    obtain ⟨least, later⟩ := List.pairwise_cons.mp sorted
    rw [insert]
    split
    · rename_i less
      refine List.pairwise_cons.mpr ⟨List.forall_mem_cons.mpr ⟨less, ?_⟩, sorted⟩
      exact fun member mem => String.lt_trans less (least member mem)
    · split
      · rename_i same
        rw [same]
        exact List.pairwise_cons.mpr ⟨least, later⟩
      · rename_i notLess apart
        have less : name < key := Std.lt_of_le_of_ne notLess (Ne.symm apart)
        refine List.pairwise_cons.mpr ⟨fun member mem => ?_, ih later⟩
        obtain rfl | mem := mem_insert mem
        · exact less
        · exact least member mem

theorem canonical_insert {key : String} {value : Json} {held : List (String × Json)}
    (canonical : (object held).Canonical) (inner : value.Canonical) :
    (object (insert key value held)).Canonical := by
  obtain ⟨sorted, members⟩ := canonical
  rw [canonicalMembers_iff] at members
  refine ⟨pairwise_insert sorted, canonicalMembers_iff.mpr fun member mem => ?_⟩
  obtain rfl | mem := mem_insert mem
  · exact inner
  · exact members member mem

/-! ### Readers -/

def Reader.Canonical (reader : Reader Json) : Prop :=
  ∀ ⦃input value rest⦄, reader input = .ok (value, rest) → value.Canonical

section

variable {reader : Reader Json} (inner : reader.Canonical) {steps : Nat} {input rest : Bytes}
  {value : Json}

include inner

theorem canonical_of_readElements {reversed : List Json}
    (canonical : ∀ element ∈ reversed, element.Canonical)
    (found : readElements reader steps reversed input = .ok (value, rest)) :
    value.Canonical := by
  induction steps generalizing reversed input with
  | zero => cases found
  | succ steps ih =>
    obtain ⟨⟨element, left⟩, read, later⟩ := Reader.exists_of_bind found
    have held : ∀ other ∈ element :: reversed, other.Canonical :=
      List.forall_mem_cons.mpr ⟨inner read, canonical⟩
    dsimp only at later
    split at later
    · cases later
    · split at later
      · cases later
        exact canonicalElements_iff.mpr fun other mem => held other (List.mem_reverse.mp mem)
      · split at later
        · split at later
          · cases later
          · exact ih held later
        · cases later

theorem canonical_of_readMembers {held : List (String × Json)}
    (canonical : (object held).Canonical)
    (found : readMembers reader steps held input = .ok (value, rest)) : value.Canonical := by
  induction steps generalizing held input with
  | zero => cases found
  | succ steps ih =>
    obtain ⟨⟨key, opened⟩, -, later⟩ := Reader.exists_of_bind found
    obtain ⟨⟨member, left⟩, read, later⟩ := Reader.exists_of_bind later
    have longer : (object (insert key member held)).Canonical :=
      canonical_insert canonical (inner read)
    dsimp only at later
    split at later
    · cases later
    · split at later
      · cases later
        exact longer
      · split at later
        · split at later
          · cases later
          · split at later
            · exact ih longer later
            · split at later <;> cases later
        · cases later

theorem canonical_readArray : Reader.Canonical (readArray steps reader) := by
  intro input value rest found
  unfold readArray at found
  split at found
  · cases found
  · split at found
    · cases found
      trivial
    · exact canonical_of_readElements inner (List.forall_mem_nil _) found

theorem canonical_readObject : Reader.Canonical (readObject steps reader) := by
  have empty : (object []).Canonical := ⟨List.Pairwise.nil, trivial⟩
  intro input value rest found
  unfold readObject at found
  split at found
  · cases found
  · split at found
    · cases found
      exact empty
    · split at found
      · exact canonical_of_readMembers inner empty found
      · cases found

end

theorem canonical_of_map {α : Type} {result : Except SyntaxError α} {f : α → Json × Bytes}
    {value : Json} {rest : Bytes} (found : result.map f = .ok (value, rest))
    (atomic : ∀ part, (f part).1.Canonical) : value.Canonical := by
  obtain ⟨part, -, same⟩ := Reader.exists_of_map found
  have canonical := atomic part
  rwa [same] at canonical

theorem canonical_readWith {steps : Nat} {inner? : Option (Reader Json)}
    (inner : ∀ reader ∈ inner?, reader.Canonical) : Reader.Canonical (readWith steps inner?) := by
  intro input value rest found
  unfold readWith at found
  split at found
  · cases found
  split at found
  · exact canonical_of_map found fun _ => trivial
  split at found
  · exact canonical_of_map found fun _ => trivial
  split at found
  · exact canonical_of_map found fun _ => trivial
  split at found
  · obtain ⟨_, -, later⟩ := Reader.exists_of_bind found
    obtain ⟨_, -, same⟩ := Reader.exists_of_bind later
    cases same
    trivial
  split at found
  · exact canonical_of_map found fun _ => trivial
  split at found
  · split at found
    · exact canonical_readArray (inner _ rfl) found
    · cases found
  split at found
  · split at found
    · exact canonical_readObject (inner _ rfl) found
    · cases found
  · cases found

theorem canonical_readValue (steps levels : Nat) : Reader.Canonical (readValue steps levels) := by
  induction levels with
  | zero => exact canonical_readWith nofun
  | succ levels ih => exact canonical_readWith fun reader same => Option.some.inj same ▸ ih

/-- Every value that bytes write is canonical. -/
theorem canonical_of_parse {input : Bytes} {value : Json} (found : parse input = .ok value) :
    value.Canonical := by
  obtain ⟨rest, read, -⟩ := exists_of_parse found
  exact canonical_readValue _ _ read

end Json

end LanguageClient
