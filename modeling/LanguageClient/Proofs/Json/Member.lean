import Mathlib.Logic.Function.Basic
import Mathlib.Logic.Relation
import LanguageClient.Proofs.Json.Reread

set_option autoImplicit false

namespace LanguageClient

namespace Json

/-- The values of all members with a name. -/
def valuesOf (name : String) (members : List (String × Json)) : List Json :=
  members.filterMap fun member => if member.1 = name then some member.2 else none

section

variable {name key : String} {value : Json} {members others : List (String × Json)}

@[simp] theorem valuesOf_nil : valuesOf name [] = [] := rfl

@[simp] theorem valuesOf_append :
    valuesOf name (members ++ others) = valuesOf name members ++ valuesOf name others :=
  List.filterMap_append

@[simp] theorem valuesOf_cons_self :
    valuesOf name ((name, value) :: members) = value :: valuesOf name members := by
  simp [valuesOf]

theorem valuesOf_cons_of_ne (apart : key ≠ name) :
    valuesOf name ((key, value) :: members) = valuesOf name members := by
  simp [valuesOf, apart]

theorem valuesOf_cons :
    valuesOf name ((key, value) :: members) =
      if key = name then value :: valuesOf name members else valuesOf name members := by
  by_cases same : key = name
  · simp [same]
  · simp [valuesOf_cons_of_ne same, same]

/-- Of several members with a name the first one is found. -/
theorem lookup_eq_head?_valuesOf : members.lookup name = (valuesOf name members).head? := by
  induction members with
  | nil => rfl
  | cons member rest ih =>
    obtain ⟨key, value⟩ := member
    by_cases same : key = name
    · simp [same]
    · have apart : (name == key) = false := by simpa using Ne.symm same
      rw [List.lookup_cons, apart, valuesOf_cons_of_ne same, ← ih]

/-! ### Members of a value that is read again -/

theorem valuesOf_insert_of_ne (apart : key ≠ name) :
    valuesOf name (insert key value members) = valuesOf name members := by
  induction members with
  | nil => simp [insert, valuesOf_cons_of_ne apart]
  | cons member rest ih =>
    obtain ⟨held, other⟩ := member
    rw [insert]
    split
    · rw [valuesOf_cons_of_ne apart]
    · split
      · rename_i same
        rw [valuesOf_cons_of_ne apart, valuesOf_cons_of_ne (same ▸ apart)]
      · rw [valuesOf_cons, valuesOf_cons, ih]

theorem valuesOf_insert_self (absent : valuesOf name members = []) :
    valuesOf name (insert name value members) = [value] := by
  induction members with
  | nil => simp [insert]
  | cons member rest ih =>
    obtain ⟨held, other⟩ := member
    rw [valuesOf_cons] at absent
    by_cases same : held = name
    · simp [same] at absent
    · rw [if_neg same] at absent
      rw [insert]
      split
      · rw [valuesOf_cons_self, valuesOf_cons_of_ne same, absent]
      · rw [if_neg (Ne.symm same), valuesOf_cons_of_ne same, ih absent]

/-- A value that is alone under its name is there again when the object is read from its text. -/
theorem valuesOf_rereadMembers {held : List (String × Json)}
    (alone : (valuesOf name held ++ valuesOf name members).length ≤ 1) :
    valuesOf name (rereadMembers held members) =
      valuesOf name held ++ (valuesOf name members).map reread := by
  induction members generalizing held with
  | nil => simp [rereadMembers]
  | cons member rest ih =>
    obtain ⟨key, value⟩ := member
    rw [rereadMembers]
    by_cases same : key = name
    · subst same
      rw [valuesOf_cons_self, List.length_append, List.length_cons] at alone
      have absent : valuesOf key held = [] := List.eq_nil_of_length_eq_zero (by omega)
      have inserted : valuesOf key (insert key value.reread held) = [value.reread] :=
        valuesOf_insert_self absent
      rw [ih (by rw [inserted, List.length_append, List.length_singleton]; omega), inserted, absent]
      simp
    · rw [valuesOf_cons_of_ne same] at alone ⊢
      have kept : valuesOf name (insert key value.reread held) = valuesOf name held :=
        valuesOf_insert_of_ne same
      rw [ih (by rw [kept]; exact alone), kept]

end

/-- What an object holds under a name, which is one value or none. -/
def Holds (name : String) (item : Option Json) (members : List (String × Json)) : Prop :=
  valuesOf name members = item.toList

section

variable {name : String} {item : Option Json} {members : List (String × Json)}

theorem Holds.lookup (holds : Holds name item members) : members.lookup name = item := by
  rw [lookup_eq_head?_valuesOf, holds]
  cases item <;> rfl

theorem Holds.unique {other : Option Json} (holds : Holds name item members)
    (also : Holds name other members) : item = other := by
  rw [← holds.lookup, also.lookup]

theorem holds_none_of_forall (absent : ∀ member ∈ members, member.1 ≠ name) :
    Holds name none members := by
  refine List.filterMap_eq_nil_iff.mpr fun member mem => ?_
  rw [if_neg (absent member mem)]

theorem Holds.reread (holds : Holds name item members) :
    Holds name (item.map Json.reread) (rereadMembers [] members) := by
  have alone : (valuesOf name [] ++ valuesOf name members).length ≤ 1 := by
    rw [holds]
    cases item <;> simp
  rw [Holds, valuesOf_rereadMembers alone, holds]
  cases item <;> rfl

theorem Holds.of_cons {before after : List (String × Json)} {value : Json}
    (holds : Holds name item (before ++ (name, value) :: after)) :
    item = some value ∧ Holds name none (before ++ after) := by
  rw [Holds, valuesOf_append, valuesOf_cons_self] at holds
  rw [Holds, valuesOf_append]
  cases item with
  | none => simp at holds
  | some held =>
    have single := congrArg List.length holds
    simp only [List.length_append, List.length_cons, Option.toList_some, List.length_nil] at single
    have noBefore : valuesOf name before = [] := List.eq_nil_of_length_eq_zero (by omega)
    have noAfter : valuesOf name after = [] := List.eq_nil_of_length_eq_zero (by omega)
    rw [noBefore, noAfter, List.nil_append, Option.toList_some, List.cons.injEq] at holds
    exact ⟨congrArg some holds.1.symm, by rw [noBefore, noAfter]; rfl⟩

theorem Holds.cons {before after : List (String × Json)}
    (absent : Holds name none (before ++ after)) (value : Json) :
    Holds name (some value) (before ++ (name, value) :: after) := by
  rw [Holds, valuesOf_append] at absent
  obtain ⟨noBefore, noAfter⟩ := List.append_eq_nil_iff.mp absent
  rw [Holds, valuesOf_append, valuesOf_cons_self, noBefore, noAfter]
  rfl

theorem holds_cons_iff_of_ne {before after : List (String × Json)} {key : String} {value : Json}
    (apart : key ≠ name) :
    Holds name item (before ++ (key, value) :: after) ↔ Holds name item (before ++ after) := by
  simp only [Holds, valuesOf_append, valuesOf_cons_of_ne apart]

theorem Holds.perm {others : List (String × Json)} (holds : Holds name item members)
    (same : members.Perm others) : Holds name item others := by
  have values : (valuesOf name members).Perm (valuesOf name others) := same.filterMap _
  rw [holds] at values
  cases item with
  | none => exact List.nil_perm.mp values
  | some value => exact (List.singleton_perm.mp values).symm

/-- An object without repeated names holds what is found in it. -/
theorem holds_lookup (once : (members.map Prod.fst).Nodup) :
    Holds name (members.lookup name) members := by
  induction members with
  | nil => rfl
  | cons member rest ih =>
    obtain ⟨key, value⟩ := member
    obtain ⟨new, once⟩ := List.nodup_cons.mp once
    by_cases same : key = name
    · subst same
      have absent : Holds key none ([] ++ rest) := by
        refine holds_none_of_forall fun member mem alike => new ?_
        exact List.mem_map.mpr ⟨member, mem, alike⟩
      rw [List.lookup_cons_self]
      exact absent.cons value
    · have apart : (name == key) = false := by simpa using Ne.symm same
      rw [Holds, List.lookup_cons, apart, valuesOf_cons_of_ne same]
      exact ih once

end

def HoldsEach (names : List String) (items : String → Option Json)
    (members : List (String × Json)) : Prop :=
  ∀ name ∈ names, Holds name (items name) members

section

variable {names : List String} {items : String → Option Json} {members : List (String × Json)}

theorem HoldsEach.reread (holds : HoldsEach names items members) :
    HoldsEach names (fun name => (items name).map Json.reread) (rereadMembers [] members) :=
  fun name known => (holds name known).reread

end

/-! ### Changes of an object -/

/-- Changes of an object that leave what it holds under some names as it is. -/
inductive Rewording (names : List String) : Json → Json → Prop where
  | more {before after : List (String × Json)} {name : String} {value : Json}
      (unknown : name ∉ names) :
      Rewording names (.object (before ++ after)) (.object (before ++ (name, value) :: after))
  | order {members others : List (String × Json)} (same : members.Perm others) :
      Rewording names (.object members) (.object others)

/-- The second object is the first with one more member, whose name is new. -/
inductive Added (name : String) (value : Json) : Json → Json → Prop where
  | member {before after : List (String × Json)}
      (absent : ∀ member ∈ before ++ after, member.1 ≠ name) :
      Added name value (.object (before ++ after)) (.object (before ++ (name, value) :: after))

inductive Inside (name : String) (change : Json → Json → Prop) : Json → Json → Prop where
  | member {before after : List (String × Json)} {held other : Json} (changed : change held other) :
      Inside name change (.object (before ++ (name, held) :: after))
        (.object (before ++ (name, other) :: after))

inductive Replaced (held next : Json) : Json → Json → Prop where
  | element (earlier later : List Json) :
      Replaced held next (.array (earlier ++ held :: later)) (.array (earlier ++ next :: later))

/-- Objects that differ only in what they hold under one name. -/
structure Differ (name : String) (old new : Option Json) (members others : List (String × Json)) :
    Prop where
  old : Holds name old members
  new : Holds name new others
  others {key : String} {item : Option Json} (apart : key ≠ name) :
    Holds key item members ↔ Holds key item others

variable {name : String} {names : List String} {items : String → Option Json}
  {members others : List (String × Json)} {other : Json}

/-- What is held under the known names stays. -/
theorem Rewording.exists_members (changed : Rewording names (.object members) other)
    (holds : HoldsEach names items members) :
    ∃ others, other = .object others ∧ HoldsEach names items others := by
  cases changed with
  | @more before after added value unknown =>
    refine ⟨_, rfl, fun name known => ?_⟩
    have apart : added ≠ name := by
      intro same
      exact unknown (same ▸ known)
    exact (holds_cons_iff_of_ne apart).mpr (holds name known)
  | @order _ others same => exact ⟨others, rfl, fun name known => (holds name known).perm same⟩

theorem Differ.holdsEach {old new : Option Json} (differ : Differ name old new members others)
    (holds : HoldsEach names items members) :
    HoldsEach names (Function.update items name new) others := by
  intro key known
  by_cases same : key = name
  · subst same
    rw [Function.update_self]
    exact differ.new
  · rw [Function.update_of_ne same]
    exact (differ.others same).mp (holds key known)

theorem Differ.symm {old new : Option Json} (differ : Differ name old new members others) :
    Differ name new old others members :=
  ⟨differ.new, differ.old, fun apart => (differ.others apart).symm⟩

theorem Added.exists_members {value json : Json} (added : Added name value json other) :
    ∃ members others, json = .object members ∧ other = .object others ∧
      Differ name none (some value) members others := by
  cases added with
  | @member before after absent =>
    have none := holds_none_of_forall absent
    exact ⟨_, _, rfl, rfl, none, none.cons value,
      fun apart => (holds_cons_iff_of_ne apart.symm).symm⟩

theorem Inside.exists_members {change : Json → Json → Prop} {item : Option Json}
    (changed : Inside name change (.object members) other) (holds : Holds name item members) :
    ∃ others value next, other = .object others ∧ item = some value ∧ change value next ∧
      Differ name item (some next) members others := by
  cases changed with
  | @member before after held next changed =>
    obtain ⟨same, absent⟩ := holds.of_cons
    refine ⟨_, held, next, rfl, same, changed, holds, absent.cons next, fun apart => ?_⟩
    rw [holds_cons_iff_of_ne apart.symm, holds_cons_iff_of_ne apart.symm]

end Json

end LanguageClient
