import Mathlib.Data.List.Basic
import LanguageClient.Document.Symbol

set_option autoImplicit false

namespace LanguageClient

namespace Symbol

def within? : Symbol → List Nat → Option Symbol
  | symbol, [] => some symbol
  | symbol, number :: inner => symbol.children[number]?.bind fun child => child.within? inner

/-- The symbol at a place of a forest. The first number counts the symbols that no other holds. -/
def at? (symbols : List Symbol) : List Nat → Option Symbol
  | [] => none
  | number :: inner => symbols[number]?.bind fun symbol => symbol.within? inner

def beneath (number : Nat) (entry : List Nat × Symbol) : List Nat × Symbol :=
  (number :: entry.1, entry.2)

mutual

def placedIn : Symbol → List (List Nat × Symbol)
  | symbol@(mk _ _ _ _ _ children) => ([], symbol) :: placedFrom 0 children

def placedFrom (number : Nat) : List Symbol → List (List Nat × Symbol)
  | [] => []
  | symbol :: rest => symbol.placedIn.map (beneath number) ++ placedFrom (number + 1) rest

end

def placed (symbols : List Symbol) : List (List Nat × Symbol) := placedFrom 0 symbols

section

variable {number : Nat} {place : List Nat} {found symbol : Symbol} {symbols : List Symbol}

theorem mem_placedFrom_iff :
    (place, found) ∈ placedFrom number symbols ↔
      ∃ index inner, place = (number + index) :: inner ∧
        ∃ symbol, symbols[index]? = some symbol ∧ (inner, found) ∈ symbol.placedIn := by
  induction symbols generalizing number with
  | nil => simp [placedFrom]
  | cons symbol rest ih =>
    have behind (index : Nat) : number + 1 + index = number + (index + 1) := by omega
    rw [placedFrom, List.mem_append, ih]
    constructor
    · intro held
      rcases held with first | ⟨index, inner, path, later, there, inside⟩
      · obtain ⟨entry, inside, same⟩ := List.mem_map.mp first
        cases same
        exact ⟨0, entry.1, rfl, symbol, rfl, inside⟩
      · rw [behind] at path
        exact ⟨index + 1, inner, path, later, there, inside⟩
    · intro ⟨index, inner, path, other, there, inside⟩
      cases index with
      | zero =>
        cases there
        exact Or.inl (List.mem_map.mpr ⟨_, inside, by rw [path]; rfl⟩)
      | succ index =>
        rw [← behind] at path
        exact Or.inr ⟨index, inner, path, other, there, inside⟩

/-- Every symbol of a forest is listed if those at each path inside its symbols are. -/
theorem mem_placedFrom_zero_iff
    (all : ∀ symbol ∈ symbols, ∀ {inner found},
      (inner, found) ∈ symbol.placedIn ↔ symbol.within? inner = some found) :
    (place, found) ∈ placedFrom 0 symbols ↔ at? symbols place = some found := by
  rw [mem_placedFrom_iff]
  cases place with
  | nil => simp [at?]
  | cons number inner =>
    simp only [Nat.zero_add, List.cons.injEq, at?, Option.bind_eq_some_iff]
    constructor
    · intro ⟨index, rest, ⟨same, alike⟩, symbol, there, inside⟩
      rw [same, alike]
      exact ⟨symbol, there, (all symbol (List.mem_of_getElem? there)).mp inside⟩
    · intro ⟨symbol, there, inside⟩
      exact ⟨number, inner, ⟨rfl, rfl⟩, symbol, there,
        (all symbol (List.mem_of_getElem? there)).mpr inside⟩

theorem mem_placedIn_iff :
    (place, found) ∈ symbol.placedIn ↔ symbol.within? place = some found := by
  induction symbol generalizing place found with
  | mk name detail kind range selection children ih =>
    rw [placedIn, List.mem_cons, mem_placedFrom_zero_iff fun child mem => ih child mem]
    cases place with
    | nil => simp [within?, at?, eq_comm]
    | cons number inner => simp [within?, at?, Symbol.children]

theorem mem_placed_iff : (place, found) ∈ placed symbols ↔ at? symbols place = some found :=
  mem_placedFrom_zero_iff fun _ _ => mem_placedIn_iff

theorem pairwise_placedFrom (all : ∀ symbol ∈ symbols, symbol.placedIn.Pairwise (·.1 < ·.1)) :
    (placedFrom number symbols).Pairwise (·.1 < ·.1) := by
  induction symbols generalizing number with
  | nil => exact .nil
  | cons symbol rest ih =>
    obtain ⟨first, later⟩ := List.forall_mem_cons.mp all
    rw [placedFrom, List.pairwise_append]
    refine ⟨?_, ih later, ?_⟩
    · rw [List.pairwise_map]
      exact first.imp fun less => List.cons_lt_cons_iff.mpr (Or.inr ⟨rfl, less⟩)
    · intro entry mem other further
      obtain ⟨inside, -, same⟩ := List.mem_map.mp mem
      obtain ⟨index, inner, path, -⟩ := mem_placedFrom_iff.mp further
      rw [← same, path]
      exact List.cons_lt_cons_iff.mpr (Or.inl (by omega))

theorem pairwise_placedIn : symbol.placedIn.Pairwise (·.1 < ·.1) := by
  induction symbol with
  | mk name detail kind range selection children ih =>
    rw [placedIn, List.pairwise_cons]
    refine ⟨fun entry mem => ?_, pairwise_placedFrom ih⟩
    obtain ⟨index, inner, path, -⟩ := mem_placedFrom_iff.mp mem
    rw [path]
    exact List.nil_lt_cons _ _

theorem pairwise_placed : (placed symbols).Pairwise (·.1 < ·.1) :=
  pairwise_placedFrom fun _ _ => pairwise_placedIn

/-! ### The outline -/

theorem outlineAllAt_eq_map {level : Nat}
    (all : ∀ symbol ∈ symbols, ∀ level,
      outlineAt level symbol = symbol.placedIn.map fun entry => (level + entry.1.length, entry.2)) :
    outlineAllAt level symbols =
      (placedFrom number symbols).map fun entry => (level + (entry.1.length - 1), entry.2) := by
  induction symbols generalizing number with
  | nil => rfl
  | cons symbol rest ih =>
    obtain ⟨first, later⟩ := List.forall_mem_cons.mp all
    rw [outlineAllAt, placedFrom, List.map_append, List.map_map, first, ih later]
    rfl

theorem outlineAt_eq_map {level : Nat} :
    outlineAt level symbol =
      symbol.placedIn.map fun entry => (level + entry.1.length, entry.2) := by
  induction symbol generalizing level with
  | mk name detail kind range selection children ih =>
    rw [outlineAt, placedIn, List.map_cons, outlineAllAt_eq_map fun child mem _ => ih child mem]
    congr 1
    refine List.map_congr_left fun entry mem => ?_
    obtain ⟨index, inner, path, -⟩ := mem_placedFrom_iff.mp mem
    rw [path, List.length_cons]
    congr 1
    omega

/-- The outline lists the symbols in the order of their places, at the depths of these. -/
theorem outline_eq_map :
    outline symbols = (placed symbols).map fun entry => (entry.1.length - 1, entry.2) := by
  rw [outline, outlineAllAt_eq_map fun _ _ _ => outlineAt_eq_map]
  simp only [Nat.zero_add]
  rfl

/-! ### The search for a name -/

variable {name : String}

theorem find?_eq_map
    (all : ∀ symbol ∈ symbols,
      findIn? name symbol = (symbol.placedIn.find? (·.2.name = name)).map Prod.snd) :
    find? name symbols = ((placedFrom number symbols).find? (·.2.name = name)).map Prod.snd := by
  induction symbols generalizing number with
  | nil => rfl
  | cons symbol rest ih =>
    obtain ⟨first, later⟩ := List.forall_mem_cons.mp all
    have inside : ((symbol.placedIn.map (beneath number)).find? (·.2.name = name)).map Prod.snd =
        findIn? name symbol := by
      rw [first, List.find?_map, Option.map_map]
      rfl
    rw [find?, placedFrom, List.find?_append, Option.map_or, inside, ← ih later]
    cases findIn? name symbol <;> rfl

theorem findIn?_eq_map :
    findIn? name symbol = (symbol.placedIn.find? (·.2.name = name)).map Prod.snd := by
  induction symbol with
  | mk title detail kind range selection children ih =>
    rw [findIn?, placedIn]
    by_cases same : title = name
    · simp [same, Symbol.name]
    · rw [if_neg same, find?_eq_map ih, List.find?_cons_of_neg]
      exact fun titled => same (of_decide_eq_true titled)

/-- The search finds the first symbol of the name in the order of the places. -/
theorem find?_eq_map_placed :
    find? name symbols = ((placed symbols).find? (·.2.name = name)).map Prod.snd :=
  find?_eq_map fun _ _ => findIn?_eq_map

structure FirstNamed (name : String) (symbols : List Symbol) (place : List Nat) (symbol : Symbol) :
    Prop where
  there : at? symbols place = some symbol
  named : symbol.name = name
  first {earlier : List Nat} {other : Symbol} (before : earlier < place)
    (there : at? symbols earlier = some other) : other.name ≠ name

/-- What is listed before a symbol is what stands at smaller places. -/
theorem mem_before_iff {before after : List (List Nat × Symbol)} {earlier : List Nat}
    {other : Symbol} (split : placed symbols = before ++ (place, symbol) :: after) :
    (earlier, other) ∈ before ↔ at? symbols earlier = some other ∧ earlier < place := by
  have sorted := @pairwise_placed symbols
  rw [split] at sorted
  obtain ⟨-, following, across⟩ := List.pairwise_append.mp sorted
  rw [← mem_placed_iff, split]
  constructor
  · intro mem
    exact ⟨List.mem_append_left _ mem, across _ mem _ (List.mem_cons_self ..)⟩
  · intro ⟨held, less⟩
    rcases List.mem_append.mp held with mem | mem
    · exact mem
    rcases List.mem_cons.mp mem with alike | mem
    · cases alike
      exact absurd less (List.lt_irrefl _)
    · exact absurd less (List.lt_asymm ((List.pairwise_cons.mp following).1 _ mem))

theorem find?_placed_eq_some_iff :
    (placed symbols).find? (·.2.name = name) = some (place, symbol) ↔
      FirstNamed name symbols place symbol := by
  rw [List.find?_eq_some_iff_append]
  constructor
  · intro ⟨named, before, after, split, unnamed⟩
    have mem : (place, symbol) ∈ placed symbols := split ▸ List.mem_append_right _ (.head _)
    refine ⟨mem_placed_iff.mp mem, of_decide_eq_true named, fun less there same => ?_⟩
    have differs := unnamed _ ((mem_before_iff split).mpr ⟨there, less⟩)
    simp [same] at differs
  · intro ⟨there, named, first⟩
    obtain ⟨before, after, split⟩ := List.append_of_mem (mem_placed_iff.mpr there)
    refine ⟨decide_eq_true named, before, after, split, fun entry mem => ?_⟩
    obtain ⟨held, less⟩ := (mem_before_iff split).mp mem
    simpa using first less held

theorem find?_eq_some_iff :
    find? name symbols = some symbol ↔ ∃ place, FirstNamed name symbols place symbol := by
  simp only [find?_eq_map_placed, Option.map_eq_some_iff, ← find?_placed_eq_some_iff]
  constructor
  · intro ⟨⟨place, _⟩, found, same⟩
    exact ⟨place, same ▸ found⟩
  · intro ⟨place, found⟩
    exact ⟨_, found, rfl⟩

/-- A symbol inside the first one comes before the second one. -/
example :
    let place : Range := ⟨⟨0, 0⟩, ⟨0, 1⟩⟩
    let leaf kind := mk "run" none kind place place []
    ((find? "run" [mk "Task" none 5 place place [leaf 6], leaf 12]).map kind) = some 6 := by
  decide

theorem find?_eq_none_iff :
    find? name symbols = none ↔
      ∀ place symbol, at? symbols place = some symbol → symbol.name ≠ name := by
  rw [find?_eq_map_placed, Option.map_eq_none_iff, List.find?_eq_none]
  constructor
  · intro unnamed place symbol there same
    exact unnamed _ (mem_placed_iff.mpr there) (decide_eq_true same)
  · intro unnamed entry mem same
    exact unnamed _ _ (mem_placed_iff.mp mem) (of_decide_eq_true same)

end

end Symbol

end LanguageClient
