import LanguageClient.Proofs.Call.Typed
import LanguageClient.Proofs.CommandLine.Inquiry
import LanguageClient.Proofs.Document.Outline

set_option autoImplicit false

namespace LanguageClient

/-- The line and the character can be counted from 1 on in 32 bits. -/
structure Position.Countable (position : Position) : Prop where
  line : position.line.toNat + 1 < UInt32.size
  character : position.character.toNat + 1 < UInt32.size

namespace Session

theorem mapError_eq_ok_iff {α error failure : Type} {outcome : Except error α}
    {change : error → failure} {value : α} :
    outcome.mapError change = .ok value ↔ outcome = .ok value := by
  cases outcome <;> simp [Except.mapError]

def examining (id : Id) (language : Language) (path : Path) (text : String) (value : Json) :
    List Turn :=
  [.told (.didOpen (Uri.ofPath none path) language text) (.ok ()),
    .asked (.documentSymbols id (Uri.ofPath none path)) (.ok value),
    .told (.didClose (Uri.ofPath none path)) (.ok ())]

theorem yields_documentSymbols_ok_iff {id : Id} {language : Language} {read : FileReader}
    {path : Path} {turns : List Turn} {symbols : List Symbol} :
    (documentSymbols id language read path).run.Yields turns (.ok symbols) ↔
      ∃ text value, read path = .ok text ∧ Call.ListOf Symbol.Denotes value symbols ∧
        turns = examining id language path text value := by
  unfold documentSymbols
  simp only [yields_ofResult_bind_iff, yields_tell_bind_iff, yields_lift_bind_iff,
    yields_ofResult_iff, Call.yields_symbols_iff]
  constructor
  · intro yields
    rcases yields with ⟨failure, -, -, same⟩ | ⟨text, readable, opening⟩
    · cases same
    rcases opening with ⟨error, -, same⟩ | ⟨asking, rfl, asked⟩
    · cases same
    obtain ⟨begun, outcome, rest, rfl, ⟨answer, rfl, typed⟩, closing⟩ := asked
    rcases closing with ⟨error, -, same⟩ | ⟨last, rfl, rfl, ended⟩
    · cases same
    obtain ⟨value, rfl, isList⟩ := Call.typed_ok_iff.mp (mapError_eq_ok_iff.mp ended.symm ▸ typed)
    exact ⟨text, value, mapError_eq_ok_iff.mp readable, isList, rfl⟩
  · intro ⟨text, value, readable, isList, same⟩
    rw [same]
    exact Or.inr ⟨text, mapError_eq_ok_iff.mpr readable, Or.inr ⟨_, rfl, [_], .ok symbols, _, rfl,
      ⟨.ok value, rfl, .list isList⟩, Or.inr ⟨[], rfl, rfl, rfl⟩⟩⟩

end Session

namespace Inquiry

open LanguageClient.Symbol

/-- Which sum is too large when a position is printed. The line is counted first. -/
inductive Overflows (sums : Sums) (position : Position) : Site → Prop where
  | line (last : position.line.toNat + 1 = UInt32.size) : Overflows sums position sums.line
  | character (line : position.line.toNat + 1 < UInt32.size)
      (last : position.character.toNat + 1 = UInt32.size) : Overflows sums position sums.character

/-- Items are printed one by one, up to the first whose position cannot be counted. -/
inductive Prints {α : Type} (sums : Sums) (position : α → Position) (text : α → String) :
    List α → List Turn → Except Abort Unit → Prop where
  | done : Prints sums position text [] [] (.ok ())
  | line {item : α} {rest : List α} {turns : List Turn} {result : Except Abort Unit}
      (countable : (position item).Countable)
      (further : Prints sums position text rest turns result) :
      Prints sums position text (item :: rest) (.printed (text item) :: turns) result
  | broken {item : α} {rest : List α} {site : Site}
      (overflows : Overflows sums (position item) site) :
      Prints sums position text (item :: rest) [] (.error (.overflowed site))

/-- The line of a symbol, with its position counted from 1 on without a limit. -/
def symbolText (level : Nat) (symbol : Symbol) : String :=
  "".pushn ' ' (2 * level) ++ SymbolKind.describe symbol.kind ++ " " ++ symbol.name ++ " [" ++
    (symbol.selection.first.line.toNat + 1).repr ++ ":" ++
    (symbol.selection.first.character.toNat + 1).repr ++ "]\n"

def locationText (location : Location) : String :=
  location.uri ++ ":" ++ (location.range.first.line.toNat + 1).repr ++ ":" ++
    (location.range.first.character.toNat + 1).repr ++ "\n"

/-- The symbols of a forest are printed in their order, each as deep as it lies. -/
abbrev PrintsSymbols (forest : List Symbol) : List Turn → Except Abort Unit → Prop :=
  Prints symbolSums (fun entry : List Nat × Symbol => entry.2.selection.first)
    (fun entry => symbolText (entry.1.length - 1) entry.2) (placed forest)

abbrev PrintsLocations : List Location → List Turn → Except Abort Unit → Prop :=
  Prints locationSums (fun location : Location => location.range.first) locationText

/-! ### Lines -/

section

variable {sums : Sums} {position : Position} {site : Site} {number : UInt32}

theorem ordinal_of_lt (below : number.toNat + 1 < UInt32.size) :
    ordinal site number = .ok (number.toNat + 1).repr := by
  have sum : (number + 1).toNat = number.toNat + 1 := by
    rw [UInt32.toNat_add]
    exact Nat.mod_eq_of_lt below
  rw [ordinal, if_pos below, sum]

theorem ordinal_of_last (last : number.toNat + 1 = UInt32.size) :
    ordinal site number = .error (.overflowed site) := by
  rw [ordinal, if_neg (by omega)]

theorem place_of_countable (countable : position.Countable) :
    place sums position =
      .ok ((position.line.toNat + 1).repr ++ ":" ++ (position.character.toNat + 1).repr) := by
  rw [place, ordinal_of_lt countable.line, ordinal_of_lt countable.character]
  rfl

theorem place_of_overflows (overflows : Overflows sums position site) :
    place sums position = .error (.overflowed site) := by
  cases overflows with
  | line last =>
    rw [place, ordinal_of_last last]
    rfl
  | character line last =>
    rw [place, ordinal_of_lt line, ordinal_of_last last]
    rfl

theorem countable_or_overflows (sums : Sums) (position : Position) :
    position.Countable ∨ ∃ site, Overflows sums position site := by
  have line := position.line.toNat_lt_size
  have character := position.character.toNat_lt_size
  rcases Nat.lt_or_eq_of_le line with before | last
  · rcases Nat.lt_or_eq_of_le character with inside | limit
    · exact Or.inl ⟨before, inside⟩
    · exact Or.inr ⟨_, .character before limit⟩
  · exact Or.inr ⟨_, .line last⟩

theorem symbolLine_of_countable {level : Nat} {symbol : Symbol}
    (countable : symbol.selection.first.Countable) :
    symbolLine level symbol = .ok (symbolText level symbol) := by
  rw [symbolLine, place_of_countable countable, symbolText]
  simp only [bind, Except.bind, pure, Except.pure, String.append_assoc]

theorem symbolLine_of_overflows {level : Nat} {symbol : Symbol}
    (overflows : Overflows symbolSums symbol.selection.first site) :
    symbolLine level symbol = .error (.overflowed site) := by
  rw [symbolLine, place_of_overflows overflows]
  rfl

theorem locationLine_of_countable {location : Location}
    (countable : location.range.first.Countable) :
    locationLine location = .ok (locationText location) := by
  rw [locationLine, place_of_countable countable, locationText]
  simp only [bind, Except.bind, pure, Except.pure, String.append_assoc]

theorem locationLine_of_overflows {location : Location}
    (overflows : Overflows locationSums location.range.first site) :
    locationLine location = .error (.overflowed site) := by
  rw [locationLine, place_of_overflows overflows]
  rfl

end

/-! ### Printing -/

section

variable {α : Type} {sums : Sums} {position : α → Position} {text : α → String} {items : List α}
  {turns : List Turn} {result : Except Abort Unit}

theorem yields_printAll_iff {line : α → Except Abort String}
    (made : ∀ item, (position item).Countable → line item = .ok (text item))
    (missed : ∀ item site, Overflows sums (position item) site →
      line item = .error (.overflowed site)) :
    (Session.printAll (items.map line)).run.Yields turns result ↔
      Prints sums position text items turns result := by
  induction items generalizing turns with
  | nil =>
    refine Session.yields_pure_iff.trans ?_
    constructor
    · intro ⟨ended, done⟩
      rw [ended, done]
      exact .done
    · intro prints
      cases prints
      exact ⟨rfl, rfl⟩
  | cons item rest ih =>
    rw [List.map_cons, Session.yields_printAll_cons_iff]
    constructor
    · intro yields
      rcases countable_or_overflows sums (position item) with countable | ⟨site, overflows⟩
      · rw [made item countable] at yields
        rcases yields with ⟨abort, same, -⟩ | ⟨content, later, same, first, further⟩
        · cases same
        · cases same
          rw [first]
          exact .line countable (ih.mp further)
      · rw [missed item site overflows] at yields
        rcases yields with ⟨abort, same, ended, done⟩ | ⟨content, later, same, -⟩
        · cases same
          rw [ended, done]
          exact .broken overflows
        · cases same
    · intro prints
      cases prints with
      | line countable further =>
        exact Or.inr ⟨_, _, made item countable, rfl, ih.mpr further⟩
      | broken overflows => exact Or.inl ⟨_, missed item _ overflows, rfl, rfl⟩

theorem prints_ok_iff :
    Prints sums position text items turns (.ok ()) ↔
      (∀ item ∈ items, (position item).Countable) ∧
        turns = items.map fun item => .printed (text item) := by
  induction items generalizing turns with
  | nil =>
    constructor
    · intro prints
      cases prints
      exact ⟨List.forall_mem_nil _, rfl⟩
    · intro ⟨_, same⟩
      rw [same]
      exact .done
  | cons item rest ih =>
    rw [List.forall_mem_cons, List.map_cons]
    constructor
    · intro prints
      cases prints with
      | line countable further =>
        obtain ⟨others, same⟩ := ih.mp further
        rw [same]
        exact ⟨⟨countable, others⟩, rfl⟩
    · intro ⟨⟨countable, others⟩, same⟩
      rw [same]
      exact .line countable (ih.mpr ⟨others, rfl⟩)

theorem prints_overflowed_iff {site : Site} :
    Prints sums position text items turns (.error (.overflowed site)) ↔
      ∃ before item after, items = before ++ item :: after ∧
        (∀ earlier ∈ before, (position earlier).Countable) ∧
        Overflows sums (position item) site ∧
        turns = before.map fun earlier => .printed (text earlier) := by
  constructor
  · intro prints
    generalize ended : Except.error (Abort.overflowed site) = result at prints
    induction prints with
    | done => cases ended
    | line countable further ih =>
      obtain ⟨before, item, after, split, earlier, overflows, same⟩ := ih ended
      rw [split, same]
      exact ⟨_ :: before, item, after, rfl, List.forall_mem_cons.mpr ⟨countable, earlier⟩,
        overflows, rfl⟩
    | broken overflows =>
      cases ended
      exact ⟨[], _, _, rfl, List.forall_mem_nil _, overflows, rfl⟩
  · intro ⟨before, item, after, split, earlier, overflows, same⟩
    rw [split, same]
    clear split same
    induction before with
    | nil => exact .broken overflows
    | cons first rest ih =>
      obtain ⟨countable, others⟩ := List.forall_mem_cons.mp earlier
      exact .line countable (ih others)

end

theorem yields_printAll_symbols_iff {symbols : List Symbol} {turns : List Turn}
    {result : Except Abort Unit} :
    (Session.printAll ((outline symbols).map fun (level, symbol) =>
        symbolLine level symbol)).run.Yields turns result ↔ PrintsSymbols symbols turns result := by
  rw [outline_eq_map, List.map_map]
  exact yields_printAll_iff (fun _ => symbolLine_of_countable) fun _ _ => symbolLine_of_overflows

theorem yields_printAll_locations_iff {locations : List Location} {turns : List Turn}
    {result : Except Abort Unit} :
    (Session.printAll (locations.map locationLine)).run.Yields turns result ↔
      PrintsLocations locations turns result :=
  yields_printAll_iff (fun _ => locationLine_of_countable) fun _ _ => locationLine_of_overflows

/-! ### Commands about a file -/

/-- What is asked and printed when the symbols of a file are known and a name is looked for among
them. -/
inductive Refers (ids : Ids) (root file : Path) (name : String) (symbols : List Symbol) :
    List Turn → Except Abort Unit → Prop where
  | unnamed (none : ∀ place symbol, at? symbols place = some symbol → symbol.name ≠ name) :
      Refers ids root file name symbols []
        (.error (.failed
          ⟨"No symbol named " ++ name ++ " in " ++ Utf8.lossyText (Path.join root file), []⟩))
  | refused {place : List Nat} {symbol : Symbol} {answer : Except RequestError Json}
      {error : RequestError} (first : FirstNamed name symbols place symbol)
      (typed : Call.Typed (Call.listOrNull Location.ofJson) Location.Denotes
        "textDocument/references" answer (.error error)) :
      Refers ids root file name symbols
        [.asked (.references ids.references symbol (uri root file)) answer]
        (.error (.ofRequest error))
  | found {place : List Nat} {symbol : Symbol} {answer : Except RequestError Json}
      {locations : List Location} {rest : List Turn} {result : Except Abort Unit}
      (first : FirstNamed name symbols place symbol)
      (typed : Call.Typed (Call.listOrNull Location.ofJson) Location.Denotes
        "textDocument/references" answer (.ok locations))
      (prints : PrintsLocations locations rest result) :
      Refers ids root file name symbols
        (.asked (.references ids.references symbol (uri root file)) answer :: rest) result

section

variable {ids : Ids} {language : Language} {root file : Path} {read : FileReader}
  {capabilities : Json} {name : String} {turns : List Turn} {result : Except Abort Unit}

theorem yields_symbols_iff :
    ((symbols file).answer ids language root read capabilities).run.Yields turns result ↔
      (∃ abort, (Session.documentSymbols ids.question language read
        (Path.join root file)).run.Yields turns (.error abort) ∧ result = .error abort) ∨
      ∃ symbols begun rest, turns = begun ++ rest ∧
        (Session.documentSymbols ids.question language read
          (Path.join root file)).run.Yields begun (.ok symbols) ∧
        PrintsSymbols symbols rest result := by
  simp only [← yields_printAll_symbols_iff]
  exact Session.yields_bind_iff

theorem yields_references_of_symbol_iff {symbol : Symbol} :
    (do
      let locations ← Session.ask (Call.references ids.references symbol (uri root file))
      Session.printAll (locations.map locationLine) : Session Unit).run.Yields turns result ↔
      ∃ answer outcome rest,
        turns = .asked (.references ids.references symbol (uri root file)) answer :: rest ∧
        Call.Typed (Call.listOrNull Location.ofJson) Location.Denotes "textDocument/references"
          answer outcome ∧
        ((∃ error, outcome = .error error ∧ rest = [] ∧ result = .error (.ofRequest error)) ∨
          ∃ locations, outcome = .ok locations ∧ PrintsLocations locations rest result) := by
  rw [Session.yields_bind_iff]
  simp only [Session.yields_ask_iff, Call.yields_references_iff, yields_printAll_locations_iff]
  constructor
  · intro yields
    rcases yields with
      ⟨abort, ⟨outcome, ⟨answer, same, typed⟩, failed⟩, done⟩ |
        ⟨locations, begun, rest, split, ⟨outcome, ⟨answer, same, typed⟩, succeeded⟩, prints⟩
    · cases outcome with
      | error error =>
        cases failed
        exact ⟨answer, _, [], same, typed, Or.inl ⟨error, rfl, rfl, done⟩⟩
      | ok locations => cases failed
    · have found := Session.mapError_eq_ok_iff.mp succeeded.symm
      rw [same] at split
      exact ⟨answer, outcome, rest, split, typed, Or.inr ⟨locations, found, prints⟩⟩
  · intro ⟨answer, outcome, rest, split, typed, course⟩
    rcases course with ⟨error, failed, none, done⟩ | ⟨locations, found, prints⟩
    · rw [failed] at typed
      rw [none] at split
      exact Or.inl ⟨_, ⟨_, ⟨answer, split, typed⟩, rfl⟩, done⟩
    · rw [found] at typed
      exact Or.inr ⟨locations, [_], rest, split, ⟨_, ⟨answer, rfl, typed⟩, rfl⟩, prints⟩

theorem yields_references_iff :
    ((references file name).answer ids language root read capabilities).run.Yields turns result ↔
      (∃ abort, (Session.documentSymbols ids.question language read
        (Path.join root file)).run.Yields turns (.error abort) ∧ result = .error abort) ∨
      ∃ symbols begun rest, turns = begun ++ rest ∧
        (Session.documentSymbols ids.question language read
          (Path.join root file)).run.Yields begun (.ok symbols) ∧
        Refers ids root file name symbols rest result := by
  refine Session.yields_bind_iff.trans (or_congr_right ?_)
  refine exists_congr fun symbols => exists_congr fun begun => exists_congr fun rest =>
    and_congr_right fun _ => and_congr_right fun _ => ?_
  cases found : find? name symbols with
  | none =>
    have unnamed := find?_eq_none_iff.mp found
    refine Session.yields_throw_iff.trans ?_
    constructor
    · intro ⟨ended, same⟩
      rw [ended, same]
      exact .unnamed unnamed
    · intro refers
      cases refers with
      | unnamed => exact ⟨rfl, rfl⟩
      | refused first typed => exact absurd first.named (unnamed _ _ first.there)
      | found first typed prints => exact absurd first.named (unnamed _ _ first.there)
  | some symbol =>
    refine yields_references_of_symbol_iff.trans ?_
    constructor
    · intro ⟨answer, outcome, later, same, typed, course⟩
      obtain ⟨place, first⟩ := find?_eq_some_iff.mp found
      rw [same]
      rcases course with ⟨error, failed, none, done⟩ | ⟨locations, listed, prints⟩
      · rw [none, done]
        exact .refused first (failed ▸ typed)
      · exact .found first (listed ▸ typed) prints
    · intro refers
      cases refers with
      | unnamed unnamed =>
        obtain ⟨place, first⟩ := find?_eq_some_iff.mp found
        exact absurd first.named (unnamed _ _ first.there)
      | refused first typed =>
        have same : some symbol = some _ := found.symm.trans (find?_eq_some_iff.mpr ⟨_, first⟩)
        cases same
        exact ⟨_, _, [], rfl, typed, Or.inl ⟨_, rfl, rfl, rfl⟩⟩
      | found first typed prints =>
        have same : some symbol = some _ := found.symm.trans (find?_eq_some_iff.mpr ⟨_, first⟩)
        cases same
        exact ⟨_, _, _, rfl, typed, Or.inr ⟨_, rfl, prints⟩⟩

end

theorem prints_symbols_ok_iff {forest : List Symbol} {turns : List Turn} :
    PrintsSymbols forest turns (.ok ()) ↔
      (∀ place symbol, at? forest place = some symbol → symbol.selection.first.Countable) ∧
        turns = (placed forest).map fun entry =>
          .printed (symbolText (entry.1.length - 1) entry.2) := by
  rw [PrintsSymbols, prints_ok_iff, Prod.forall]
  simp only [mem_placed_iff]

/-- A symbol inside another one is indented, and printed before what follows that one. -/
example :
    let range (line : UInt32) : Range := ⟨⟨line, 4⟩, ⟨line, 7⟩⟩
    let leaf (kind : Int32) (line : UInt32) := mk "run" none kind (range line) (range line) []
    ((outline [mk "Task" none 5 (range 0) (range 0) [leaf 6 1], leaf 12 3]).map
        fun (level, symbol) => symbolLine level symbol) =
      [.ok "Class Task [1:5]\n", .ok "  Method run [2:5]\n", .ok "Function run [4:5]\n"] := by
  decide +kernel

end Inquiry

end LanguageClient
