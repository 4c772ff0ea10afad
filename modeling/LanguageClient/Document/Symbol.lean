import LanguageClient.Document.Range
import LanguageClient.Document.SymbolKind

set_option autoImplicit false

namespace LanguageClient

/-- The kind is kept as its code, since servers may know more kinds. -/
inductive Symbol where
  | mk (name : String) (detail : Option String) (kind : Int32) (range selection : Range)
    (children : List Symbol)

namespace Symbol

def name : Symbol → String
  | mk name _ _ _ _ _ => name

def detail : Symbol → Option String
  | mk _ detail _ _ _ _ => detail

def kind : Symbol → Int32
  | mk _ _ kind _ _ _ => kind

def range : Symbol → Range
  | mk _ _ _ range _ _ => range

/-- The range of the symbol's name. -/
def selection : Symbol → Range
  | mk _ _ _ _ selection _ => selection

def children : Symbol → List Symbol
  | mk _ _ _ _ _ children => children

/-- What holds of a symbol whenever it holds of the symbols inside it holds of every symbol. -/
@[elab_as_elim, induction_eliminator]
theorem induct {motive : Symbol → Prop}
    (mk : ∀ name detail kind range selection children, (∀ child ∈ children, motive child) →
      motive (.mk name detail kind range selection children)) : ∀ symbol, motive symbol
  | .mk name detail kind range selection children =>
    mk name detail kind range selection children fun child _ => induct mk child

def ofJsonAt : Nat → Json.Decoder Symbol
  | 0 => fun value => .error (.unexpected value "struct DocumentSymbol")
  | levels + 1 => fun value => do
    let source ← Json.Source.ofJson "DocumentSymbol" value
    let name := source.slot 0 "name" .string
    let detail := source.slotOr 1 "detail" (.option .string) none
    let kind := source.slot 2 "kind" .int32
    let range := source.slot 3 "range" Range.ofJson
    let selection := source.slot 4 "selectionRange" Range.ofJson
    let children := source.slotOr 5 "children" (.list (ofJsonAt levels)) []
    source.check "DocumentSymbol" [name.status, detail.status, kind.status, range.status,
      selection.status, children.status]
    return mk (← name.value) (← detail.value) (← kind.value) (← range.value) (← selection.value)
      (← children.value)

/-- A symbol is nested no deeper than the value that holds it. -/
def ofJson : Json.Decoder Symbol := fun value => ofJsonAt value.depth value

mutual

/-- A missing detail is left out; children are always written. -/
def toJson : Symbol → Json
  | mk name detail kind range selection children =>
    .object ([("name", .string name)] ++ detail.toList.map (fun text => ("detail", .string text)) ++
      [("kind", .ofInt32 kind), ("range", range.toJson), ("selectionRange", selection.toJson),
        ("children", .array (toJsonAll children))])

def toJsonAll : List Symbol → List Json
  | [] => []
  | symbol :: rest => symbol.toJson :: toJsonAll rest

end

mutual

def outlineAt (level : Nat) : Symbol → List (Nat × Symbol)
  | symbol@(mk _ _ _ _ _ children) => (level, symbol) :: outlineAllAt (level + 1) children

def outlineAllAt (level : Nat) : List Symbol → List (Nat × Symbol)
  | [] => []
  | symbol :: rest => outlineAt level symbol ++ outlineAllAt level rest

end

def outline (symbols : List Symbol) : List (Nat × Symbol) := outlineAllAt 0 symbols

mutual

/-- The symbol itself if it has the name, or else the first one inside it that has. -/
def findIn? (wanted : String) : Symbol → Option Symbol
  | symbol@(mk name _ _ _ _ children) =>
    if name = wanted then some symbol else find? wanted children

def find? (wanted : String) : List Symbol → Option Symbol
  | [] => none
  | symbol :: rest =>
    match findIn? wanted symbol with
    | some found => some found
    | none => find? wanted rest

end

end Symbol

end LanguageClient
