import LanguageClient.Json.Decoder

set_option autoImplicit false

namespace LanguageClient

structure Position where
  line : UInt32
  character : UInt32
deriving DecidableEq

/-- The text from one position up to another. -/
structure Range where
  first : Position
  last : Position
deriving DecidableEq

structure Location where
  uri : String
  range : Range
deriving DecidableEq

structure DocumentId where
  uri : String
deriving DecidableEq

structure DocumentPosition where
  document : DocumentId
  position : Position
deriving DecidableEq

namespace Position

/-- The order of the text: lines first. -/
def compare (a b : Position) : Ordering :=
  (Ord.compare a.line b.line).then (Ord.compare a.character b.character)

instance : Ord Position := ⟨compare⟩

instance : LE Position := leOfOrd

def ofJson : Json.Decoder Position := fun value => do
  let source ← Json.Source.ofJson "Position" value
  let line := source.slot 0 "line" .uint32
  let character := source.slot 1 "character" .uint32
  source.check "Position" [line.status, character.status]
  return ⟨← line.value, ← character.value⟩

def toJson (position : Position) : Json :=
  .object [("line", .ofUInt32 position.line), ("character", .ofUInt32 position.character)]

end Position

namespace Range

/-- Both ends belong to the range. -/
def containsPosition (range : Range) (position : Position) : Bool :=
  range.first ≤ position && position ≤ range.last

def contains (range other : Range) : Bool :=
  range.containsPosition other.first && range.containsPosition other.last

def ofJson : Json.Decoder Range := fun value => do
  let source ← Json.Source.ofJson "Range" value
  let first := source.slot 0 "start" Position.ofJson
  let last := source.slot 1 "end" Position.ofJson
  source.check "Range" [first.status, last.status]
  return ⟨← first.value, ← last.value⟩

def toJson (range : Range) : Json :=
  .object [("start", range.first.toJson), ("end", range.last.toJson)]

end Range

namespace Location

def ofJson : Json.Decoder Location := fun value => do
  let source ← Json.Source.ofJson "Location" value
  let uri := source.slot 0 "uri" .string
  let range := source.slot 1 "range" Range.ofJson
  source.check "Location" [uri.status, range.status]
  return ⟨← uri.value, ← range.value⟩

def toJson (location : Location) : Json :=
  .object [("uri", .string location.uri), ("range", location.range.toJson)]

end Location

namespace DocumentId

def ofJson : Json.Decoder DocumentId := fun value => do
  let source ← Json.Source.ofJson "TextDocumentIdentifier" value
  let uri := source.slot 0 "uri" .string
  source.check "TextDocumentIdentifier" [uri.status]
  return ⟨← uri.value⟩

def toJson (document : DocumentId) : Json := .object [("uri", .string document.uri)]

end DocumentId

namespace DocumentPosition

def ofJson : Json.Decoder DocumentPosition := fun value => do
  let source ← Json.Source.ofJson "TextDocumentPositionParams" value
  let document := source.slot 0 "textDocument" DocumentId.ofJson
  let position := source.slot 1 "position" Position.ofJson
  source.check "TextDocumentPositionParams" [document.status, position.status]
  return ⟨← document.value, ← position.value⟩

def toJson (place : DocumentPosition) : Json :=
  .object [("textDocument", place.document.toJson), ("position", place.position.toJson)]

end DocumentPosition

end LanguageClient
