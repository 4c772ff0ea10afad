import LanguageClient.Json.Printer
import LanguageClient.Text.Quoted

set_option autoImplicit false

/-!
Typed values from JSON. A record is read from an object by the names of its fields, whatever other
members there are, or from an array by their order. Of several bad members of an object the one
with the least key is reported, and missing fields only if no member is bad.
-/

namespace LanguageClient

namespace Json

inductive DecodeError where
  | unexpected (found : Json) (wanted : String)
  | outOfRange (found : Integer) (wanted : String)
  | missing (field : String)
  | tooShort (index : Nat) (wanted : String)
  | tooLong (length : Nat)
deriving DecidableEq

def describe : Json → String
  | .null => "null"
  | .bool value => "boolean `" ++ String.ofList (boolChars value) ++ "`"
  | .number (.integer value) => "integer `" ++ String.ofList (Decimal.signed value.value) ++ "`"
  | .number (.double value) =>
    "floating point `" ++ String.ofList (value.chars doubleLayout) ++ "`"
  | .string value => "string " ++ Quoted.quote value
  | .array _ => "sequence"
  | .object _ => "map"

def DecodeError.message : DecodeError → String
  | .unexpected found wanted => "invalid type: " ++ describe found ++ ", expected " ++ wanted
  | .outOfRange found wanted =>
    "invalid value: " ++ describe (.number (.integer found)) ++ ", expected " ++ wanted
  | .missing field => "missing field `" ++ field ++ "`"
  | .tooShort index wanted => "invalid length " ++ index.repr ++ ", expected " ++ wanted
  | .tooLong length =>
    "invalid length " ++ length.repr ++ ", expected fewer elements in array"

abbrev Decoder (α : Type) := Json → Except DecodeError α

def Decoder.uint32 : Decoder UInt32
  | .number (.integer found) =>
    if 0 ≤ found.value ∧ found.value < 0x100000000 then .ok (UInt32.ofNat found.value.toNat)
    else .error (.outOfRange found "u32")
  | value => .error (.unexpected value "u32")

def Decoder.int32 : Decoder Int32
  | .number (.integer found) =>
    if -0x80000000 ≤ found.value ∧ found.value < 0x80000000 then .ok (Int32.ofInt found.value)
    else .error (.outOfRange found "i32")
  | value => .error (.unexpected value "i32")

def Decoder.bool : Decoder Bool
  | .bool value => .ok value
  | value => .error (.unexpected value "a boolean")

/-- A text, under the name that a mismatch gives to it. -/
def Decoder.text (wanted : String) : Decoder String
  | .string value => .ok value
  | value => .error (.unexpected value wanted)

def Decoder.string : Decoder String := Decoder.text "a string"

def Decoder.list {α : Type} (element : Decoder α) : Decoder (List α)
  | .array found => found.mapM element
  | value => .error (.unexpected value "a sequence")

def Decoder.option {α : Type} (content : Decoder α) : Decoder (Option α)
  | .null => .ok none
  | value => (content value).map some

inductive Source where
  | members (members : List (String × Json))
  | elements (elements : List Json)

def Source.ofJson (record : String) : Decoder Source
  | .object found => .ok (.members found)
  | .array found => .ok (.elements found)
  | value => .error (.unexpected value ("struct " ++ record))

def Source.item? (source : Source) (index : Nat) (name : String) : Option Json :=
  match source with
  | .members found => found.lookup name
  | .elements found => found[index]?

structure Slot (α : Type) where
  name : String
  content : Option (Except DecodeError α)

def Source.slot {α : Type} (source : Source) (index : Nat) (name : String)
    (content : Decoder α) : Slot α :=
  ⟨name, (source.item? index name).map content⟩

/-- A field with a value for when it is not there. -/
def Source.slotOr {α : Type} (source : Source) (index : Nat) (name : String)
    (content : Decoder α) (absent : α) : Slot α :=
  ⟨name, some ((source.item? index name).elim (.ok absent) content)⟩

inductive Status where
  | good
  | bad (error : DecodeError)
  | absent

def Slot.status {α : Type} (slot : Slot α) : String × Status :=
  (slot.name,
    match slot.content with
    | none => .absent
    | some (.ok _) => .good
    | some (.error error) => .bad error)

def Slot.value {α : Type} (slot : Slot α) : Except DecodeError α :=
  slot.content.getD (.error (.missing slot.name))

def leastBad (fields : List (String × Status)) : Option (String × DecodeError) :=
  fields.foldl (fun least (name, status) =>
    match status, least with
    | .bad error, none => some (name, error)
    | .bad error, some (held, other) =>
      if name < held then some (name, error) else some (held, other)
    | _, least => least) none

def elementCount : Nat → String
  | 1 => "1 element"
  | count => count.repr ++ " elements"

/-- The first fault among the fields of a record, in the order in which its source is read. -/
def Source.check (source : Source) (record : String) (fields : List (String × Status)) :
    Except DecodeError Unit :=
  match source with
  | .members _ =>
    match leastBad fields with
    | some (_, error) => .error error
    | none =>
      match fields.find? fun (_, status) => status matches .absent with
      | some (name, _) => .error (.missing name)
      | none => .ok ()
  | .elements found =>
    let wanted := "struct " ++ record ++ " with " ++ elementCount fields.length
    let fault := fields.zipIdx.findSome? fun ((_, status), index) =>
      match status with
      | .good => none
      | .bad error => some error
      | .absent => some (.tooShort index wanted)
    match fault with
    | some error => .error error
    | none =>
      if fields.length < found.length then .error (.tooLong found.length) else .ok ()

end Json

end LanguageClient
