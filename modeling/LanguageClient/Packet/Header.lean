import LanguageClient.Number.Decimal
import LanguageClient.Packet.FramingError
import LanguageClient.Text.Split
import LanguageClient.Text.Utf8

set_option autoImplicit false

/-!
Packet headers: the bytes before the first blank line. The first line that begins with the key
declares how many bytes of content follow; all other lines are ignored. Keys are compared with
their case.
-/

namespace LanguageClient

namespace Header

def separator : Bytes := [0x0D, 0x0A, 0x0D, 0x0A]

def lines (text : List Char) : List (List Char) := Split.pair '\r' '\n' text

def contentLengthKey : List Char := "Content-Length".toList

/-- The largest content that is accepted: 100 MiB. -/
def contentLimit : Nat := 100 * 1024 * 1024

/-- A length is a word of the machine before it is compared with the limit. -/
def wordLimit : Nat := 0x10000000000000000

/-- The text of a line after its last colon and space; without one, the whole line. -/
def lineValue (line : List Char) : List Char := (Split.pair ':' ' ' line).getLastD []

def contentLength (header : Bytes) : Except HeaderError Nat :=
  match (lines (Utf8.decodeLossy header)).find? (contentLengthKey.isPrefixOf ·) with
  | none => .error .missingContentLength
  | some line =>
    match Decimal.below? wordLimit (lineValue line) with
    | none => .error (.invalidContentLength (String.ofList (lineValue line)))
    | some length =>
      if contentLimit < length then .error (.contentTooLarge length contentLimit)
      else .ok length

/-- The header that declares a length and nothing else. -/
def ofLength (length : Nat) : Bytes :=
  Utf8.encode (contentLengthKey ++ ':' :: ' ' :: Decimal.digits length)

end Header

end LanguageClient
