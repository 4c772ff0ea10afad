import LanguageClient.Path.Basic

set_option autoImplicit false

namespace LanguageClient

namespace Uri

def scheme : List Char := "file://".toList

def reserved : List Char := [' ', '"', '#', '%', '<', '>', '?', '\x60', '\x7b', '\x7d', '\\', '/']

def isLiteral (byte : UInt8) : Bool :=
  0x20 < byte && byte < 0x7F && !reserved.contains (Char.ofNat byte.toNat)

def hexDigit (value : Nat) : Char := (Nat.digitChar value).toUpper

def percent (byte : UInt8) : List Char :=
  ['%', hexDigit (byte.toNat / 16), hexDigit (byte.toNat % 16)]

def encodeByte (byte : UInt8) : List Char :=
  if isLiteral byte then [Char.ofNat byte.toNat] else percent byte

def encodeName (name : Bytes) : List Char := name.flatMap encodeByte

def absolute (current : Option Path) (path : Path) : Path :=
  match current with
  | some folder => Path.join folder path
  | none => path

def replace (c : Char) (code : String) (text : List Char) : List Char :=
  text.flatMap fun other => if other = c then code.toList else [other]

/-- Encodes the percent sign and what would end or split a path. The percent sign comes first, so
that those of the codes stay. -/
def escape (text : List Char) : List Char :=
  text |> replace '%' "%25" |> replace ' ' "%20" |> replace '#' "%23" |> replace '?' "%3F"

def escapeText (path : Path) : List Char := escape (Utf8.decodeLossy path)

def pathChars (path : Path) : List Char :=
  match Path.names path with
  | [] => ['/']
  | names => names.flatMap fun name => '/' :: encodeName name

def folderChars (path : Path) : List Char :=
  '/' :: (Path.names path).flatMap fun name => encodeName name ++ ['/']

def endWithSlash (text : List Char) : List Char :=
  if text.getLast? = some '/' then text else text ++ ['/']

def ofPath (current : Option Path) (path : Path) : String :=
  let path := absolute current path
  String.ofList (scheme ++ if Path.isAbsolute path then pathChars path else escapeText path)

def ofFolder (current : Option Path) (path : Path) : String :=
  let path := absolute current path
  String.ofList <|
    if Path.isAbsolute path then scheme ++ folderChars path
    else endWithSlash (scheme ++ escapeText path)

end Uri

end LanguageClient
