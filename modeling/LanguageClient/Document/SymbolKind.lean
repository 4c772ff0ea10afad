set_option autoImplicit false

namespace LanguageClient

namespace SymbolKind

def names : List String :=
  ["File", "Module", "Namespace", "Package", "Class", "Method", "Property", "Field",
    "Constructor", "Enum", "Interface", "Function", "Variable", "Constant", "String", "Number",
    "Boolean", "Array", "Object", "Key", "Null", "EnumMember", "Struct", "Event", "Operator",
    "TypeParameter"]

def name? (code : Int32) : Option String :=
  if 0 < code then names[code.toInt.toNat - 1]? else none

def describe (code : Int32) : String := (name? code).getD "Unknown kind of symbol"

end SymbolKind

end LanguageClient
