import LanguageClient.Document.Language
import LanguageClient.Document.Symbol
import LanguageClient.Message.Basic

set_option autoImplicit false

namespace LanguageClient

def clientName : String := "lsp-wire"

def clientVersion : String := "0.1.0"

/-- What the client can do: it reads symbols as trees. -/
def clientCapabilities : Json :=
  .object [("textDocument", .object [("documentSymbol",
    .object [("hierarchicalDocumentSymbolSupport", .bool true)])])]

namespace Request

def handshakeWith (id : Id) (rootUri : String) (process : UInt32) (capabilities : Json) :
    Request where
  id := id
  method := "initialize"
  params := some (.object [("capabilities", capabilities),
    ("clientInfo", .object [("name", .string clientName), ("version", .string clientVersion)]),
    ("processId", .ofUInt32 process), ("rootUri", .string rootUri)])

def handshake (id : Id) (rootUri : String) (process : UInt32) : Request :=
  handshakeWith id rootUri process clientCapabilities

def shutdown (id : Id) : Request := ⟨id, "shutdown", none⟩

def workspaceSymbols (id : Id) (query : String) : Request :=
  ⟨id, "workspace/symbol", some (.object [("query", .string query)])⟩

def documentSymbols (id : Id) (uri : String) : Request :=
  ⟨id, "textDocument/documentSymbol",
    some (.object [("textDocument", .object [("uri", .string uri)])])⟩

/-- Asks for the places that refer to a symbol, without its declaration. The symbol is known by
where its name begins. -/
def references (id : Id) (symbol : Symbol) (uri : String) : Request where
  id := id
  method := "textDocument/references"
  params := some (.object [("context", .object [("includeDeclaration", .bool false)]),
    ("position", .object [("character", .ofUInt32 symbol.selection.first.character),
      ("line", .ofUInt32 symbol.selection.first.line)]),
    ("textDocument", .object [("uri", .string uri)])])

end Request

namespace Notification

def initialized : Notification := ⟨"initialized", some (.object [])⟩

def exit : Notification := ⟨"exit", none⟩

def didOpen (uri : String) (language : Language) (text : String) : Notification :=
  ⟨"textDocument/didOpen", some (.object [("textDocument", .object [
    ("languageId", .string language.id), ("text", .string text), ("uri", .string uri),
    ("version", .ofUInt32 1)])])⟩

def didChange (uri : String) (version : Int32) (text : String) : Notification :=
  ⟨"textDocument/didChange", some (.object [
    ("contentChanges", .array [.object [("text", .string text)]]),
    ("textDocument", .object [("uri", .string uri), ("version", .ofInt32 version)])])⟩

def didClose (uri : String) : Notification :=
  ⟨"textDocument/didClose", some (.object [("textDocument", .object [("uri", .string uri)])])⟩

end Notification

end LanguageClient
