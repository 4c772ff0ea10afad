import LanguageClient.CommandLine.Arguments

set_option autoImplicit false

namespace LanguageClient

namespace Help

def programName : String := "lsp-wire"

def versionText : String := programName ++ " 0.1.0\n"

structure Entry where
  form : String
  meaning : String := ""

/-- The meanings begin two columns after the longest form. -/
def table (title : String) (entries : List Entry) : List String :=
  let width := (entries.map (·.form.length)).foldl max 0
  "" :: (title ++ ":") :: entries.map fun entry =>
    "  " ++ entry.form ++ "".pushn ' ' (width - entry.form.length + 2) ++ entry.meaning

def about : Topic → String
  | .program => "Talk to a language server over the LSP base protocol"
  | .capabilities => "Print the server's capabilities"
  | .symbols => "Print the symbol tree of a file"
  | .references => "Print references to the named symbol of a file"
  | .workspaceSymbols => "Search symbols across the workspace"
  | .help => "Print this message or the help of the given subcommand(s)"

def operands : Topic → List Entry
  | .symbols => [⟨"<FILE>", ""⟩]
  | .references => [⟨"<FILE>", ""⟩, ⟨"<SYMBOL>", ""⟩]
  | .workspaceSymbols => [⟨"[QUERY]", "[default: \"\"]"⟩]
  | .help => [⟨"[COMMAND]...", "Print help for the subcommand(s)"⟩]
  | .program | .capabilities => []

def options : List Entry :=
  [⟨"    --server <SERVER>",
      "Language server executable (JavaScript servers run through node)"⟩,
    ⟨"    --server-arg <SERVER_ARGS>", "Argument passed to the server; repeat for several"⟩,
    ⟨"    --root <ROOT>", "Workspace root directory [default: .]"⟩,
    ⟨"    --language <LANGUAGE>",
      "Language of the documents, e.g. \"Rust\" or \"C++\" [default: rust]"⟩,
    ⟨"-v, --verbose", "Log debug output when RUST_LOG is not set"⟩,
    ⟨"-h, --help", "Print help"⟩, ⟨"-V, --version", "Print version"⟩]

def inquiries : List Entry :=
  Topic.all.filterMap fun topic => topic.name?.map fun name => ⟨name, about topic⟩

def lines (topic : Topic) : List String :=
  match topic.name? with
  | none =>
    about topic :: "" :: ("Usage: " ++ programName ++ " [OPTIONS] --server <SERVER> <COMMAND>") ::
      table "Commands" inquiries ++ table "Options" options
  | some name =>
    let usage := [programName, "--server <SERVER>", name] ++ (operands topic).map Entry.form
    about topic :: "" :: ("Usage: " ++ " ".intercalate usage) ::
      (if (operands topic).isEmpty then [] else table "Arguments" (operands topic)) ++
      (if topic = .help then [] else table "Options" [⟨"-h, --help", "Print help"⟩])

def text (topic : Topic) : String := "\n".intercalate (lines topic) ++ "\n"

end Help

end LanguageClient
