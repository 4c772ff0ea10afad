import LanguageClient.Text.Lowercase

set_option autoImplicit false

namespace LanguageClient

structure Language where
  id : String
deriving DecidableEq

/-- The identifier of a language by its everyday name: the lowercase name, but for four languages
whose identifier has no punctuation and no blank. -/
def Language.ofName (name : String) : Language :=
  match Lowercase.lower name with
  | "objective-c++" => ⟨"objective-cpp"⟩
  | "c++" => ⟨"cpp"⟩
  | "c#" => ⟨"csharp"⟩
  | "visual basic" => ⟨"vb"⟩
  | lowered => ⟨lowered⟩

end LanguageClient
