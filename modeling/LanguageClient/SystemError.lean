set_option autoImplicit false

namespace LanguageClient

inductive SystemError where
  | missing
  | argumentTooLong
  | forbidden
  | notFolder
  | isFolder
  | nameTooLong
deriving DecidableEq

def SystemError.message : SystemError → String
  | .missing => "No such file or directory (os error 2)"
  | .argumentTooLong => "Argument list too long (os error 7)"
  | .forbidden => "Permission denied (os error 13)"
  | .notFolder => "Not a directory (os error 20)"
  | .isFolder => "Is a directory (os error 21)"
  | .nameTooLong => "File name too long (os error 36)"

end LanguageClient
