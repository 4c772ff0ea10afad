import LanguageClient.Text.Utf8

set_option autoImplicit false

namespace LanguageClient

namespace Hex

/-- The value of a digit; capitals are not read. -/
def value? (c : Char) : Option Nat :=
  if c.isDigit then some (c.toNat - 48)
  else if 'a' ≤ c ∧ c ≤ 'f' then some (c.toNat - 87)
  else none

def digits (count : Nat) (value : Nat) : List Char :=
  (List.range count).reverse.map fun place => Nat.digitChar (value / Nat.pow 16 place % 16)

def number? (text : List Char) : Option Nat :=
  (text.mapM value?).map fun values => values.foldl (fun total value => 16 * total + value) 0

def ofBytes (bytes : Bytes) : List Char := bytes.flatMap fun byte => digits 2 byte.toNat

def bytes? : List Char → Option Bytes
  | [] => some []
  | [_] => none
  | high :: low :: rest => do
    return UInt8.ofNat (16 * (← value? high) + (← value? low)) :: (← bytes? rest)

end Hex

end LanguageClient
