set_option autoImplicit false

/-!
Sets of characters as inversion lists: the ascending code points at which membership changes,
beginning outside the set.
-/

namespace LanguageClient

abbrev InversionList := List Nat

def InversionList.contains (list : InversionList) (c : Char) : Bool :=
  (list.takeWhile (· ≤ c.toNat)).length % 2 = 1

end LanguageClient
