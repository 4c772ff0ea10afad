import LanguageClient.Text.CaseTable

set_option autoImplicit false

namespace LanguageClient

namespace Lowercase

def Run.lower? (run : Run) (c : Char) : Option Char :=
  if run.first ≤ c.toNat ∧ c.toNat ≤ run.last ∧ (c.toNat - run.first) % run.step = 0 then
    some (Char.ofNat (c.toNat + run.offset).toNat)
  else none

/-- The lowercase of a character by itself; one capital has two characters for it. -/
def lowerChar (c : Char) : List Char :=
  if c.toNat < 0x80 then [c.toLower]
  else if c = '\u0130' then ['i', '\u0307']
  else [(runs.findSome? fun run => run.lower? c).getD c]

/-- Whether a letter with case comes next, looking through ignorable characters. -/
def casedNext (text : List Char) : Bool :=
  match text.dropWhile ignorable.contains with
  | c :: _ => cased.contains c
  | [] => false

def lowerFrom (before : List Char) : List Char → List Char
  | [] => []
  | c :: rest =>
    let lowered :=
      if c = 'Σ' then (if casedNext before && !casedNext rest then ['ς'] else ['σ'])
      else lowerChar c
    lowered ++ lowerFrom (c :: before) rest

def lower (text : String) : String := String.ofList (lowerFrom [] text.toList)

end Lowercase

end LanguageClient
