import LanguageClient.Number.Decimal
import LanguageClient.Text.AlphanumericTable
import LanguageClient.Text.Hex

set_option autoImplicit false

/-!
The patterns that filters compare the values of fields with: regular expressions. Only whether a
pattern is well-formed is decided here. Classes and cases beyond ASCII are not at hand, so that
what needs them is malformed, unless the pattern asks to do without.
-/

namespace LanguageClient

namespace Log

namespace Pattern

/-- How what follows is read; a group hands its flags to its inside. -/
structure Flags where
  unicode : Bool := true
  foldsCase : Bool := false
deriving DecidableEq

/-- Whether a character, or a set of them, can be told apart from its other case if need be. -/
def Flags.knowsCase (flags : Flags) : Bool := !(flags.unicode && flags.foldsCase)

inductive Item where
  | character (c : Char)
  | characters
  | place
deriving DecidableEq

/-- The characters that stand for themselves behind a backslash, though they mean more alone. -/
def isEscapable (c : Char) : Bool :=
  c.toNat < 0x80 && !c.isAlphanum && c ≠ '<' && c ≠ '>'

/-- So many hexadecimal digits as a character; a byte that is no character is not one. -/
def numbered? (flags : Flags) (count : Nat) (text : List Char) : Option (Item × List Char) := do
  let digits := (text.take count).map Char.toLower
  let value ← if digits.length = count then Hex.number? digits else none
  if ¬ value.isValidChar then none
  else if !flags.unicode ∧ count = 2 ∧ 0x80 ≤ value then none
  else return (.character (Char.ofNat value), text.drop count)

def escape? (flags : Flags) : List Char → Option (Item × List Char)
  | [] => none
  | c :: rest =>
    if ['a', 'f', 't', 'n', 'r', 'v'].contains c || isEscapable c then some (.character c, rest)
    else if c = 'x' then numbered? flags 2 rest
    else if c = 'u' then numbered? flags 4 rest
    else if c = 'U' then numbered? flags 8 rest
    else if c = 'A' || c = 'z' then some (.place, rest)
    else if flags.unicode then none
    else if ['d', 's', 'w'].contains c then some (.characters, rest)
    else if c = 'b' && rest.head? ≠ some '\x7b' || c = '<' || c = '>' then some (.place, rest)
    else none

def classNames : List String :=
  ["alnum", "alpha", "ascii", "blank", "cntrl", "digit", "graph", "lower", "print", "punct",
    "space", "upper", "word", "xdigit"]

def named? (flags : Flags) (text : List Char) : Option (List Char) :=
  match text with
  | ':' :: rest =>
    let negated := rest.head? = some '^'
    let name := if negated then rest.tail else rest
    classNames.findSome? fun title =>
      let ending := title.toList ++ [':', ']']
      if ending.isPrefixOf name && (flags.unicode || !negated) then
        some (name.drop ending.length)
      else none
  | _ => none

/-- A member of a set: a character, or a class behind a backslash. -/
def member? (flags : Flags) : List Char → Option (Item × List Char)
  | [] => none
  | '\\' :: rest =>
    match escape? flags rest with
    | some (.place, _) => none
    | found => found
  | c :: rest => if flags.unicode || c.toNat < 0x80 then some (.character c, rest) else none

/-- A member of a set, or a range from one character to another that is not before it. -/
def range? (flags : Flags) (text : List Char) : Option (List Char) := do
  let (first, rest) ← member? flags text
  match rest with
  | '-' :: ']' :: _ => return rest
  | '-' :: '-' :: _ => return rest
  | '-' :: rest =>
    let (last, rest) ← member? flags rest
    match first, last with
    | .character first, .character last => if first ≤ last then return rest else none
    | _, _ => none
  | _ => return rest

def opening? (flags : Flags) (text : List Char) : Option (List Char) :=
  let negated := text.head? = some '^'
  let inside := if negated then text.tail else text
  let dashes := inside.takeWhile (· = '-')
  let rest := inside.drop dashes.length
  if negated && !flags.unicode then none
  else if dashes = [] ∧ rest.head? = some ']' then some rest.tail
  else some rest

/-- What follows a set; sets may stand inside each other, `depth` of them around. -/
def set? (flags : Flags) : Nat → Nat → List Char → Option (List Char)
  | 0, _, _ => none
  | _ + 1, _, [] => none
  | _ + 1, 0, ']' :: rest => some rest
  | fuel + 1, depth + 1, ']' :: rest => set? flags fuel depth rest
  | fuel + 1, depth, '[' :: rest =>
    match named? flags rest with
    | some rest => set? flags fuel depth rest
    | none => (opening? flags rest).bind (set? flags fuel (depth + 1))
  | fuel + 1, depth, '&' :: '&' :: rest => set? flags fuel depth rest
  | fuel + 1, depth, '-' :: '-' :: rest => set? flags fuel depth rest
  | fuel + 1, depth, '~' :: '~' :: rest => set? flags fuel depth rest
  | fuel + 1, depth, c :: rest => (range? flags (c :: rest)).bind (set? flags fuel depth)

/-- Letters that switch flags, up to a colon or a parenthesis: the flags, whether they are for a
group of their own, and what follows. After a dash flags are switched off. -/
def switches? (flags : Flags) (seen : List Char) (off : Bool) :
    List Char → Option (Flags × Bool × List Char)
  | [] => none
  | c :: rest =>
    if c = ':' || c = ')' then
      if seen.head? = some '-' || (c = ')' && seen = []) then none
      else some (flags, c = ':', rest)
    else if seen.contains c then none
    else
      let seen := c :: seen
      match c with
      | '-' => switches? flags seen true rest
      | 'u' => switches? { flags with unicode := !off } seen off rest
      | 'i' => switches? { flags with foldsCase := !off } seen off rest
      | 'm' | 's' | 'U' | 'x' | 'R' => switches? flags seen off rest
      | _ => none

def name? (text : List Char) : Option (List Char) :=
  let name := text.takeWhile (· ≠ '>')
  let isPart (c : Char) : Bool :=
    c = '_' || c = '.' || c = '[' || c = ']' || Alphanumeric.characters.contains c
  let begins := name.head?.any fun c =>
    c = '_' || (Alphanumeric.characters.contains c && !c.isDigit)
  if begins && name.all isPart && name.length < text.length then
    some (text.drop (name.length + 1))
  else none

/-- What follows the opening parenthesis of a group: the flags inside, whether it is a group and
not only a switch, and its inside. -/
def group? (flags : Flags) : List Char → Option (Flags × Bool × List Char)
  | '?' :: 'P' :: '<' :: rest => (name? rest).map (flags, true, ·)
  | '?' :: '<' :: rest => (name? rest).map (flags, true, ·)
  | '?' :: rest => switches? flags [] false rest
  | rest => some (flags, true, rest)

/-- Whether the rest of a pattern is well-formed, inside groups whose outsides have such flags. A
repetition needs something to repeat. -/
def continues : Nat → Flags → List Flags → Bool → List Char → Bool
  | 0, _, _, _, _ => false
  | _ + 1, _, outer, _, [] => outer = []
  | fuel + 1, flags, outer, repeatable, c :: rest =>
    match c with
    | '(' =>
      match group? flags rest with
      | some (inner, true, rest) => continues fuel inner (flags :: outer) false rest
      | some (next, false, rest) => continues fuel next outer false rest
      | none => false
    | ')' =>
      match outer with
      | flags :: outer => continues fuel flags outer true rest
      | [] => false
    | '|' => continues fuel flags outer false rest
    | '*' | '+' | '?' => repeatable && continues fuel flags outer true rest
    | '\x7b' => false
    | '^' | '$' => continues fuel flags outer true rest
    | '.' => flags.unicode && continues fuel flags outer true rest
    | '[' =>
      match (opening? flags rest).bind (set? flags (rest.length + 1) 0) with
      | some rest => flags.knowsCase && continues fuel flags outer true rest
      | none => false
    | '\\' =>
      match escape? flags rest with
      | some (item, rest) =>
        (item = .place || flags.knowsCase) && continues fuel flags outer true rest
      | none => false
    | _ => flags.knowsCase && continues fuel flags outer true rest

/-- Whether a text is a number with a fraction or an exponent, or names what is none. -/
def isNumeral (text : List Char) : Bool :=
  ["inf", "infinity", "nan"].contains (String.ofList (text.map Char.toLower)) ||
    let whole := text.takeWhile Char.isDigit
    let rest := text.drop whole.length
    let fraction := match rest with
      | '.' :: rest => rest.takeWhile Char.isDigit
      | _ => []
    let rest := match rest with
      | '.' :: rest => rest.drop fraction.length
      | _ => rest
    let exponent := match rest with
      | [] => true
      | mark :: rest =>
        let digits := if rest.head? = some '+' || rest.head? = some '-' then rest.tail else rest
        mark.toLower = 'e' && (Decimal.value? digits).isSome
    (whole ++ fraction ≠ []) && exponent

def isUsable (text : List Char) : Bool :=
  match text with
  | '+' :: rest => isNumeral rest
  | _ => continues (text.length + 1) {} [] false text

end Pattern

end Log

end LanguageClient
