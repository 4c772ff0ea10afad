import LanguageClient.Log
import LanguageClient.Log.Pattern
import LanguageClient.Text.Blank
import LanguageClient.Text.Split

set_option autoImplicit false

/-!
Filters of log records. A filter is a list of directives, each for the origins whose path begins
with a target. Of the directives that cover a record the most specific one decides: a longer target
is more specific, then a named field; of several equal directives the last one counts.
-/

namespace LanguageClient

namespace Log

/-- How grave a level is; graver levels come first. -/
def Level.rank : Level → Nat
  | .error => 1
  | .warn => 2
  | .info => 3
  | .debug => 4

/-- A field that a record must have, perhaps with a value that a text describes. -/
structure Field where
  name : String
  value : Option String := none
deriving DecidableEq

structure Directive where
  /-- How the paths of origins begin; none for all origins. -/
  target : Option String := none
  span : Option String := none
  field : Option Field := none
  /-- The last rank that passes; rank 0 lets nothing pass. -/
  rank : Nat
deriving DecidableEq

namespace Directive

def recordField : Field := ⟨"message", none⟩

/-- Records are made within no span, and values of fields are looked at only in spans. -/
def covers (directive : Directive) (origin : Origin) : Bool :=
  directive.target.all (fun target => target.toList.isPrefixOf origin.path.toList) &&
    directive.span.isNone && directive.field.all (· = recordField)

def specificity (directive : Directive) : Nat × Nat :=
  (directive.target.elim 0 (·.length + 1), if directive.field.isSome then 1 else 0)

end Directive

namespace Filter

/-- Below the level of debugging there is one more. -/
def ranks : List (String × Nat) :=
  [("off", 0), ("error", 1), ("warn", 2), ("info", 3), ("debug", 4), ("trace", 5)]

def lastRank : Nat := 5

def rank? (text : String) : Option Nat :=
  match Decimal.below? (lastRank + 1) text.toList with
  | some rank => some rank
  | none => ranks.lookup (String.ofList (text.toList.map Char.toLower))

def level? (text : String) : Option Nat := if text.isEmpty then some lastRank else rank? text

def mayBegin (c : Char) : Bool :=
  ['-', ':', '_'].contains c || Alphanumeric.characters.contains c

/-- A field, with a value behind an equals sign or none; what follows a second one is left out. -/
def field? (text : String) : Option Field :=
  match (Split.on '=' text.toList).map String.ofList with
  | [name] => if name.isEmpty then none else some ⟨name, none⟩
  | name :: value :: _ => if Pattern.isUsable value.toList then some ⟨name, some value⟩ else none
  | [] => none

/-- A text that is cut at places which are counted without the blanks before it. -/
structure Cut where
  whole : Bytes
  before : List Char
  after : List Char

namespace Cut

def front (text : String) : Cut := ⟨Utf8.bytes text, [], Blank.trim text.toList⟩

def place (cut : Cut) : Nat := (Utf8.bytes (String.ofList cut.before)).length

def move (cut : Cut) (count : Nat) : Cut :=
  { cut with before := cut.before ++ cut.after.take count, after := cut.after.drop count }

def seek (cut : Cut) (marks : List Char) : Cut :=
  cut.move (cut.after.takeWhile (!marks.contains ·)).length

/-- The part of the text from one place to another; none if a character would be divided. -/
def upTo? (start stop : Cut) : Option String :=
  Utf8.text? ((start.whole.take stop.place).drop start.place)

def rest? (cut : Cut) : Option String := Utf8.text? (cut.whole.drop cut.place)

end Cut

/-- What may follow a target in brackets: a span, a field in braces, or one after the other. -/
def bracket? (start : Cut) : Option (Option String × Option Field × Cut) := do
  let stop := start.seek [']', '\x7b']
  let span ← start.upTo? stop
  match stop.after with
  | ']' :: _ => return (some span, none, stop.move 1)
  | _ :: _ =>
    let start := stop.move 1
    let stop := start.seek ['\x7d']
    let field ← field? (← start.upTo? stop)
    match stop.after with
    | '\x7d' :: ']' :: _ =>
      return (if span.isEmpty then none else some span, some field, stop.move 2)
    | _ => none
  | [] => none

/-- A target, a rank, or a target with its rank; a target by itself lets everything pass. -/
def directive? (text : String) : Option Directive := do
  let start := Cut.front text
  let first ← start.after.head?
  let stop := start.seek ['=', '[']
  if first ≠ '[' ∧ !mayBegin first then none
  else
    match stop.after with
    | [] =>
      match rank? text with
      | some rank => return { rank := rank }
      | none => return { target := some text, rank := lastRank }
    | '=' :: _ =>
      return { target := some (← start.upTo? stop), rank := ← level? (← (stop.move 1).rest?) }
    | _ =>
      let target ← if first = '[' then pure none else (start.upTo? stop).map some
      let (span, field, stop) ← bracket? (stop.move 1)
      let rank ← match stop.after with
        | [] => some lastRank
        | '=' :: _ => (stop.move 1).rest?.bind level?
        | _ => none
      return { target := target, span := span, field := field, rank := rank }

end Filter

structure Filter where
  directives : List Directive
deriving DecidableEq

namespace Filter

def ofText? (text : String) : Option Filter :=
  (((Split.on ',' text.toList).filter (· ≠ [])).mapM fun part =>
    directive? (String.ofList part)).map Filter.mk

def atMost (a b : Nat × Nat) : Bool := a.1 < b.1 || (a.1 = b.1 && a.2 ≤ b.2)

/-- The one of two directives that decides, if both cover a record. -/
def moreSpecific (earlier : Option Directive) (later : Directive) : Option Directive :=
  match earlier with
  | none => some later
  | some held => if atMost held.specificity later.specificity then some later else some held

def decisive? (filter : Filter) (origin : Origin) : Option Directive :=
  (filter.directives.filter (·.covers origin)).foldl moreSpecific none

def passes (filter : Filter) (record : Record) : Bool :=
  (filter.decisive? record.origin).any fun directive => record.level.rank ≤ directive.rank

end Filter

end Log

end LanguageClient
