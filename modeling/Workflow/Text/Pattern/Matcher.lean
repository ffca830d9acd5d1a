import Workflow.Text.Pattern.Machine
import Workflow.Text.Pattern.Reading

/-!
# Matching texts with patterns

`Matcher.ofText?` reads a pattern and makes what searches texts for it: an automaton if the pattern
is not tangled, a machine otherwise.
-/

namespace Workflow.Text

/-- What searches texts for a pattern. -/
inductive Matcher where
  | plain (automaton : Pattern.Automaton)
  | tangled (machine : Pattern.Machine)

namespace Matcher

/-- The matcher of a pattern, given the groups that the pattern refers to. -/
def ofPattern? (pattern : Pattern) (wanted : List Nat) (groups : Nat) : Option Matcher :=
  if pattern.isTangled wanted then
    let machine := pattern.machine wanted groups
    if machine.sound then some (tangled machine) else none
  else pattern.automaton?.map plain

/-- The matcher of a pattern that is written as text. -/
def ofText? (text : String) : Option Matcher := do
  let (pattern, wanted, groups) ← Pattern.parse? text
  ofPattern? pattern wanted groups

/-- What comes of a search for a pattern in a text. -/
def search (matcher : Matcher) (text : String) : Pattern.Outcome :=
  let cs := text.toList.toArray
  match matcher with
  | plain automaton =>
    if (automaton.firstEnd? cs (List.range (cs.size + 1))).isSome then .found else .absent
  | tangled machine => machine.search cs

/-- Whether a text has a match of a pattern. -/
def occursIn (matcher : Matcher) (text : String) : Bool :=
  matcher.search text = .found

end Matcher

/-!
## Patterns with ASCII classes

In one dialect of patterns `\d`, `\w` and `\s` stand for ASCII characters and a few more spaces, and
`\c` with a letter for a control character.  A pattern of that dialect is brought to the usual one
piece by piece, without regard to what stands around a piece.
-/

namespace Pattern

/-- The control character of a letter. -/
def controlOf (letter : Char) : Char :=
  Char.ofNat (letter.toUpper.toNat - 64)

/-- A pattern with control characters in place of their letters. -/
def withControls : List Char → List Char
  | '\\' :: 'c' :: letter :: rest =>
    if letter.isAlpha then controlOf letter :: withControls rest
    else '\\' :: withControls ('c' :: letter :: rest)
  | c :: rest => c :: withControls rest
  | [] => []

/-- The white space of the dialect. -/
def asciiSpaces : String := " \t\n\x0d\x0b\x0c\u2003\ufeff\u2029\u00a0"

/-- A class of the dialect in brackets, by its letter. -/
def classText? (letter : Char) : Option String :=
  let negation := if letter.isUpper then "^" else ""
  let bracketed := fun (members : String) => some ("[" ++ negation ++ members ++ "]")
  match letter.toLower with
  | 'd' => bracketed "0-9"
  | 'w' => bracketed "A-Za-z0-9_"
  | 's' => bracketed asciiSpaces
  | _ => none

/-- A pattern with its classes in brackets. -/
def withClasses : List Char → List Char
  | '\\' :: c :: rest =>
    match classText? c with
    | some text => text.toList ++ withClasses rest
    | none => '\\' :: c :: withClasses rest
  | c :: rest => c :: withClasses rest
  | [] => []

end Pattern

/-- The matcher of a pattern with ASCII classes. -/
def Matcher.ofAsciiText? (text : String) : Option Matcher :=
  ofText? (String.ofList (Pattern.withClasses (Pattern.withControls text.toList)))

end Workflow.Text
