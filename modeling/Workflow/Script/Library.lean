import Workflow.Decimal.Reading
import Workflow.Script.Operation
import Workflow.Text.Blank
import Workflow.Text.Encoding
import Workflow.Text.UpperCase

/-!
# Functions that every script has

`Library.call` carries a function out.  Some functions work on their first argument where it is
kept; of those some change it, which a constant does not allow.
-/

namespace Workflow.Script

namespace Library

/-- What a function does with its first argument. -/
inductive Manner where
  /-- Takes its value. -/
  | takes
  /-- Looks at it where it is kept. -/
  | inspects
  /-- Changes it where it is kept. -/
  | changes
deriving DecidableEq, Repr

/-- The result of a function, and what has become of its first argument if it changed. -/
structure Answer where
  manner : Manner
  result : Value
  changed : Option Value := none

/-- The result of a function that takes its arguments. -/
def taking (result : Value) : Except Cause Answer :=
  .ok { manner := .takes, result }

/-- The result of a function that looks at its first argument. -/
def inspecting (result : Value) : Except Cause Answer :=
  .ok { manner := .inspects, result }

/-- The result of a function whose first argument is now another value. -/
def changing (new : Value) : Except Cause Answer :=
  .ok { manner := .changes, result := .unit, changed := some new }

/-- The pieces of a text between white space. -/
def words (text : String) : List Value :=
  (text.toList.splitBy fun a b => Text.isBlank a = Text.isBlank b).filterMap fun piece =>
    if piece.all Text.isBlank then none else some (.string (String.ofList piece))

/-- The pieces of a text between occurrences of another.  An empty one occurs around every
character. -/
def split (text separator : String) : List String :=
  if separator.isEmpty then "" :: text.toList.map Char.toString ++ [""]
  else text.splitOn separator

/-- The pieces of a text between occurrences of another, but no more than a number; the last one
takes the rest. -/
def splitAtMost (count : Int) (text separator : String) : List String :=
  let pieces := split text separator
  let first := (count - 1).toNat
  if pieces.length ≤ first then pieces
  else
    let rest := pieces.drop first
    -- Around characters the separator is empty, so that joining the rest gives it back.
    pieces.take first ++ [separator.intercalate rest]

/-- A text cut in two at an index.  One that is not positive counts from the end. -/
def cut (text : String) (index : Int) : List Value :=
  let cs := text.toList
  let here := if index > 0 then index.toNat else cs.length - index.natAbs
  [.string (String.ofList (cs.take here)), .string (String.ofList (cs.drop here))]

/-- The value of a digit or letter in a base up to 36. -/
def digitValue? (base : Nat) (c : Char) : Option Nat :=
  let value :=
    if c.isDigit then some (c.toNat - '0'.toNat)
    else if 'a' ≤ c && c ≤ 'z' then some (c.toNat - 'a'.toNat + 10)
    else if 'A' ≤ c && c ≤ 'Z' then some (c.toNat - 'A'.toNat + 10)
    else none
  value.filter (· < base)

/-- Read an integer of 64 bits in a base. -/
def readInt (base : Nat) (cs : List Char) : Except String Int :=
  let (negative, ds) := Decimal.splitSign cs
  if cs.isEmpty then .error "cannot parse integer from empty string"
  else if ds.isEmpty then .error "invalid digit found in string"
  else
    match ds.mapM (digitValue? base) with
    | none => .error "invalid digit found in string"
    | some values =>
      let size := values.foldl (fun n d => n * base + d) 0
      let value : Int := if negative then -size else size
      if Value.fits value then .ok value
      else if negative then .error "number too small to fit in target type"
      else .error "number too large to fit in target type"

/-- The integer that a text tells in a base. -/
def parseInt (text : String) (base : Int) : Except Cause Answer :=
  if base < 2 || base > 36 then .error (.arithmetic s!"Invalid radix: '{base}'")
  else
    match readInt base.toNat (Text.trim text.toList) with
    | .ok value => taking (.int value)
    | .error reason =>
      .error (.arithmetic ("Error parsing integer number '" ++ text ++ "': " ++ reason))

/-- Whether one of the items is equal to a value. -/
def anyEqual (value : Value) : List Value → Except Cause Bool
  | [] => .ok false
  | item :: rest => do
    if ← Operation.equal item value then return true else anyEqual value rest

/-- Carry a function out. -/
def call (name : String) (arguments : List Value) : Except Cause Answer :=
  match name, arguments with
  | "len", [.string text] => taking (.int text.length)
  | "len", [.list items] => inspecting (.int items.length)
  | "len", [.map entries] => inspecting (.int entries.length)
  | "push", [.list items, item] => changing (.list (items ++ [item]))
  | "to_upper", [.string text] => taking (.string (Text.upperCased text))
  | "to_upper", [.char c] =>
    taking (.char (match Text.upperForm c with
      | [upper] => upper
      | _ => c))
  | "trim", [.string text] => changing (.string (Text.trimmed text))
  | "contains", [.list items, item] => do inspecting (.bool (← anyEqual item items))
  | "contains", [.map entries, .string key] => inspecting (.bool (Assoc.has entries key))
  | "contains", [.string text, .string piece] => taking (.bool (Text.contains piece text))
  | "contains", [.string text, .char piece] => taking (.bool (text.toList.contains piece))
  | "contains", [.range start stop closed, .int n] =>
    inspecting (.bool (Value.isWithin start stop closed (.int n)))
  | "split", [.string text] => taking (.list (words text))
  | "split", [.string text, .int index] => taking (.list (cut text index))
  | "split", [.string text, .string separator] =>
    taking (.list ((split text separator).map .string))
  | "split", [.string text, .char separator] =>
    taking (.list ((split text separator.toString).map .string))
  | "split", [.string text, .string separator, .int count] =>
    taking (.list ((splitAtMost count text separator).map .string))
  | "split", [.string text, .char separator, .int count] =>
    taking (.list ((splitAtMost count text separator.toString).map .string))
  | "keys", [.map entries] => inspecting (.list ((Assoc.keys entries).map .string))
  | "to_string", [value] =>
    match value with
    | .list _ | .map _ | .range .. | .function .. => inspecting (.string value.toText)
    | _ => taking (.string value.toText)
  | "parse_int", [.string text] => parseInt text 10
  | "parse_int", [.string text, .int base] => parseInt text base
  | "print", [] | "debug", [] => taking (.string "")
  | "print", [value] =>
    match value with
    | .list _ | .map _ | .range .. | .function .. => inspecting (.string value.toText)
    | _ => taking (.string value.toText)
  | "debug", [value] =>
    match value with
    | .list _ | .map _ | .range .. | .function .. => inspecting (.string value.nestedText)
    | _ => taking (.string value.nestedText)
  | _, _ => .error (.unknownFunction (Operation.signature name arguments))

/-- The functions whose text is shown to nobody. -/
def isSilent (name : String) : Bool :=
  name = "print" || name = "debug"

/-- A property of a value that has some without being a map. -/
def property? (name : String) (value : Value) : Option Answer :=
  if name = "len" then
    match value with
    | .string text => some { manner := .takes, result := .int text.length }
    | .list items => some { manner := .inspects, result := .int items.length }
    | _ => none
  else none

end Library

end Workflow.Script
