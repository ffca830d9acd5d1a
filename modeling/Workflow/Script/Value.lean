import Workflow.Decimal.Notation
import Workflow.Json.Basic
import Workflow.Script.Limits
import Workflow.Text.Quoted
import Workflow.Width

/-!
# Values of scripts

The values that scripts compute with, their text, their sizes, and how they correspond to JSON.
Ranges, functions and variables that a closure shares have no JSON form.
-/

namespace Workflow.Script

/-- A value of a script. -/
inductive Value where
  | unit
  | bool (value : Bool)
  | int (value : Int)
  | float (value : Float)
  | char (value : Char)
  | string (value : String)
  | list (items : List Value)
  | map (entries : List (String × Value))
  /-- The integers from a start to an end, which may be included. -/
  | range (start stop : Int) (closed : Bool)
  /-- A function and its first arguments. -/
  | function (name : String) (bound : List Value)
  /-- A variable that is shared with closures, by its address. -/
  | cell (address : Nat)
deriving Inhabited

namespace Value

/-- Whether an integer has 64 bits at most. -/
def fits (n : Int) : Bool :=
  Width.fitsSigned 64 n

mutual

/-- The value of a JSON value; integers beyond 64 bits with a sign become doubles. -/
def ofJson : Json → Value
  | .null => unit
  | .bool value => bool value
  | .number (.int value) => if fits value then int value else float (Float.ofInt value)
  | .number (.real value) => float value
  | .text value => string value
  | .list items => list (ofItems items)
  | .record members => map (ofEntries members)

/-- The values of JSON values. -/
def ofItems : List Json → List Value
  | [] => []
  | item :: rest => ofJson item :: ofItems rest

/-- The entries of members. -/
def ofEntries : List (String × Json) → List (String × Value)
  | [] => []
  | (name, value) :: rest => (name, ofJson value) :: ofEntries rest

end

mutual

/-- The JSON form of a value, if it has one. -/
def toJson? : Value → Option Json
  | unit => some .null
  | bool value => some (.bool value)
  | int value => some (.int value)
  | float value => some (if value.isFinite then .number (.real value) else .null)
  | char value => some (.text value.toString)
  | string value => some (.text value)
  | list items => (toItems? items).map .list
  | map entries => (toMembers? entries).map .record
  | range .. | function .. | cell _ => none

/-- The JSON forms of values, if all have one. -/
def toItems? : List Value → Option (List Json)
  | [] => some []
  | item :: rest => do return (← toJson? item) :: (← toItems? rest)

/-- The members of entries, if all have a JSON form. -/
def toMembers? : List (String × Value) → Option (List (String × Json))
  | [] => some []
  | (name, value) :: rest => do return (name, ← toJson? value) :: (← toMembers? rest)

end

/-- The name of a value's type. -/
def typeName : Value → String
  | unit => "()"
  | bool _ => "bool"
  | int _ => "i64"
  | float _ => "f64"
  | char _ => "char"
  | string _ => "string"
  | list _ => "array"
  | map _ => "map"
  | range _ _ closed => if closed then "range=" else "range"
  | function .. => "Fn"
  | cell _ => "shared"

/-- The full name of a value's type, which differs from the short one for ranges. -/
def fullTypeName : Value → String
  | range _ _ closed =>
    if closed then "core::ops::range::RangeInclusive<i64>" else "core::ops::range::Range<i64>"
  | other => other.typeName

/-- A double by itself is positional and ends in `.0` if it is whole. -/
def plainFloatStyle : Decimal.Style where
  positional := fun _ _ => true
  pointZero := true
  exponentPlus := false
  tie := .upward
  signedZero := false

/-- A double of unusual size has an exponent. -/
def scientificFloatStyle : Decimal.Style :=
  { plainFloatStyle with positional := fun _ _ => false }

/-- Inside a list or map positional notation reaches from `0.0001` to below `10 ^ 16`. -/
def nestedFloatStyle : Decimal.Style where
  positional := fun _ e => -4 ≤ e && e < 16
  pointZero := true
  exponentPlus := false
  tie := .upward
  signedZero := true

/-- Whether a double by itself is written positionally: between about `10 ^ -13` and `10 ^ 13`.  The
bounds are the single-precision numbers nearest to these powers. -/
def isOfUsualSize (x : Float) : Bool :=
  x == 0 || (14757395.0 / 147573952589676412928.0 ≤ x.abs && x.abs ≤ 9999999827968.0)

/-- The text of a double by a style. -/
def floatText (style : Decimal.Style) (x : Float) : String :=
  if x.isNaN then "NaN"
  else if x.isInf then (if x < 0 then "-inf" else "inf")
  else style.write x

mutual

/-- The text of a value inside a list or map. -/
def nestedText : Value → String
  | unit => "()"
  | bool value => toString value
  | int value => toString value
  | float value => floatText nestedFloatStyle value
  | char value => Text.quotedChar value
  | string value => Text.quoted value
  | list items => "[" ++ ", ".intercalate (itemTexts items) ++ "]"
  | map entries => "#\x7b" ++ ", ".intercalate (entryTexts entries) ++ "\x7d"
  | range start stop closed => toString start ++ (if closed then "..=" else "..") ++ toString stop
  | function name _ => "Fn(" ++ name ++ ")"
  | cell _ => "()"

/-- The texts of items. -/
def itemTexts : List Value → List String
  | [] => []
  | item :: rest => nestedText item :: itemTexts rest

/-- The texts of entries. -/
def entryTexts : List (String × Value) → List String
  | [] => []
  | (name, value) :: rest => (Text.quoted name ++ ": " ++ nestedText value) :: entryTexts rest

end

/-- The text of a value. -/
def toText : Value → String
  | unit => ""
  | float x => floatText (if isOfUsualSize x then plainFloatStyle else scientificFloatStyle) x
  | char value => value.toString
  | string value => value
  | other => nestedText other

mutual

/-- How much a value holds, at all levels, and something else. -/
def sizeWith (total : Size) : Value → Size
  | string value => { total with bytes := total.bytes + value.utf8ByteSize }
  | list items => sizeOfItems total items
  | map entries => sizeOfEntries total entries
  | _ => total

/-- How much items and something else hold. -/
def sizeOfItems (total : Size) : List Value → Size
  | [] => total
  | item :: rest => sizeOfItems (sizeWith { total with items := total.items + 1 } item) rest

/-- How much entries and something else hold. -/
def sizeOfEntries (total : Size) : List (String × Value) → Size
  | [] => total
  | (_, value) :: rest =>
    sizeOfEntries (sizeWith { total with entries := total.entries + 1 } value) rest

end

/-- How much a value holds, at all levels. -/
def size (value : Value) : Size :=
  sizeWith {} value

mutual

/-- Whether a value is the same as another in type and content.  Doubles are the same if their bits
are. -/
def same : Value → Value → Bool
  | unit, unit => true
  | bool a, bool b => a = b
  | int a, int b => a = b
  | float a, float b => a.toBits = b.toBits
  | char a, char b => a = b
  | string a, string b => a = b
  | list as, list bs => sameItems as bs
  | map as, map bs => sameEntries as bs
  | range a b c, range d e f => a = d && b = e && c = f
  | function a as, function b bs => a = b && sameItems as bs
  | _, _ => false

/-- Whether two lists hold the same. -/
def sameItems : List Value → List Value → Bool
  | [], [] => true
  | a :: as, b :: bs => same a b && sameItems as bs
  | _, _ => false

/-- Whether two maps hold the same. -/
def sameEntries : List (String × Value) → List (String × Value) → Bool
  | [], [] => true
  | (k, a) :: as, (l, b) :: bs => k = l && same a b && sameEntries as bs
  | _, _ => false

end

/-- Whether a value is a range. -/
def isRange : Value → Bool
  | range .. => true
  | _ => false

/-- Whether a number lies in a range; a double lies between the ends of the range. -/
def isWithin (start stop : Int) (closed : Bool) : Value → Bool
  | int n => decide (start ≤ n) && (if closed then decide (n ≤ stop) else decide (n < stop))
  | float x =>
    let low := Float.ofInt start
    let high := Float.ofInt stop
    decide (low ≤ x) && (if closed then decide (x ≤ high) else decide (x < high))
  | _ => false

/-- Whether a value is a range in which another value lies. -/
def covers (value other : Value) : Bool :=
  match value with
  | range start stop closed => other.isWithin start stop closed
  | _ => false

end Value

end Workflow.Script
