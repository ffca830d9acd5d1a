import Workflow.Json.Basic
import Workflow.Schema.Format

/-!
# Schemas of JSON values

A `Schema` is a list of rules, each of which asks something of a value: a type, a size, a format,
or that its parts follow schemas of their own.  A schema can also refer to another place of the
document that it stands in.
-/

namespace Workflow

/-- The types that a schema can ask for. -/
inductive JsonType where
  | array | boolean | integer | null | number | object | string
deriving DecidableEq, Repr

namespace JsonType

/-- All types, in the order in which messages list them. -/
def all : List JsonType := [array, boolean, integer, null, number, object, string]

/-- The name of a type. -/
def label : JsonType → String
  | array => "array"
  | boolean => "boolean"
  | integer => "integer"
  | null => "null"
  | number => "number"
  | object => "object"
  | string => "string"

/-- The type of a name. -/
def ofLabel? (name : String) : Option JsonType :=
  all.find? (·.label = name)

/-- Whether a number is whole. -/
def isWhole : Number → Bool
  | .int _ => true
  | .real x => x.isFinite && x.floor == x

/-- Whether a value has a type.  A strict reading takes no double for an integer. -/
def has (strict : Bool) : JsonType → Json → Bool
  | array, .list _ => true
  | boolean, .bool _ => true
  | integer, .number (.int _) => true
  | integer, .number n => !strict && isWhole n
  | null, .null => true
  | number, .number _ => true
  | object, .record _ => true
  | string, .text _ => true
  | _, _ => false

end JsonType

/-- How a number is compared with a limit. -/
inductive Bound where
  | least | most | above | below
deriving DecidableEq, Repr

/-- What is counted and compared with a limit. -/
inductive Measure where
  | characters | items | properties
deriving DecidableEq, Repr

mutual

/-- A schema. -/
inductive Schema where
  | always
  | never
  | rules (rules : List Rule)
  /-- The schema at another place, which an address names. -/
  | reference (target : Address)

/-- What one keyword asks for. -/
inductive Rule where
  | types (strict : Bool) (wanted : List JsonType)
  | options (values : List Json)
  | value (expected : Json)
  | bound (kind : Bound) (limit : Number)
  | multiple (of : Float)
  | atLeast (measure : Measure) (limit : Nat)
  | atMost (measure : Measure) (limit : Nat)
  | pattern (text : String) (matcher : Text.Matcher)
  | format (format : TextFormat)
  /-- A text stands for bytes, written with 64 characters. -/
  | encoded
  /-- A text is a JSON document, or stands for the bytes of one. -/
  | document (encoded : Bool)
  | distinct
  /-- All items. -/
  | each (schema : Schema)
  /-- The first items, one by one. -/
  | places (schemas : List Schema)
  /-- The items after the first few. -/
  | beyond (places : Nat) (schema : Schema)
  /-- No items after the first few. -/
  | only (places : Nat)
  /-- One item at least. -/
  | contains (schema : Schema)
  | required (names : List String)
  | properties (known : List (String × Schema))
  /-- Properties with names of a pattern. -/
  | matching (patterns : List (Text.Matcher × Schema))
  /-- No properties at all. -/
  | bare
  /-- No properties but those that are known or have names of a pattern. -/
  | closed (known : List (String × Schema)) (patterns : List (Text.Matcher × Schema))
  /-- All other properties have a schema of their own. -/
  | rest (known : List (String × Schema)) (patterns : List (Text.Matcher × Schema))
      (others : Schema)
  /-- The names of properties. -/
  | names (schema : Schema)
  /-- The names of properties may be nothing at all. -/
  | nameless
  /-- A property that is there asks something of the whole. -/
  | dependents (schemas : List (String × Schema))
  | allOf (schemas : List Schema)
  | anyOf (schemas : List Schema)
  | oneOf (schemas : List Schema)
  | exclude (text : String) (schema : Schema)
  /-- What follows one schema also follows another, what does not a third. -/
  | branch (test whenTrue whenFalse : Schema)

end

namespace Schema

/-- The whole part of a finite double, rounded down, as far as 64 bits reach. -/
def wholePart (x : Float) : Int :=
  let down := x.floor
  if down < 0 then -((-down).toUInt64.toNat : Int) else down.toUInt64.toNat

/-- Compare an integer with a double by their exact values. -/
def compareWhole (n : Int) (x : Float) : Ordering :=
  if x ≥ 18446744073709551616.0 then .lt
  else if x < -18446744073709551615.0 then .gt
  else
    match compare n (wholePart x) with
    | .eq => if x.floor == x then .eq else .lt
    | order => order

/-- Compare two numbers by their exact values. -/
def compareNumbers : Number → Number → Ordering
  | .int a, .int b => compare a b
  | .int a, .real b => compareWhole a b
  | .real a, .int b => (compareWhole b a).swap
  | .real a, .real b => if a < b then .lt else if a == b then .eq else .gt

/-- Whether one number comes before another. -/
def less (a b : Number) : Bool :=
  compareNumbers a b = .lt

mutual

/-- Whether two values are the same as data: numbers compare by value. -/
def same : Json → Json → Bool
  | .null, .null => true
  | .bool a, .bool b => a = b
  | .number a, .number b => compareNumbers a b = .eq
  | .text a, .text b => a = b
  | .list as, .list bs => sameItems as bs
  | .record as, .record bs => sameMembers as bs
  | _, _ => false

/-- Whether two lists are the same as data. -/
def sameItems : List Json → List Json → Bool
  | [], [] => true
  | a :: as, b :: bs => same a b && sameItems as bs
  | _, _ => false

/-- Whether two objects are the same as data. -/
def sameMembers : List (String × Json) → List (String × Json) → Bool
  | [], [] => true
  | (k, a) :: as, (l, b) :: bs => k = l && same a b && sameMembers as bs
  | _, _ => false

end

/-- Whether a list holds the same data twice. -/
def repeats : List Json → Bool
  | [] => false
  | item :: rest => rest.any (same item) || repeats rest

end Schema

end Workflow
