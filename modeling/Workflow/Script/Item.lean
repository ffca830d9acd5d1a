import Workflow.Script.Fault
import Workflow.Script.Operation

/-!
# Items of values

What an index in brackets stands for: an item of a list, an entry of a map, a character of a text or
a bit of an integer.  Negative indexes count from the end.  `Item.get` and `Item.set` look up and
replace what an index stands for.
-/

namespace Workflow.Script

namespace Item

/-- The place in a collection of some size that an index means. -/
def place? (size : Nat) (index : Int) : Option Nat :=
  if index ≥ 0 then (if index.toNat < size then some index.toNat else none)
  else if index.natAbs ≤ size then some (size - index.natAbs)
  else none

/-- The integer that an index has to be. -/
def integer (index : Value) : Except Cause Int :=
  match index with
  | .int i => .ok i
  | other => .error (.mismatch "i64" other.typeName)

/-- The key that an index has to be. -/
def key (index : Value) : Except Cause String :=
  match index with
  | .string key => .ok key
  | other => .error (.mismatch "string" other.typeName)

/-- Whether a value has items at all. -/
def hasItems : Value → Bool
  | .list _ | .map _ | .int _ | .string _ => true
  | _ => false

/-- A bound of a part of a text: a place in it, or any place after it. -/
def bound (size : Nat) (index : Int) : Except Cause Nat :=
  if index ≥ 0 then .ok index.toNat
  else match place? size index with
    | some i => .ok i
    | none => .error (.outsideText size index)

/-- What an index into a value stands for.  A map has the unit under a key without entry. -/
def get (value index : Value) : Except Cause Value := do
  match value, index with
  | .list items, index =>
    let i ← integer index
    match (place? items.length i).bind (items[·]?) with
    | some item => return item
    | none => .error (.outsideList items.length i)
  | .map entries, index => return (Assoc.get? entries (← key index)).getD .unit
  | .int n, index =>
    let i ← integer index
    match place? 64 i with
    | some place => return .bool (Operation.bit n place)
    | none => .error (.outsideBits i)
  | .string text, .range start stop closed =>
    let first ← bound text.length start
    let last ← bound text.length stop
    return .string (String.ofList
      ((text.toList.drop first).take ((if closed then last + 1 else last) - first)))
  | .string text, index =>
    let i ← integer index
    match (place? text.length i).bind (text.toList[·]?) with
    | some c => return .char c
    | none => .error (.outsideText text.length i)
  | value, index => .error (.unknownItem (value.typeName ++ " [" ++ index.typeName ++ "]"))

/-- An integer with another bit. -/
def withBit (n : Int) (place : Nat) (bit : Bool) : Int :=
  let mask := Operation.shift 1 place
  if bit then Operation.bitwise (· ||| ·) n mask
  else Operation.bitwise (fun a b => a &&& ~~~b) n mask

/-- A value with another item in the place of an index that stands for one.  In a text a negative
index means the place as far from the start as the index is from zero. -/
def set (value index new : Value) : Except Cause Value := do
  match value, index with
  | .list items, .int i =>
    match place? items.length i with
    | some place => return .list (items.set place new)
    | none => .error (.outsideList items.length i)
  | .map entries, .string key => return .map (Assoc.insert entries key new)
  | .int n, .int i =>
    match place? 64 i, new with
    | some place, .bool bit => return .int (withBit n place bit)
    | some _, other => .error (.mismatch "bool" other.typeName)
    | none, _ => .error (.outsideBits i)
  | .string text, .int i =>
    match new with
    | .char c => return .string (String.ofList (text.toList.set i.natAbs c))
    | other => .error (.mismatch "char" other.typeName)
  | value, index =>
    .error (.unknownItem
      (value.typeName ++ " [" ++ index.typeName ++ "] = " ++ new.typeName))

end Item

end Workflow.Script
