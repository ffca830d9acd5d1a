import Workflow.Decimal.Reading
import Workflow.Graph.Basic
import Workflow.Error
import Workflow.Json.Printer

/-!
# Binding of inputs

A run's inputs are bound against the variables that the start node declares.  A declared variable
takes the supplied value, else its default, and the value is brought to the declared type; texts
are accepted for numbers and booleans.  A supplied value is used up by the first declaration of its
name.  Without any declaration all supplied inputs pass unchanged.
-/

namespace Workflow.Inputs

/-- The number that a text stands for: an integer of 64 bits, else a finite double. -/
def numberOfText? (s : String) : Option Number :=
  let cs := Text.trim s.toList
  match Decimal.readInt64? cs with
  | some value => some (.int value)
  | none =>
    match Decimal.readDouble? cs with
    | some value => if value.isFinite then some (.real value) else none
    | none => none

/-- The truth value that a text stands for. -/
def boolOfText? (s : String) : Option Bool :=
  let word := Text.lowerAscii (Text.trimmed s)
  if word = "true" then some true
  else if word = "false" then some false
  else none

/-- Why a value cannot be brought to the type of a variable. -/
inductive Mismatch where
  | notNumber (text : String)
  | notBoolean (text : String)
  | otherType (expected : VariableType) (found : Json)
deriving DecidableEq, Repr

/-- The wording of a mismatch. -/
def Mismatch.message : Mismatch → String
  | notNumber text => s!"'{text}' is not a number"
  | notBoolean text => s!"'{text}' is not a boolean"
  | otherType expected found => s!"expected {expected.label}, got {found.typeName}"

/-- Bring a value to a type. -/
def coerce (type : VariableType) (value : Json) : Except Mismatch Json :=
  match type, value with
  | .string, .text s => .ok (.text s)
  | .string, .number n => .ok (.text n.render)
  | .string, .bool b => .ok (.text (if b then "true" else "false"))
  | .number, .number n => .ok (.number n)
  | .number, .text s =>
    match numberOfText? s with
    | some n => .ok (.number n)
    | none => .error (.notNumber s)
  | .boolean, .bool b => .ok (.bool b)
  | .boolean, .text s =>
    match boolOfText? s with
    | some b => .ok (.bool b)
    | none => .error (.notBoolean s)
  | type, value => .error (.otherType type value)

/-- The value chosen for a variable: what was supplied, else the default, and nothing for `null`. -/
def choose (declared : InputVariable) (supplied : Assoc Json) : Option Json :=
  let value := match Assoc.get? supplied declared.name with
    | none | some .null => declared.default?
    | some value => some value
  match value with
  | some .null => none
  | value => value

/-- Bind the variables of a list of declarations, one after the other. -/
def bindAll : List InputVariable → Assoc Json → Assoc Json → Except Error (Assoc Json)
  | [], _, bound => .ok bound
  | declared :: rest, supplied, bound =>
    let left := Assoc.erase supplied declared.name
    match choose declared supplied with
    | none =>
      if declared.required then .error (.invalidInput declared.name "required input is missing")
      else bindAll rest left bound
    | some value =>
      match coerce declared.type value with
      | .error mismatch => .error (.invalidInput declared.name mismatch.message)
      | .ok value => bindAll rest left (Assoc.insert bound declared.name value)

/-- Bind supplied inputs against declared variables. -/
def bind (declared : List InputVariable) (supplied : Assoc Json) : Except Error (Assoc Json) :=
  if declared.isEmpty then .ok supplied else bindAll declared supplied []

end Workflow.Inputs
