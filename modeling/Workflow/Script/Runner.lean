import Workflow.Error
import Workflow.Script.Evaluator
import Workflow.Script.Parser
import Workflow.Script.Simplification
import Workflow.Width

/-!
# Running scripts

A script is read with the names that it is handed, simplified, carried out, and its value taken as
JSON.  It is interrupted when it is cancelled or its time is up; time is measured in operations.
-/

namespace Workflow

namespace Script

/-- How many operations a script carries out in a millisecond. -/
def pace : Nat := 20000

/-- The interruption of a script that is cancelled from the start, or that may take some time. -/
def interruption (cancelled : Bool) (millis operations : Nat) : Option Interruption :=
  if cancelled then some .cancelled
  else if operations > millis * pace then some .timeout
  else none

/-- More steps than any script can carry out. -/
def plenty : Nat := Width.span 62

/-- More steps than it takes to simplify a script of some length. -/
def enoughFor (length : Nat) : Nat :=
  40 * (length + 4)

/-- The failure that a fault of a script amounts to. -/
def errorOf (millis : Nat) (fault : Fault) : Error :=
  match fault.cause with
  | .interrupted .cancelled => .cancelled
  | .interrupted .timeout => .scriptTimeout millis
  | _ => .script fault.message

/-- The JSON form of the value of a script. -/
def dataOf (cells : Array Holding) (value : Value) : Except Error Json :=
  match value.toJson? with
  | some json => .ok json
  | none =>
    let read := match value with
      | .cell address => (cells.getD address default).value
      | value => value
    .error (.script ("result of type '" ++ read.fullTypeName ++ "' is not data: no such form"))

/-- Run a script with named values. -/
def run (limits : Limits) (cancelled : Bool) (millis : Nat) (script : String)
    (bindings : List (String × Json)) : Except Error Json :=
  let names := bindings.map (·.1)
  match Program.parse? limits names script with
  | none => .error (.script "syntax error: the script is not well formed")
  | some program =>
    let program := program.simplified limits names (enoughFor script.length)
    let setting : Setting :=
      { limits, functions := program.functions, watch := interruption cancelled millis }
    let machine : Machine :=
      { scope := (bindings.map fun (name, value) =>
          Variable.mk name { value := Value.ofJson value }).reverse }
    match (performAll setting program.body plenty).run machine with
    | .ok value after | .error (.give value) after | .error (.leave value) after =>
      dataOf after.cells value
    | .error .next _ => .ok .null
    | .error (.fault fault) _ => .error (errorOf millis fault)

/-- Run a script for its truth. -/
def runCondition (limits : Limits) (cancelled : Bool) (millis : Nat) (script : String)
    (bindings : List (String × Json)) : Except Error Bool :=
  (run limits cancelled millis script bindings).map Json.truthy

end Script

end Workflow
