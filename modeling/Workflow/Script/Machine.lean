import Workflow.Script.Fault
import Workflow.Script.Operation

/-!
# The state of scripts at work

What a script has come to: its variables, what they share with closures, and how many operations it
has carried out.  After each operation the limit applies, and whoever started the script may
interrupt it.  Breaking out of a loop, returning and failing leave the terms around them, up to the
loop, call or handler that they are meant for; the state is kept.
-/

namespace Workflow.Script

/-- What leaves the terms around it. -/
inductive Exit where
  | fault (fault : Fault)
  /-- The end of a loop, with its value. -/
  | leave (value : Value)
  /-- The next round of a loop. -/
  | next
  /-- The end of a function, with its result. -/
  | give (value : Value)
deriving Inhabited

/-- What a script runs in. -/
structure Setting where
  limits : Limits
  functions : List Function
  /-- Whether the script is interrupted after so many operations. -/
  watch : Nat → Option Interruption
  /-- How many calls are open. -/
  calls : Nat := 0

/-- A function by its name and the number of its arguments. -/
def Setting.function? (setting : Setting) (name : String) (arguments : Nat) : Option Function :=
  setting.functions.find? fun f => f.name = name && f.parameters.length = arguments

/-- A value that is kept somewhere. -/
structure Holding where
  value : Value
  constant : Bool := false
deriving Inhabited

/-- A variable in scope. -/
structure Variable where
  name : String
  holding : Holding

/-- What a script has come to. -/
structure Machine where
  /-- The variables in scope, the innermost first. -/
  scope : List Variable := []
  /-- The variables that are shared with closures. -/
  cells : Array Holding := #[]
  /-- What the function at work was called on. -/
  this : Option Holding := none
  operations : Nat := 0

/-- A step of a script. -/
abbrev Step := EStateM Exit Machine

/-- What a step comes to that does not leave the terms around it. -/
abbrev Outcome := Except Exit Value

namespace Step

/-- Fail somewhere. -/
def fail {α : Type} (cause : Cause) (p : Position) : Step α :=
  throw (.fault { cause, position := p })

/-- Take a result, or fail with its cause. -/
def of {α : Type} (p : Position) : Except Cause α → Step α
  | .ok value => pure value
  | .error cause => fail cause p

/-- Take an outcome as one's own. -/
def take {α : Type} : Except Exit α → Step α
  | .ok value => pure value
  | .error exit => throw exit

/-- What a step comes to; leaving it is an outcome too. -/
def outcome {α : Type} (step : Step α) : Step (Except Exit α) := fun s =>
  match step s with
  | .ok value s => .ok (.ok value) s
  | .error exit s => .ok (.error exit) s

/-- Tell the position of a failure that has none. -/
def placed {α : Type} (p : Position) (step : Step α) : Step α := do
  match ← outcome step with
  | .ok value => return value
  | .error (.fault fault) => throw (.fault (fault.at_ p))
  | .error exit => throw exit

/-- Count an operation. -/
def tick (setting : Setting) : Step Unit := do
  modify fun s => { s with operations := s.operations + 1 }
  let n := (← get).operations
  if Limits.beyond setting.limits.operations n then fail .tooManyOperations .nowhere
  match setting.watch n with
  | some cause => fail (.interrupted cause) .nowhere
  | none => pure ()

/-- Count several operations. -/
def ticks (setting : Setting) : Nat → Step Unit
  | 0 => pure ()
  | n + 1 => do
    tick setting
    ticks setting n

/-- Check that what a value holds is not too much. -/
def within (setting : Setting) (size : Size) (p : Position) : Step Unit := do
  match setting.limits.excess? size with
  | some what => fail (.tooLarge what) p
  | none => pure ()

/-- Check that a value is not too large. -/
def sized (setting : Setting) (p : Position) (value : Value) : Step Unit := do
  match value with
  | .string _ | .list _ | .map _ => within setting value.size p
  | _ => pure ()

/-- The value of a shared variable, or any other value itself. -/
def read (value : Value) : Step Value := do
  match value with
  | .cell address => return ((← get).cells.getD address default).value
  | other => return other

/-- The innermost variable of a name. -/
def lookup (name : String) : Step (Option Holding) := do
  return ((← get).scope.find? (·.name = name)).map (·.holding)

/-- What a name stands for.  One that is not defined around it means a function first. -/
def find (setting : Setting) (name : String) (defined : Bool) (p : Position) : Step Holding := do
  if !defined && setting.functions.any (·.name = name) then
    return { value := .function name [] }
  else
    match ← lookup name with
    | some found => return found
    | none => fail (.unknownVariable name) p

/-- Bring a variable into scope. -/
def bring (name : String) (holding : Holding) : Step Unit :=
  modify fun s => { s with scope := ⟨name, holding⟩ :: s.scope }

/-- The variables with another value for the innermost one of a name. -/
def replace (name : String) (value : Value) : List Variable → List Variable
  | [] => []
  | found :: rest =>
    if found.name = name then { found with holding.value := value } :: rest
    else found :: replace name value rest

/-- Keep a value in a variable that is shared. -/
def keep (address : Nat) (value : Value) : Step Unit :=
  modify fun s =>
    { s with cells := s.cells.modify address fun old => { old with value } }

/-- Keep a value in the innermost variable of a name. -/
def assign (name : String) (value : Value) : Step Unit := do
  match ← lookup name with
  | some ⟨.cell address, _⟩ => keep address value
  | _ => modify fun s => { s with scope := replace name value s.scope }

/-- Keep a value in what the function at work was called on. -/
def assignThis (value : Value) : Step Unit :=
  modify fun s => { s with this := s.this.map fun old => { old with value } }

/-- Share a variable: from now on it is known by an address. -/
def share (name : String) (p : Position) : Step Unit := do
  match ← lookup name with
  | none => fail (.unknownVariable name) p
  | some ⟨.cell _, _⟩ => pure ()
  | some holding =>
    modify fun s =>
      { s with
        cells := s.cells.push holding
        scope := replace name (.cell s.cells.size) s.scope }

/-- Do something and drop the variables that it brought into scope, also when it is left. -/
def forgetting {α : Type} (step : Step α) : Step α := do
  let size := (← get).scope.length
  let result ← outcome step
  modify fun s => { s with scope := s.scope.drop (s.scope.length - size) }
  take result

/-- The truth value of a value. -/
def truth (p : Position) (value : Value) : Step Bool := do
  match value with
  | .bool b => return b
  | other => fail (.mismatch "bool" other.typeName) p

/-- The value that an assignment leaves, given the value before. -/
def updated (setting : Setting) (op : Option Operator) (old value : Value) (p : Position) :
    Step Value := do
  match op with
  | none => return value
  | some op =>
    match Operation.update? setting.limits op old value with
    | some result => of p result
    | none =>
      let (result, count) := Operation.assigned setting.limits op old value
      ticks setting count
      let new ← of p result
      sized setting p new
      return new

end Step

end Workflow.Script
