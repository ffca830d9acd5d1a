import Workflow.Script.Position
import Workflow.Script.Value

/-!
# Faults of scripts

What goes wrong while a script is carried out, where, and in which calls.  A script can handle most
faults; it sees a value that it has thrown as that value, and any other fault as a map that tells
its kind, its message and its position.  Limits and interruptions it cannot handle.
-/

namespace Workflow.Script

/-- Why a script is interrupted from outside. -/
inductive Interruption where
  | cancelled
  | timeout
deriving DecidableEq, Repr

/-- What has gone wrong. -/
inductive Cause where
  /-- A value that the script throws. -/
  | thrown (value : Value)
  /-- No function has the name and takes the types of the arguments. -/
  | unknownFunction (signature : String)
  | unknownVariable (name : String)
  /-- Nothing has been called for `this` to stand for. -/
  | unboundThis
  /-- A value of one type where another is needed. -/
  | mismatch (expected actual : String)
  | outsideList (length : Nat) (index : Int)
  | outsideText (length : Nat) (index : Int)
  | outsideBits (index : Int)
  /-- Nothing can be looked up by such an index. -/
  | unknownItem (signature : String)
  /-- A property that a value does not have, or that cannot be assigned to. -/
  | unknownProperty (text : String)
  /-- Only lists and ranges can be gone through. -/
  | notIterable
  /-- A function that changes its first argument, called on a constant. -/
  | changesConstant (function : String)
  | assignsConstant (name : String)
  /-- A number that does not come out. -/
  | arithmetic (text : String)
  | tooManyOperations
  | tooManyCalls
  /-- A value that is too large. -/
  | tooLarge (text : String)
  | interrupted (cause : Interruption)
deriving Inhabited

namespace Cause

/-- Whether a script can handle a cause. -/
def canBeHandled : Cause → Bool
  | tooManyOperations | tooManyCalls | tooLarge _ | interrupted _ => false
  | _ => true

/-- What a message says about a place outside a collection. -/
def outside (collection one many empty : String) (length : Nat) (index : Int) : String :=
  s!"{collection} index {index} out of bounds: " ++
    (if length = 0 then empty
     else if length = 1 then "only 1 " ++ one
     else s!"only {length} " ++ many)

/-- The text of a cause. -/
def text : Cause → String
  | thrown value =>
    match value.toText with
    | "" => "Runtime error"
    | text => "Runtime error: " ++ text
  | unknownFunction signature => "Function not found: " ++ signature
  | unknownVariable name => "Variable not found: " ++ name
  | unboundThis => "'this' not bound"
  | mismatch expected actual =>
    s!"Data type incorrect: {actual} (expecting {expected})"
  | outsideList length index =>
    outside "Array" "element in array" "elements in array" "array is empty" length index
  | outsideText length index =>
    outside "String" "character in string" "characters in string" "string is empty" length index
  | outsideBits index =>
    s!"Bit-field index {index} out of bounds: only 64 bits in bit-field"
  | unknownItem signature => "Indexer unavailable: " ++ signature
  | unknownProperty text => text
  | notIterable => "For loop expects iterable type"
  | changesConstant function =>
    "Non-pure method '" ++ function ++ "' cannot be called on a constant"
  | assignsConstant name => "Cannot modify constant " ++ name
  | arithmetic text => text
  | tooManyOperations => "Too many operations"
  | tooManyCalls => "Stack overflow"
  | tooLarge text => text ++ " exceeds maximum limit"
  | interrupted _ => "Script terminated"

/-- The kind of a cause, as handlers see it. -/
def kind : Cause → String
  | thrown _ => "ErrorRuntime"
  | unknownFunction _ => "ErrorFunctionNotFound"
  | unknownVariable _ => "ErrorVariableNotFound"
  | unboundThis => "ErrorUnboundThis"
  | mismatch .. => "ErrorMismatchDataType"
  | outsideList .. => "ErrorArrayBounds"
  | outsideText .. => "ErrorStringBounds"
  | outsideBits _ => "ErrorBitFieldBounds"
  | unknownItem _ => "ErrorIndexingType"
  | unknownProperty _ => "ErrorDotExpr"
  | notIterable => "ErrorFor"
  | changesConstant _ => "ErrorNonPureMethodCallOnConstant"
  | assignsConstant _ => "ErrorAssignmentToConstant"
  | arithmetic _ => "ErrorArithmetic"
  | tooManyOperations => "ErrorTooManyOperations"
  | tooManyCalls => "ErrorStackOverflow"
  | tooLarge _ => "ErrorDataTooLarge"
  | interrupted _ => "ErrorTerminated"

/-- What handlers learn about a cause besides its kind and text. -/
def details : Cause → List (String × Value)
  | unknownFunction signature => [("function", .string signature)]
  | unknownVariable name | assignsConstant name => [("variable", .string name)]
  | mismatch expected actual => [("requested", .string expected), ("actual", .string actual)]
  | outsideList length index | outsideText length index =>
    [("length", .int length), ("index", .int index)]
  | outsideBits index => [("length", .int 64), ("index", .int index)]
  | unknownItem signature => [("type", .string signature)]
  | unknownProperty text => [("property", .string text)]
  | changesConstant function => [("function", .string function)]
  | _ => []

end Cause

/-- Something that has gone wrong, where it did, and the calls that it has ended since, the
innermost first. -/
structure Fault where
  cause : Cause
  position : Position := .nowhere
  calls : List (String × Position) := []
deriving Inhabited

namespace Fault

/-- The start of the names of closures. -/
def closureMark : String := "anon$"

/-- Whether a function is a closure. -/
def isClosure (function : String) : Bool :=
  closureMark.toList.isPrefixOf function.toList

/-- What a message says about a call that has ended. -/
def callText (function : String) : String :=
  if isClosure function then "\nin call to closure"
  else "\nin call to function '" ++ function ++ "'"

/-- The text of a fault with all positions but the outermost. -/
def text (fault : Fault) : String :=
  match fault.calls.reverse with
  | [] => fault.cause.text
  | (outermost, _) :: others =>
    fault.cause.text ++ fault.position.note
      ++ String.join (others.reverse.map fun (function, p) => callText function ++ p.note)
      ++ callText outermost

/-- Where the outermost call that has ended stood, or else the position of the fault. -/
def outerPosition (fault : Fault) : Position :=
  match fault.calls.getLast? with
  | some (_, p) => p
  | none => fault.position

/-- The text of a fault with all positions. -/
def message (fault : Fault) : String :=
  fault.text ++ fault.outerPosition.note

/-- Tell the position of a fault that has none. -/
def at_ (p : Position) (fault : Fault) : Fault :=
  match fault.calls with
  | [] => { fault with position := fault.position.orElse p }
  | _ => fault

/-- A fault thrown once more from another position. -/
def again (p : Position) (fault : Fault) : Fault :=
  match fault.calls.reverse with
  | [] => { fault with position := p }
  | (function, _) :: others => { fault with calls := ((function, p) :: others).reverse }

/-- A fault that ends a call.  A fault that cannot be handled does not tell calls. -/
def leaving (function : String) (p : Position) (fault : Fault) : Fault :=
  if fault.cause.canBeHandled then { fault with calls := fault.calls ++ [(function, p)] }
  else fault

/-- The value by which a handler knows a fault. -/
def toValue (fault : Fault) : Value :=
  match fault.cause with
  | .thrown value => value
  | cause =>
    let (kind, details) := match fault.calls.getLast? with
      | none => (cause.kind, cause.details)
      | some (function, _) =>
        ("ErrorInFunctionCall", [("function", .string function), ("source", .string "")])
    let p := fault.outerPosition
    let position := if p.line = 0 then []
      else [("line", Value.int p.line), ("position", .int p.column)]
    .map (Assoc.ofList
      (("error", .string kind) :: ("message", .string fault.text) :: details ++ position))

end Fault

end Workflow.Script
