import Workflow.Script.Position
import Workflow.Script.Value

/-!
# Terms of scripts

The forms that a script is made of.  A term carries the position that a fault in it tells: that of
its first token, or of its operator.  `Expr.isConstant` and `Expr.isPure` say of a term that its
value is known and that carrying it out does nothing else.
-/

namespace Workflow.Script

/-- An operator with two operands. -/
inductive Operator where
  | add | subtract | multiply | divide | remainder | power
  | shiftLeft | shiftRight | bitAnd | bitOr | bitXor
  | equal | notEqual | less | lessOrEqual | greater | greaterOrEqual
  | rangeUntil | rangeThrough
deriving DecidableEq, Repr

namespace Operator

/-- An operator as it is written. -/
def mark : Operator → String
  | add => "+"
  | subtract => "-"
  | multiply => "*"
  | divide => "/"
  | remainder => "%"
  | power => "**"
  | shiftLeft => "<<"
  | shiftRight => ">>"
  | bitAnd => "&"
  | bitOr => "|"
  | bitXor => "^"
  | equal => "=="
  | notEqual => "!="
  | less => "<"
  | lessOrEqual => "<="
  | greater => ">"
  | greaterOrEqual => ">="
  | rangeUntil => ".."
  | rangeThrough => "..="

/-- All operators. -/
def all : List Operator :=
  [add, subtract, multiply, divide, remainder, power, shiftLeft, shiftRight, bitAnd, bitOr, bitXor,
   equal, notEqual, less, lessOrEqual, greater, greaterOrEqual, rangeUntil, rangeThrough]

/-- The operators that an assignment can apply. -/
def canAssign : Operator → Bool
  | add | subtract | multiply | divide | remainder | power | shiftLeft | shiftRight | bitAnd
  | bitOr | bitXor => true
  | _ => false

end Operator

/-- An operator with one operand. -/
inductive SignOperator where
  | plus | minus | not
deriving DecidableEq, Repr

/-- A sign as it is written. -/
def SignOperator.mark : SignOperator → String
  | plus => "+"
  | minus => "-"
  | not => "!"

mutual

/-- A term with a value. -/
inductive Expr where
  /-- A literal, or a term whose value is known beforehand. -/
  | constant (value : Value) (position : Position)
  /-- Pieces of text put together. -/
  | template (parts : List Expr) (position : Position)
  | array (items : List Expr) (position : Position)
  | map (entries : List (String × Expr)) (position : Position)
  /-- A name, and whether the function around the term defines it. -/
  | variable_ (name : String) (defined : Bool) (position : Position)
  | this (position : Position)
  | sign (op : SignOperator) (operand : Expr) (position : Position)
  | binary (op : Operator) (left right : Expr) (position : Position)
  | both (left right : Expr) (position : Position)
  | either (left right : Expr) (position : Position)
  /-- The left operand, or the right one where that is the unit. -/
  | otherwise (left right : Expr) (position : Position)
  | call (name : String) (arguments : List Expr) (position : Position)
  /-- Parts of parts of a value, and what is called on them. -/
  | chain (root : Expr) (links : List Link) (position : Position)
  | block (body : List Stmt) (position : Position)

/-- A step from a value to a part of it, or a call on it.  A step that is `safe` leads from the unit
to the unit. -/
inductive Link where
  | property (name : String) (safe : Bool) (position : Position)
  | method (name : String) (arguments : List Expr) (safe : Bool) (position : Position)
  | item (index : Expr) (safe : Bool) (position : Position)

/-- A term that is carried out. -/
inductive Stmt where
  | skip
  | expr (value : Expr)
  | define (name : String) (constant : Bool) (value : Expr)
  | assign (op : Option Operator) (target value : Expr) (position : Position)
  | block (body : List Stmt)
  | branch (condition : Expr) (yes no : List Stmt)
  /-- The first arm that takes a value, else the fallback. -/
  | choose (subject : Expr) (arms : List Arm) (fallback : Option Expr)
  /-- Repeat while the condition holds, or without end. -/
  | repeat (condition : Option Expr) (body : List Stmt)
  /-- Carry out at least once, and again as long as the condition has a value. -/
  | again (body : List Stmt) (condition : Expr) (expected : Bool)
  | forEach (name : String) (counter : Option String) (subject : Expr) (body : List Stmt)
  | leave (value : Option Expr)
  | next
  | give (value : Option Expr)
  | throw (value : Option Expr) (position : Position)
  | attempt (body : List Stmt) (name : Option String) (handler : List Stmt)
  /-- Share variables with the closures that use them. -/
  | share (names : List (String × Position))

/-- An arm of a choice: the values and ranges that it takes, if its condition holds as well. -/
inductive Arm where
  | mk (labels : List Value) (condition body : Expr)

end

instance : Inhabited Expr := ⟨.constant .unit .nowhere⟩

instance : Inhabited Stmt := ⟨.skip⟩

instance : Inhabited Arm := ⟨.mk [] default default⟩

namespace Expr

/-- A term whose value is the unit. -/
def unit (position : Position) : Expr :=
  constant .unit position

/-- The position of a term. -/
def position : Expr → Position
  | constant _ p | template _ p | array _ p | map _ p | variable_ _ _ p | this p | sign _ _ p
  | binary _ _ _ p | both _ _ p | either _ _ p | otherwise _ _ p | call _ _ p | chain _ _ p
  | block _ p => p

/-- The position at which a term begins. -/
def start : Expr → Position
  | both left _ _ | either left _ _ | otherwise left _ _ => left.start
  | chain root _ _ => root.start
  | other => other.position

/-- A term at another position, if its value is known. -/
def moved (p : Position) : Expr → Expr
  | constant value _ => constant value p
  | other => other

/-- The name of a variable. -/
def name? : Expr → Option String
  | variable_ name _ _ => some name
  | _ => none

/-- Whether a term is an application of a function or operator. -/
def isCall : Expr → Bool
  | sign .. | binary .. | call .. => true
  | _ => false

/-- Whether the value of a term is known to be a truth value. -/
def isBool (expected : Bool) : Expr → Bool
  | constant (.bool value) _ => value = expected
  | _ => false

mutual

/-- Whether the value of a term is known. -/
def isConstant : Expr → Bool
  | constant .. => true
  | template parts _ => areConstant parts
  | array items _ => areConstant items
  | map entries _ => entriesAreConstant entries
  | _ => false

/-- Whether the values of terms are known. -/
def areConstant : List Expr → Bool
  | [] => true
  | term :: rest => isConstant term && areConstant rest

/-- Whether the values of entries are known. -/
def entriesAreConstant : List (String × Expr) → Bool
  | [] => true
  | (_, term) :: rest => isConstant term && entriesAreConstant rest

end

/-- The range between two literals; a missing one is the least or greatest integer that counts. -/
def range? (closed : Bool) (left right : Expr) : Option Value :=
  match left, right with
  | constant (.int start) _, constant (.int stop) _ => some (.range start stop closed)
  | constant (.int start) _, constant .unit _ => some (.range start (Width.span 63 - 1) closed)
  | constant .unit _, constant (.int stop) _ => some (.range 0 stop closed)
  | constant .unit _, constant .unit _ => some (.range 0 (Width.span 63 - 1) closed)
  | _, _ => none

mutual

/-- The value of a term as it is written, if that is a literal. -/
def literal? : Expr → Option Value
  | constant value _ => some value
  | template parts _ =>
    (literals? parts).map fun values => .string (String.join (values.map Value.toText))
  | array items _ => (literals? items).map .list
  | map entries _ => (literalEntries? entries).map fun entries => .map (Assoc.ofList entries)
  | binary .rangeUntil left right _ => range? false left right
  | binary .rangeThrough left right _ => range? true left right
  | _ => none

/-- The values of literals. -/
def literals? : List Expr → Option (List Value)
  | [] => some []
  | term :: rest => do
    if !isConstant term then none
    return (← literal? term) :: (← literals? rest)

/-- The values of entries that are literals. -/
def literalEntries? : List (String × Expr) → Option (List (String × Value))
  | [] => some []
  | (name, term) :: rest => do
    if !isConstant term then none
    return (name, ← literal? term) :: (← literalEntries? rest)

end

end Expr

mutual

/-- Whether a term only has a value. -/
def Expr.isPure : Expr → Bool
  | .template parts _ => Expr.arePure parts
  | .array items _ => Expr.arePure items
  | .map entries _ => Expr.entriesArePure entries
  | .both left right _ | .either left right _ | .otherwise left right _ =>
    left.isPure && right.isPure
  | .block body _ => Stmt.arePure body
  | .variable_ .. | .constant .. => true
  | _ => false

/-- Whether terms only have values. -/
def Expr.arePure : List Expr → Bool
  | [] => true
  | term :: rest => term.isPure && Expr.arePure rest

/-- Whether entries only have values. -/
def Expr.entriesArePure : List (String × Expr) → Bool
  | [] => true
  | (_, term) :: rest => term.isPure && Expr.entriesArePure rest

/-- Whether a statement does nothing but to have a value. -/
def Stmt.isPure : Stmt → Bool
  | .skip => true
  | .expr value => value.isPure
  | .branch condition yes no => condition.isPure && Stmt.arePure yes && Stmt.arePure no
  | .choose subject arms (some fallback) => subject.isPure && Arm.arePure arms && fallback.isPure
  | .again body (.constant (.bool known) _) expected => known != expected && Stmt.arePure body
  | .repeat (some (.constant (.bool known) _)) _ => !known
  | .forEach _ _ subject body => subject.isPure && Stmt.arePure body
  | .block body => Stmt.arePure body
  | .attempt body _ handler => Stmt.arePure body && Stmt.arePure handler
  | _ => false

/-- Whether statements do nothing but to have values. -/
def Stmt.arePure : List Stmt → Bool
  | [] => true
  | statement :: rest => statement.isPure && Stmt.arePure rest

/-- Whether arms only have values. -/
def Arm.arePure : List Arm → Bool
  | [] => true
  | .mk _ condition body :: rest => condition.isPure && body.isPure && Arm.arePure rest

end

namespace Stmt

/-- Whether a statement cannot be told from nothing once the variables around it are dropped. -/
def isPureWithin : Stmt → Bool
  | define _ _ value => value.isPure
  | share _ => true
  | other => other.isPure

/-- Whether nothing after a statement is carried out. -/
def endsBlock : Stmt → Bool
  | leave _ | next | give _ | throw .. => true
  | _ => false

/-- Whether a statement can have a value other than the unit. -/
def hasValue : Stmt → Bool
  | expr _ | block _ | branch .. | choose .. => true
  | _ => false

/-- Whether a statement brings a variable into scope. -/
def defines : Stmt → Bool
  | define .. => true
  | _ => false

end Stmt

namespace Arm

/-- Whether a label of an arm that is no range is the same as a value. -/
def names (subject : Value) : Arm → Bool
  | mk labels _ _ => labels.any fun label => !label.isRange && label.same subject

/-- An arm for each range among the labels of arms. -/
def ranges (arms : List Arm) : List Arm :=
  arms.flatMap fun (mk labels condition body) =>
    (labels.filter Value.isRange).map fun label => mk [label] condition body

/-- Whether a value lies in a range among the labels of an arm. -/
def covers (subject : Value) : Arm → Bool
  | mk labels _ _ => labels.any (·.covers subject)

/-- Whether an arm has no labels but ranges. -/
def hasRangesOnly : Arm → Bool
  | mk labels _ _ => labels.all Value.isRange

/-- Whether an arm can be taken at all. -/
def canHold : Arm → Bool
  | mk _ condition _ => !condition.isBool false

/-- Whether an arm is taken without condition. -/
def holds : Arm → Bool
  | mk _ condition _ => condition.isBool true

end Arm

/-- A function of a script. -/
structure Function where
  name : String
  parameters : List String
  body : List Stmt
deriving Inhabited

/-- The name of a function that a text tells, if it can name one. -/
def Function.name? (text : String) : Option String :=
  let isNameChar := fun (c : Char) => c.isAlphanum || c = '_'
  match text.toList with
  | [] => none
  | c :: cs =>
    if !c.isDigit && (c :: cs).all isNameChar && (c :: cs).any Char.isAlpha then some text else none

/-- A script that has been read. -/
structure Program where
  body : List Stmt
  functions : List Function
deriving Inhabited

end Workflow.Script
