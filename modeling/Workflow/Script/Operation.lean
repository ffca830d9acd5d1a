import Workflow.Decimal.Remainder
import Workflow.Script.Fault
import Workflow.Script.Term
import Workflow.Width

/-!
# Operators of scripts

What operators do with values.  Integers have 64 bits and do not wrap; an integer beside a double
becomes one.  Values of different types are unequal, and none comes before the other.

`direct?` covers the plain cases that need no call.  `builtIn?` covers what is known before a script
runs.  `apply` covers all operators.
-/

namespace Workflow.Script

namespace Operation

/-- The outcome of an operator that has one. -/
abbrev Outcome := Option (Except Cause Value)

/-- An integer, unless it is beyond 64 bits. -/
def checked (what : String) (n : Int) : Except Cause Value :=
  if Value.fits n then .ok (.int n) else .error (.arithmetic what)

/-- Integer division toward zero. -/
def divide (a b : Int) : Except Cause Value :=
  if b = 0 then .error (.arithmetic s!"Division by zero: {a} / {b}")
  else checked s!"Division overflow: {a} / {b}" (a.tdiv b)

/-- The remainder of division toward zero, which has the sign of the dividend. -/
def remainder (a b : Int) : Except Cause Value :=
  if b = 0 then .error (.arithmetic s!"Modulo division by zero: {a} % {b}")
  else if Value.fits (a.tdiv b) then .ok (.int (a.tmod b))
  else .error (.arithmetic s!"Modulo division overflow: {a} % {b}")

/-- A power of an integer with an exponent of 32 bits.  The exponent is cut short where the result
is certain to overflow. -/
def power (a b : Int) : Except Cause Value :=
  let overflow := s!"Exponential overflow: {a} ** {b}"
  if b ≥ Width.span 32 then .error (.arithmetic overflow)
  else if b < 0 then .error (.arithmetic s!"Integer raised to a negative power: {a} ** {b}")
  else if a.natAbs ≤ 1 then checked overflow (a.pow (b % 2 + (if b = 0 then 0 else 2)).toNat)
  else if b > 64 then .error (.arithmetic overflow)
  else checked overflow (a.pow b.toNat)

/-- Shift bits left; a negative amount shifts right. -/
def shift (a amount : Int) : Int :=
  if amount ≥ 0 then (if amount > 63 then 0 else Width.wrapSigned 64 (a * Nat.pow 2 amount.toNat))
  else if amount < -63 then (if a < 0 then -1 else 0)
  else a / Nat.pow 2 (-amount).toNat

/-- Apply a function to the bits of two integers. -/
def bitwise (f : UInt64 → UInt64 → UInt64) (a b : Int) : Int :=
  let word := fun (n : Int) => UInt64.ofNat (n % Width.span 64).toNat
  Width.wrapSigned 64 (f (word a) (word b)).toNat

/-- A bit of an integer. -/
def bit (n : Int) (i : Nat) : Bool :=
  n / Nat.pow 2 i % 2 = 1

/-- An operator between integers. -/
def ints (op : Operator) (a b : Int) : Except Cause Value :=
  match op with
  | .add => checked s!"Addition overflow: {a} + {b}" (a + b)
  | .subtract => checked s!"Subtraction overflow: {a} - {b}" (a - b)
  | .multiply => checked s!"Multiplication overflow: {a} * {b}" (a * b)
  | .divide => divide a b
  | .remainder => remainder a b
  | .power => power a b
  | .shiftLeft => .ok (.int (shift a b))
  | .shiftRight => .ok (.int (shift a (-b)))
  | .bitAnd => .ok (.int (bitwise (· &&& ·) a b))
  | .bitOr => .ok (.int (bitwise (· ||| ·) a b))
  | .bitXor => .ok (.int (bitwise (· ^^^ ·) a b))
  | .equal => .ok (.bool (a = b))
  | .notEqual => .ok (.bool (a ≠ b))
  | .less => .ok (.bool (a < b))
  | .lessOrEqual => .ok (.bool (a ≤ b))
  | .greater => .ok (.bool (a > b))
  | .greaterOrEqual => .ok (.bool (a ≥ b))
  | .rangeUntil => .ok (.range a b false)
  | .rangeThrough => .ok (.range a b true)

/-- An operator between doubles. -/
def floats? (op : Operator) (a b : Float) : Option Value :=
  match op with
  | .add => some (.float (a + b))
  | .subtract => some (.float (a - b))
  | .multiply => some (.float (a * b))
  | .divide => some (.float (a / b))
  | .remainder => some (.float (Decimal.floatRemainder a b))
  | .power => some (.float (Float.pow a b))
  | .equal => some (.bool (a == b))
  | .notEqual => some (.bool (a != b))
  | .less => some (.bool (a < b))
  | .lessOrEqual => some (.bool (a ≤ b))
  | .greater => some (.bool (b < a))
  | .greaterOrEqual => some (.bool (b ≤ a))
  | _ => none

/-- How an operator compares two values of one ordered type. -/
def comparison? (op : Operator) (equal less : Bool) : Option Value :=
  match op with
  | .equal => some (.bool equal)
  | .notEqual => some (.bool !equal)
  | .less => some (.bool less)
  | .lessOrEqual => some (.bool (less || equal))
  | .greater => some (.bool !(less || equal))
  | .greaterOrEqual => some (.bool !less)
  | _ => none

/-- How an operator compares two values of which none comes before the other. -/
def equality? (op : Operator) (equal : Bool) : Option Value :=
  match op with
  | .equal => some (.bool equal)
  | .notEqual => some (.bool !equal)
  | .less | .lessOrEqual | .greater | .greaterOrEqual => some (.bool false)
  | _ => none

/-- A text put together of two, unless it is too large.  A text put to an empty one is not
checked. -/
def joined (limits : Limits) (a b : String) : Except Cause Value :=
  match limits.excess? { bytes := a.utf8ByteSize + b.utf8ByteSize } with
  | some what =>
    if a.isEmpty || b.isEmpty then .ok (.string (a ++ b)) else .error (.tooLarge what)
  | none => .ok (.string (a ++ b))

/-- An operator between texts.  Taking a text away removes all its occurrences. -/
def texts? (limits : Limits) (op : Operator) (a b : String) : Outcome :=
  match op with
  | .add => some (joined limits a b)
  | .subtract =>
    some (.ok (.string (if b.isEmpty then a else String.intercalate "" (a.splitOn b))))
  | _ => (comparison? op (a = b) (a < b)).map .ok

/-- An operator between truth values; false comes before true. -/
def bools? (op : Operator) (a b : Bool) : Option Value :=
  match op with
  | .bitAnd => some (.bool (a && b))
  | .bitOr => some (.bool (a || b))
  | .bitXor => some (.bool (a ^^ b))
  | _ => comparison? op (a = b) (!a && b)

/-- The operators between integers that need no call. -/
def isPlain : Operator → Bool
  | .add | .subtract | .multiply | .divide | .remainder | .equal | .notEqual | .less
  | .lessOrEqual | .greater | .greaterOrEqual => true
  | _ => false

/-- What an operator does with two simple values without a call.  Here no truth value comes before
another one. -/
def direct? (op : Operator) (a b : Value) : Outcome :=
  match a, b with
  | .unit, .unit => (equality? op true).map .ok
  | .bool x, .bool y =>
    match op with
    | .bitAnd => some (.ok (.bool (x && y)))
    | .bitOr => some (.ok (.bool (x || y)))
    | _ => (equality? op (x = y)).map .ok
  | .int x, .int y => if isPlain op then some (ints op x y) else none
  | .float x, .float y => if isPlain op then (floats? op x y).map .ok else none
  | .float x, .int y => if isPlain op then (floats? op x (Float.ofInt y)).map .ok else none
  | .int x, .float y => if isPlain op then (floats? op (Float.ofInt x) y).map .ok else none
  | .string x, .string y => (comparison? op (x = y) (x < y)).map .ok
  | .char x, .char y => (comparison? op (x = y) (x < y)).map .ok
  | _, _ => none

/-- Whether two values have the same type. -/
def sameType (a b : Value) : Bool :=
  a.typeName = b.typeName

/-- What an operator does with two values, where that does not depend on functions. -/
def builtIn? (limits : Limits) (op : Operator) (a b : Value) : Outcome :=
  match a, b with
  | .int x, .int y => some (ints op x y)
  | .float x, .float y => (floats? op x y).map .ok
  | .int x, .float y => (floats? op (Float.ofInt x) y).map .ok
  | .float x, .int y => (floats? op x (Float.ofInt y)).map .ok
  | .string x, .string y => texts? limits op x y
  | .char x, .char y =>
    if op = .subtract then none else texts? limits op x.toString y.toString
  | .char x, .string y =>
    if op = .subtract then none else texts? limits op x.toString y
  | .string x, .char y => texts? limits op x y.toString
  | .bool x, .bool y => (bools? op x y).map .ok
  | .unit, .unit => (equality? op true).map .ok
  | .int x, .unit =>
    match op with
    | .rangeUntil => some (.ok (.range x (Width.span 63 - 1) false))
    | .rangeThrough => some (.ok (.range x (Width.span 63 - 1) true))
    | _ => (equality? op false).map .ok
  | .unit, .int y =>
    match op with
    | .rangeUntil => some (.ok (.range 0 y false))
    | .rangeThrough => some (.ok (.range 0 y true))
    | _ => (equality? op false).map .ok
  | _, _ => if sameType a b then none else (equality? op false).map .ok

/-- The types of arguments as a message lists them. -/
def signature (name : String) (arguments : List Value) : String :=
  name ++ " (" ++ ", ".intercalate (arguments.map fun value =>
    match value with
    | .string _ => "&str | ImmutableString | String"
    | other => other.typeName) ++ ")"

/-- The entries of two maps; those of the second win. -/
def merge (a b : List (String × Value)) : List (String × Value) :=
  b.foldl (fun map entry => Assoc.insert map entry.1 entry.2) a

mutual

/-- Whether two values are equal, if values of their types can be. -/
def equal (a b : Value) : Except Cause Bool :=
  match a, b with
  | .list as, .list bs => if as.length = bs.length then equalItems as bs else .ok false
  | .map as, .map bs => if as.length = bs.length then equalEntries as bs else .ok false
  | .range x y closed, .range z w closed' => .ok (x = z && y = w && closed = closed')
  | a, b =>
    match builtIn? {} .equal a b with
    | some (.ok (.bool result)) => .ok result
    | _ => .error (.unknownFunction (signature "==" [a, b]))

/-- Whether two lists of one length are equal. -/
def equalItems : List Value → List Value → Except Cause Bool
  | a :: as, b :: bs => do
    if ← equal a b then equalItems as bs else return false
  | _, _ => .ok true

/-- Whether two maps of one size are equal. -/
def equalEntries : List (String × Value) → List (String × Value) → Except Cause Bool
  | (k, a) :: as, (l, b) :: bs => do
    if k = l then (if ← equal a b then equalEntries as bs else return false) else return false
  | _, _ => .ok true

end

/-- Apply an operator to two values. -/
def apply (limits : Limits) (op : Operator) (a b : Value) : Except Cause Value :=
  let unknown := Except.error (.unknownFunction (signature op.mark [a, b]))
  let negated := fun (result : Except Cause Bool) (positive : Bool) =>
    result.map fun same => Value.bool (same = positive)
  match op, a, b with
  | .add, .list x, .list y => .ok (.list (x ++ y))
  | .add, .map x, .map y => .ok (.map (merge x y))
  | .equal, .list _, .list _ | .equal, .map _, .map _ => negated (equal a b) true
  | .notEqual, .list _, .list _ | .notEqual, .map _, .map _ => negated (equal a b) false
  | .equal, .range _ _ x, .range _ _ y | .notEqual, .range _ _ x, .range _ _ y =>
    if x = y then negated (equal a b) (op = .equal)
    else (equality? op false).elim unknown .ok
  | .add, _, _ =>
    match builtIn? limits op a b, a, b with
    | some result, _, _ => result
    | none, .string x, _ => .ok (.string (x ++ b.toText))
    | none, _, .string y => .ok (.string (a.toText ++ y))
    | none, _, _ => unknown
  | _, _, _ => (builtIn? limits op a b).getD unknown

/-- Whether an operator works on its first operand where that is kept, so that the size of that
counts as well. -/
def inspects (op : Operator) (a b : Value) : Bool :=
  match op, a, b with
  | .add, .string _, _ => false
  | .add, .unit, .string _ | .add, .char _, .string _ => false
  | .add, _, .string _ => true
  | .equal, .list _, .list _ | .notEqual, .list _, .list _ => true
  | .equal, .map _, .map _ | .notEqual, .map _, .map _ => true
  | _, _, _ => false

/-- Apply a sign to a value. -/
def applySign (op : SignOperator) (a : Value) : Except Cause Value :=
  match op, a with
  | .plus, .int _ | .plus, .float _ => .ok a
  | .minus, .int x => checked s!"Negation overflow: -{x}" (-x)
  | .minus, .float x => .ok (.float (-x))
  | .not, .bool x => .ok (.bool !x)
  | _, _ => .error (.unknownFunction (signature op.mark [a]))

/-- The value of an assignment that applies an operator to simple values, texts or lists.  A list
takes up what is no list as a further item. -/
def update? (limits : Limits) (op : Operator) (old value : Value) : Outcome :=
  match op, old, value with
  | _, .int x, .int y => if op.canAssign then some (ints op x y) else none
  | _, .float x, .float y => (if op.canAssign then floats? op x y else none).map .ok
  | _, .float x, .int y =>
    (if op.canAssign then floats? op x (Float.ofInt y) else none).map .ok
  | _, .bool x, .bool y => (if op.canAssign then bools? op x y else none).map .ok
  | .add, .string x, .string y | .subtract, .string x, .string y => texts? limits op x y
  | .add, .string x, .char y | .subtract, .string x, .char y => texts? limits op x y.toString
  | .add, .list items, more =>
    let all := match more with
      | .list more => items ++ more
      | item => items ++ [item]
    match more, limits.excess? (Value.size (.list all)) with
    | .list [], _ | _, none => some (.ok (.list all))
    | .list _, some what =>
      some (if items.isEmpty then .ok (.list all) else .error (.tooLarge what))
    | _, some what => some (.error (.tooLarge what))
  | _, _, _ => none

/-- The value of an assignment that applies an operator to other values, and how many functions that
takes. -/
def assigned (limits : Limits) (op : Operator) (old value : Value) : Except Cause Value × Nat :=
  match op, old, value with
  | .add, .string _, _ | .add, .map _, .map _ => (apply limits op old value, 1)
  | _, _, _ => (apply limits op old value, 2)

end Operation

end Workflow.Script
