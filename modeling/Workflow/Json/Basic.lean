import Workflow.Assoc
import Workflow.Json.Number

/-!
# JSON values

Objects are sorted association lists, so two objects with the same members are the same value and
are written the same way.
-/

namespace Workflow

/-- A JSON value. -/
inductive Json where
  | null
  | bool (value : Bool)
  | number (value : Number)
  | text (value : String)
  | list (items : List Json)
  | record (members : List (String × Json))
deriving Repr, Inhabited

namespace Json

mutual

/-- Equality of values can be decided. -/
def decEq : (a b : Json) → Decidable (a = b)
  | .null, .null => isTrue rfl
  | .bool a, .bool b => decidable_of_iff (a = b) (by simp)
  | .number a, .number b => decidable_of_iff (a = b) (by simp)
  | .text a, .text b => decidable_of_iff (a = b) (by simp)
  | .list a, .list b => @decidable_of_iff _ (a = b) (by simp) (decEqItems a b)
  | .record a, .record b => @decidable_of_iff _ (a = b) (by simp) (decEqMembers a b)
  | .null, .bool _ | .null, .number _ | .null, .text _ | .null, .list _ | .null, .record _
  | .bool _, .null | .bool _, .number _ | .bool _, .text _ | .bool _, .list _ | .bool _, .record _
  | .number _, .null | .number _, .bool _ | .number _, .text _ | .number _, .list _
  | .number _, .record _
  | .text _, .null | .text _, .bool _ | .text _, .number _ | .text _, .list _ | .text _, .record _
  | .list _, .null | .list _, .bool _ | .list _, .number _ | .list _, .text _ | .list _, .record _
  | .record _, .null | .record _, .bool _ | .record _, .number _ | .record _, .text _
  | .record _, .list _ => isFalse nofun

/-- Equality of lists of values can be decided. -/
def decEqItems : (a b : List Json) → Decidable (a = b)
  | [], [] => isTrue rfl
  | [], _ :: _ | _ :: _, [] => isFalse nofun
  | a :: as, b :: bs =>
    match decEq a b, decEqItems as bs with
    | isTrue h, isTrue hs => isTrue (by rw [h, hs])
    | isFalse h, _ => isFalse fun e => h (List.cons.inj e).1
    | _, isFalse h => isFalse fun e => h (List.cons.inj e).2

/-- Equality of lists of members can be decided. -/
def decEqMembers : (a b : List (String × Json)) → Decidable (a = b)
  | [], [] => isTrue rfl
  | [], _ :: _ | _ :: _, [] => isFalse nofun
  | (k, a) :: as, (l, b) :: bs =>
    match (inferInstance : Decidable (k = l)), decEq a b, decEqMembers as bs with
    | isTrue hk, isTrue h, isTrue hs => isTrue (by rw [hk, h, hs])
    | isFalse h, _, _ => isFalse fun e => h (Prod.mk.inj (List.cons.inj e).1).1
    | _, isFalse h, _ => isFalse fun e => h (Prod.mk.inj (List.cons.inj e).1).2
    | _, _, isFalse h => isFalse fun e => h (List.cons.inj e).2

end

instance : DecidableEq Json := decEq

/-- An integer value. -/
def int (value : Int) : Json :=
  number (.int value)

/-- A natural number as a value. -/
def nat (value : Nat) : Json :=
  number (.int value)

/-- The object of a list of members; the last value of a repeated name stands. -/
def ofMembers (members : List (String × Json)) : Json :=
  record (Assoc.ofList members)

/-- The empty object. -/
def empty : Json :=
  record []

/-- The value of a member of an object. -/
def member? (value : Json) (name : String) : Option Json :=
  match value with
  | record members => Assoc.get? members name
  | _ => none

/-- The text of a string value. -/
def text? : Json → Option String
  | text value => some value
  | _ => none

/-- Members that stand for an optional value: none when it is absent. -/
def optional (name : String) : Option Json → List (String × Json)
  | none => []
  | some value => [(name, value)]

/-- The value of an optional value, `null` when it is absent. -/
def orNull : Option Json → Json
  | none => null
  | some value => value

/-- Whether a value counts as true in a condition: `null`, `false`, zero and whatever is empty do
not. -/
def truthy : Json → Bool
  | null => false
  | bool value => value
  | number value => value.toFloat != 0
  | text value => !value.isEmpty
  | list items => !items.isEmpty
  | record members => !members.isEmpty

/-- The name of a value's type in messages. -/
def typeName : Json → String
  | null => "null"
  | bool _ => "boolean"
  | number _ => "number"
  | text _ => "string"
  | list _ => "array"
  | record _ => "object"

end Json

end Workflow

namespace Workflow.Json

/-!
## Looking into values

Lenient views of a value for readers that take what they need and pass over the rest: what is not
there, or is of another type, counts as `null`, as empty or as nothing.
-/

/-- The value of a member; `null` when there is none. -/
def get (value : Json) (name : String) : Json :=
  (value.member? name).getD null

/-- Whether a member is there and not `null`. -/
def has (value : Json) (name : String) : Bool :=
  value.get name != null

/-- A natural number that is written as an integer. -/
def nat? : Json → Option Nat
  | number (.int n) => if 0 ≤ n then some n.toNat else none
  | _ => none

/-- The items of a list. -/
def items : Json → List Json
  | list values => values
  | _ => []

/-- The members of an object. -/
def members : Json → Assoc Json
  | record entries => entries
  | _ => []

/-- The text of a member, if it is a string. -/
def textAt? (value : Json) (name : String) : Option String :=
  (value.get name).text?

/-- The text of a member, empty if it is no string. -/
def textAt (value : Json) (name : String) : String :=
  (value.textAt? name).getD ""

/-- The number of a member, if it is a natural one. -/
def natAt? (value : Json) (name : String) : Option Nat :=
  (value.get name).nat?

/-- The number of a member, zero if it is no natural one. -/
def natAt (value : Json) (name : String) : Nat :=
  (value.natAt? name).getD 0

/-- The items of a member. -/
def itemsAt (value : Json) (name : String) : List Json :=
  (value.get name).items

/-- The members of a member. -/
def membersAt (value : Json) (name : String) : Assoc Json :=
  (value.get name).members

/-- Whether a member is `true`. -/
def flagAt (value : Json) (name : String) : Bool :=
  value.get name == bool true

/-- An item of a list; `null` past its end. -/
def item (value : Json) (position : Nat) : Json :=
  value.items.getD position null

/-- The text of an item, empty if it is no string. -/
def itemText (value : Json) (position : Nat) : String :=
  ((value.item position).text?).getD ""

end Workflow.Json
