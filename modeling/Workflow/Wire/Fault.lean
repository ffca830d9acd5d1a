import Workflow.Json.Basic
import Workflow.Text.Quoted

/-!
# Why a document does not decode

A `Fault` is the cause for which a document is not the encoding of a value, and `Fault.message` its
wording.
-/

namespace Workflow.Wire

/-- What stands in a document where something else was expected. -/
inductive Found where
  | null
  | bool (value : Bool)
  | number (value : Number)
  | text (value : String)
  | list
  | record
deriving DecidableEq, Repr

/-- The words for what was found. -/
def Found.describe : Found → String
  | null => "null"
  | bool value => s!"boolean `{value}`"
  | number (.int value) => s!"integer `{value}`"
  | number (.real value) => s!"floating point `{Number.style.write value}`"
  | text value => "string " ++ Text.quoted value
  | list => "sequence"
  | record => "map"

/-- The cause for which a document does not decode. -/
inductive Fault where
  /-- A value of another type. -/
  | mistyped (found : Found) (expected : String)
  /-- A value of the right type that is not allowed. -/
  | disallowed (found : Found) (expected : String)
  /-- A list with a wrong number of items. -/
  | wrongLength (length : Nat) (expected : String)
  /-- A name that is none of the known ones. -/
  | unknownVariant (name : String) (known : List String)
  | missing (member : String)
  | duplicate (member : String)
  /-- The text is not JSON, or is refused by its reader. -/
  | unreadable
  /-- A cause with a wording of its own. -/
  | other (message : String)
deriving DecidableEq, Repr

/-- The list of names that were expected. -/
def oneOf : List String → String
  | [] => "there are no variants"
  | [a] => s!"expected `{a}`"
  | [a, b] => s!"expected `{a}` or `{b}`"
  | names => "expected one of " ++ ", ".intercalate (names.map fun name => s!"`{name}`")

/-- The wording for a text that cannot be read. -/
def unreadableText : String := "text is not JSON"

/-- The wording of a cause. -/
def Fault.message : Fault → String
  | mistyped found expected => s!"invalid type: {found.describe}, expected {expected}"
  | disallowed found expected => s!"invalid value: {found.describe}, expected {expected}"
  | wrongLength length expected => s!"invalid length {length}, expected {expected}"
  | unknownVariant name known => s!"unknown variant `{name}`, {oneOf known}"
  | missing member => s!"missing field `{member}`"
  | duplicate member => s!"duplicate field `{member}`"
  | unreadable => unreadableText
  | other message => message

end Workflow.Wire
