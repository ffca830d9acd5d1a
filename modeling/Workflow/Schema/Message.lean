import Workflow.Decimal.Notation
import Workflow.Json.Printer
import Workflow.Schema.Basic

/-!
# What complaints say

The texts about values that a schema does not allow, and about what is no schema.
-/

namespace Workflow.Schema

/-- What a measure counts, for some number. -/
def Measure.unit (n : Nat) : Measure → String
  | .characters => if n = 1 then "character" else "characters"
  | .items => if n = 1 then "item" else "items"
  | .properties => if n = 1 then "property" else "properties"

/-- The complaint about a value below a limit of a measure. -/
def tooSmall (measure : Measure) (limit : Nat) (value : Json) : String :=
  let word := if measure = .characters then " is shorter than " else " has less than "
  value.render ++ word ++ toString limit ++ " " ++ Measure.unit limit measure

/-- The complaint about a value above a limit of a measure. -/
def tooLarge (measure : Measure) (limit : Nat) (value : Json) : String :=
  let word := if measure = .characters then " is longer than " else " has more than "
  value.render ++ word ++ toString limit ++ " " ++ Measure.unit limit measure

/-- The complaint about a number beyond a limit. -/
def tooFar (kind : Bound) (limit n : Number) : String :=
  let words := match kind with
    | .least => " is less than the minimum of "
    | .most => " is greater than the maximum of "
    | .above => " is less than or equal to the minimum of "
    | .below => " is greater than or equal to the maximum of "
  n.render ++ words ++ limit.render

/-- The text of a divisor: positional, without a point if it is whole. -/
def divisorStyle : Decimal.Style where
  positional := fun _ _ => true
  pointZero := false
  exponentPlus := false
  tie := .upward
  signedZero := true

/-- The complaint about a number that is not a multiple. -/
def notMultiple (n : Number) (divisor : Float) : String :=
  n.render ++ " is not a multiple of " ++ divisorStyle.write divisor

/-- The complaint about a value of a wrong type. -/
def wrongType (wanted : List JsonType) (value : Json) : String :=
  let names := wanted.map fun type_ => "\"" ++ type_.label ++ "\""
  match names with
  | [name] => value.render ++ " is not of type " ++ name
  | names => value.render ++ " is not of types " ++ ", ".intercalate names

/-- The complaint about a value that is none of some. -/
def notListed (values : List Json) (value : Json) : String :=
  value.render ++ " is not one of " ++ (Json.list values).render

/-- The complaint about a value without a format. -/
def wrongFormat (label : String) (value : Json) : String :=
  value.render ++ " is not a \"" ++ label ++ "\""

/-- The complaint about a text that is not what it is said to hold. -/
def notCompliant (label kind : String) (value : Json) : String :=
  value.render ++ " is not compliant with \"" ++ label ++ "\" " ++ kind

/-- Things that should not be there: one was, several were. -/
def unexpected (kind : String) (listed : List String) : String :=
  let verb := if listed.length = 1 then "was" else "were"
  s!"Additional {kind} are not allowed (" ++ ", ".intercalate listed ++ s!" {verb} unexpected)"

/-- The complaint of a schema that allows nothing. -/
def refused (value : Json) : String :=
  "False schema does not allow " ++ value.render

/-- The complaint about a value that no schema of a keyword allows. -/
def noneAllows (keyword : String) (value : Json) : String :=
  value.render ++ s!" is not valid under any of the schemas listed in the '{keyword}' keyword"

/-- The complaint about a value that several schemas of a keyword allow. -/
def severalAllow (keyword : String) (value : Json) : String :=
  value.render ++ s!" is valid under more than one of the schemas listed in the '{keyword}' keyword"

/-- The complaint about a search that was given up. -/
def givenUp : String :=
  "Error executing regex: Max limit for backtracking count exceeded"

/-- The complaint about what is no schema, without a closer reason. -/
def noSchema : String := "Schema error"

/-- The complaint about a number that is no count. -/
def noCount : Json → String
  | .number (.int n) => tooFar .least (.int 0) (.int n)
  | value => wrongType [.integer] value

/-- The complaint about a reference that points at nothing. -/
def dangling (target : Address) : String :=
  "Invalid reference: " ++ target.render

/-- The complaint about a document that is not at hand. -/
def unavailable (target : Address) : String :=
  let reason :=
    if target.scheme = "json-schema" then
      "cannot resolve relative external schema without root schema ID"
    else if target.scheme = "file" then "No such file or directory (os error 2)"
    else s!"unknown scheme {target.scheme}"
  "failed to resolve " ++ target.render ++ ": " ++ reason

/-- The complaint about an address that cannot be read. -/
def noAddress : String := "relative URL without a base"

end Workflow.Schema
