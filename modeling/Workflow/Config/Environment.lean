import Workflow.Assoc
import Workflow.Text.Blank

/-!
# References to the environment

A configuration may name variables of the environment between `${` and `}`.  A name that is not set
stays as it is; a reference that is not closed reaches to the end of the text and is closed there.
-/

namespace Workflow

/-- The variables of the environment. -/
abbrev Environment := Assoc String

namespace Environment

/-- The value of a variable; none has an empty name. -/
def value? (environment : Environment) (name : String) : Option String :=
  if name.isEmpty then none else Assoc.get? environment name

/-- What stands for a reference. -/
def substitute (environment : Environment) (name : List Char) : List Char :=
  match environment.value? (String.ofList name) with
  | some value => value.toList
  | none => '$' :: '{' :: name ++ ['}']

/-- Put the values of variables into a text.  Values are not looked at again. -/
def expandFrom (environment : Environment) : Nat → List Char → List Char
  | 0, cs => cs
  | fuel + 1, cs =>
    match cs with
    | [] => []
    | '$' :: '{' :: rest =>
      substitute environment (rest.takeWhile (· ≠ '}'))
        ++ expandFrom environment fuel ((rest.dropWhile (· ≠ '}')).drop 1)
    | c :: rest => c :: expandFrom environment fuel rest

/-- Put the values of variables into a text. -/
def expand (environment : Environment) (text : String) : String :=
  String.ofList (expandFrom environment text.length text.toList)

/-- The names between `${` and `}` in a text, of so many at most. -/
def referencesFor : Nat → List Char → List String
  | 0, _ => []
  | fuel + 1, cs =>
    match cs with
    | [] => []
    | '$' :: '{' :: rest =>
      String.ofList (rest.takeWhile (· ≠ '}'))
        :: referencesFor fuel ((rest.dropWhile (· ≠ '}')).drop 1)
    | _ :: rest => referencesFor fuel rest

/-- The names that a text refers to. -/
def references (text : String) : List String :=
  referencesFor text.length text.toList

/-- A path with the home directory in place of a leading `~/`. -/
def resolvePath (environment : Environment) (path : String) : String :=
  match Text.dropHead? ['~', '/'] path.toList, environment.value? "HOME" with
  | some rest, some home =>
    match rest with
    | '/' :: _ => String.ofList rest
    | rest =>
      if home.isEmpty then String.ofList rest
      else if home.endsWith "/" then home ++ String.ofList rest
      else home ++ "/" ++ String.ofList rest
  | _, _ => path

end Environment

end Workflow
