import Workflow.Json.Basic

/-!
# Writing JSON

The compact form: no white space, members in the order of their names, and an escape only where the
grammar asks for one.
-/

namespace Workflow.Json

/-- A hexadecimal digit, lower case. -/
def hexDigit (n : Nat) : Char :=
  if n < 10 then Char.ofNat ('0'.toNat + n) else Char.ofNat ('a'.toNat + n - 10)

/-- The escape of a character inside a quoted text. -/
def escape (c : Char) : List Char :=
  if c = '"' then ['\\', '"']
  else if c = '\\' then ['\\', '\\']
  else if c = '\n' then ['\\', 'n']
  else if c = '\r' then ['\\', 'r']
  else if c = '\t' then ['\\', 't']
  else if c.toNat = 8 then ['\\', 'b']
  else if c.toNat = 12 then ['\\', 'f']
  else if c.toNat < 32 then ['\\', 'u', '0', '0', hexDigit (c.toNat / 16), hexDigit (c.toNat % 16)]
  else [c]

/-- A text in quotes. -/
def quoted (s : String) : List Char :=
  '"' :: s.toList.flatMap escape ++ ['"']

mutual

/-- The characters of a value's compact form. -/
def written : Json → List Char
  | null => "null".toList
  | bool true => "true".toList
  | bool false => "false".toList
  | number value => value.render.toList
  | text value => quoted value
  | list items => '[' :: writtenItems items ++ [']']
  | record members => '{' :: writtenMembers members ++ ['}']

/-- The items of an array, with commas between them. -/
def writtenItems : List Json → List Char
  | [] => []
  | [item] => written item
  | item :: rest => written item ++ ',' :: writtenItems rest

/-- The members of an object, with commas between them. -/
def writtenMembers : List (String × Json) → List Char
  | [] => []
  | [(name, value)] => quoted name ++ ':' :: written value
  | (name, value) :: rest => quoted name ++ ':' :: written value ++ ',' :: writtenMembers rest

end

/-- The compact form of a value. -/
def render (value : Json) : String :=
  String.ofList (written value)

/-- A value as template text: a string as it is, nothing for `null`, all else in compact form. -/
def display : Json → String
  | text value => value
  | null => ""
  | value => render value

end Workflow.Json
