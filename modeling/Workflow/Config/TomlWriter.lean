import Workflow.Config.Toml
import Workflow.Json.Printer

/-!
# Writing TOML

An object is written as a table: first the members that are plain values, one on each line, then
those that are tables of their own, each after a header with its path.  A member that is `null` is
left out.
-/

namespace Workflow.Toml

/-- A text in quotes. -/
def quoted (text : String) : List Char :=
  (Json.quoted text).flatMap fun c =>
    if c = Char.ofNat 127 then ['\\', 'u', '0', '0', '7', 'f'] else [c]

/-- One part of a key. -/
def keyPart (key : String) : List Char :=
  if !key.isEmpty && key.toList.all isBare then key.toList else quoted key

/-- The parts of a key. -/
def key (parts : List String) : List Char :=
  List.intercalate ['.'] (parts.map keyPart)

/-- The text of a number; one with a fraction or an exponent shows that. -/
def number : Number → List Char
  | .int n => (toString n).toList
  | .real x =>
    let text := Decimal.plainStyle.write x
    if x.isFinite then text.toList
    else if x.isNaN then "nan".toList
    else if x < 0 then "-inf".toList else "inf".toList

mutual

/-- A plain value on one line. -/
def value : Json → List Char
  | .null => []
  | .bool b => (if b then "true" else "false").toList
  | .number n => number n
  | .text s => quoted s
  | .list items => '[' :: values items ++ [']']
  | .record members => '{' :: ' ' :: entries members ++ [' ', '}']

/-- Plain values with commas between them. -/
def values : List Json → List Char
  | [] => []
  | [item] => value item
  | item :: rest => value item ++ ',' :: ' ' :: values rest

/-- The members of a table on one line. -/
def entries : List (String × Json) → List Char
  | [] => []
  | [(name, item)] => keyPart name ++ " = ".toList ++ value item
  | (name, item) :: rest =>
    keyPart name ++ " = ".toList ++ value item ++ ',' :: ' ' :: entries rest

end

/-- Whether a list is written as a list of tables. -/
def isTables (items : List Json) : Bool :=
  !items.isEmpty && items.all fun
    | .record _ => true
    | _ => false

/-- The line of a member that is a plain value. -/
def line (name : String) (item : Json) : List Char :=
  match item with
  | .null | .record _ => []
  | .list items =>
    if isTables items then [] else keyPart name ++ " = ".toList ++ value item ++ ['\n']
  | item => keyPart name ++ " = ".toList ++ value item ++ ['\n']

/-- A header of a table or of an item of a list of tables, after an empty line. -/
def header (path : List String) (one : Bool) : List Char :=
  if one then '\n' :: '[' :: key path ++ [']', '\n']
  else '\n' :: '[' :: '[' :: key path ++ [']', ']', '\n']

mutual

/-- The lines of a table at a path. -/
def table (path : List String) : Json → List Char
  | .record members =>
    members.flatMap (fun member => line member.1 member.2) ++ tables path members
  | _ => []

/-- The tables among the members of a table. -/
def tables (path : List String) : List (String × Json) → List Char
  | [] => []
  | (name, item) :: rest =>
    (match item with
      | .record members =>
        header (path ++ [name]) true ++ table (path ++ [name]) (.record members)
      | .list items =>
        if isTables items then itemTables (path ++ [name]) items else []
      | _ => []) ++ tables path rest

/-- The items of a list of tables. -/
def itemTables (path : List String) : List Json → List Char
  | [] => []
  | item :: rest => header path false ++ table path item ++ itemTables path rest

end

/-- The text of a document. -/
def render (document : Json) : String :=
  String.ofList ((table [] document).dropWhile (· = '\n'))

end Workflow.Toml
