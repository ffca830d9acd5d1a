import Workflow.Address.Reading
import Workflow.Schema.Language
import Workflow.Schema.Message
import Workflow.Text.Encoding

/-!
# Places that schemas refer to

A reference names a schema by an address, which is taken relative to the address of the schema that
it stands in.  `Library.find` looks for the schemas with addresses of their own, then for the
document, and in the document for the part that the fragment points at.
-/

namespace Workflow.Schema

/-- The address of a schema that gives itself none. -/
def home : Address where
  scheme := "json-schema"
  host := some ""
  path := .steps [""]

/-- What references can find. -/
structure Library where
  draft : Draft
  /-- The schemas with addresses of their own. -/
  named : List (String × Json)
  /-- The documents by their addresses. -/
  documents : List (String × Json)

/-! ## Schemas with addresses of their own -/

/-- An address without a fragment that is empty. -/
def withoutEmptyFragment (address : Address) : Address :=
  if address.fragment = some "" then address.resource else address

mutual

/-- The schemas inside a document that have addresses of their own, outermost first; nothing if one
of the addresses cannot be read. -/
def named? (draft : Draft) (base : Address) : Json → Option (List (String × Json))
  | .record members =>
    match (Assoc.get? members draft.idKeyword).bind Json.text? with
    | none => namedInMembers? draft base members
    | some id => do
      let address := withoutEmptyFragment (← Address.parse? (some base) id)
      return (address.render, .record members) :: (← namedInMembers? draft address members)
  | .list items => namedInItems? draft base items
  | _ => some []

/-- The named schemas inside the members of an object; values that stand for themselves are passed
over. -/
def namedInMembers? (draft : Draft) (base : Address) :
    List (String × Json) → Option (List (String × Json))
  | [] => some []
  | (key, value) :: rest => do
    let found ← if key = "enum" || key = "const" then some [] else named? draft base value
    return found ++ (← namedInMembers? draft base rest)

/-- The named schemas inside the items of a list. -/
def namedInItems? (draft : Draft) (base : Address) : List Json → Option (List (String × Json))
  | [] => some []
  | item :: rest => do
    return (← named? draft base item) ++ (← namedInItems? draft base rest)

end

/-! ## Pointers -/

/-- A step of a pointer without its escapes. -/
def step (text : String) : String :=
  let slashes := Text.replace ['~', '1'] ['/'] text.toList
  String.ofList (Text.replace ['~', '0'] ['~'] slashes)

/-- The position that a step names in a list: a number without needless signs and zeros. -/
def position? (step : String) : Option Nat :=
  let cs := step.toList
  if cs.all Char.isDigit && (cs.length = 1 || cs.head? ≠ some '0') then step.toNat? else none

/-- The part of a value that steps lead to, and the addresses that the schemas on the way give
themselves. -/
def part? (draft : Draft) : List String → Json → Option (List String × Json)
  | [], value => some ([], value)
  | step :: rest, .record members => do
    let (ids, found) ← part? draft rest (← Assoc.get? members step)
    return ((draft.idOf? (.record members)).toList ++ ids, found)
  | step :: rest, .list items => do part? draft rest (← items[← position? step]?)
  | _, _ => none

/-- The part of a document that a fragment points at, with the addresses on the way. -/
def pointed? (draft : Draft) (fragment : String) (document : Json) :
    Option (List String × Json) := do
  let path ← Text.Percent.decode? fragment
  if path.isEmpty then return ([], document)
  else
    let steps := (path.splitOn "/").map step
    if steps.head? = some "" then part? draft (steps.drop 1) document else none

/-! ## Finding schemas -/

namespace Library

/-- The schema with an address of its own; of several the last. -/
def named? (library : Library) (address : Address) : Option Json :=
  (library.named.reverse.find? (·.1 = address.render)).map (·.2)

/-- The document of an address. -/
def document (library : Library) (address : Address) : Except String Json :=
  match (library.named? address).or (Assoc.get? library.documents address.render) with
  | some document => .ok document
  | none => .error (unavailable address)

/-- The schema that an address names, and the address that references in it are relative to. -/
def find (library : Library) (target : Address) : Except String (Address × Json) :=
  match library.named? target with
  | some schema => .ok (target, schema)
  | none => do
    let document ← library.document target.resource
    match pointed? library.draft (target.fragment.getD "") document with
    | none => .error (dangling target)
    | some (ids, schema) =>
      let base := ids.foldlM (fun base id => Address.parse? (some base) id) target.resource
      match base with
      | some base => .ok (base, schema)
      | none => .error noAddress

/-- The library of a document, which has an address; nothing if the address of a schema in it cannot
be read. -/
def ofDocument? (draft : Draft) (address : Address) (document : Json) : Option Library := do
  let named ← Schema.named? draft address document
  let languages := Draft.all.map fun draft => (draft.address, draft.language)
  return { draft, named, documents := (address.render, document) :: languages }

end Library

end Workflow.Schema
