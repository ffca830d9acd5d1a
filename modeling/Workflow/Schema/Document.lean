import Workflow.Schema.Complaint

/-!
# Documents that are schemas

A JSON document is a schema if the schema of its draft allows it, all addresses in it can be read,
and so can its keywords.  `Document.ofJson?` brings it to the form in which values are compared with
it.
-/

namespace Workflow.Schema

/-- A schema with what its references can find. -/
structure Document where
  library : Library
  schema : Schema

namespace Document

/-- What the schema of a document does not allow about a value. -/
def complaints (document : Document) (value : Json) : List String :=
  document.library.complaints document.schema value

/-- The address of a schema that stands for itself; one that it gives itself is complete. -/
def addressOf? (draft : Draft) (schema : Json) : Option Address :=
  match draft.idOf? schema with
  | some id => Address.parse? none id
  | none => some home

/-- Read a document in a draft, without a look at whether the draft's schema allows it. -/
def ofJsonIn? (draft : Draft) (json : Json) : Option Document := do
  let address ← addressOf? draft json
  let library ← Library.ofDocument? draft address json
  let schema ← (read draft address json).toOption
  return { library, schema }

/-- The language of a draft as a document. -/
def language? (draft : Draft) : Option Document :=
  ofJsonIn? draft draft.language

/-- Read a document that is a schema. -/
def ofJson? (json : Json) : Option Document :=
  let draft := Draft.ofSchema json
  let allowed := (language? draft).all fun language => (language.complaints json).isEmpty
  if allowed then ofJsonIn? draft json else none

end Document

/-- Why a value is not a schema, if it is none. -/
def refusal? (value : Json) : Option String :=
  if (Document.ofJson? value).isSome then none else some "not a schema"

end Workflow.Schema
