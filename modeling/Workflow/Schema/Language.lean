import Workflow.Json.Basic
import Workflow.Schema.Basic
import Workflow.Schema.Format

/-!
# The language of schemas

The drafts of the schema language, and for each draft the schema that its schemas follow.
-/

namespace Workflow.Schema

/-!
## Drafts of the schema language

A schema says in which draft of the language it is written; without a word on that it is the
seventh.  The drafts differ in the keywords and formats that they know.
-/

/-- A draft of the schema language. -/
inductive Draft where
  | fourth | sixth | seventh
deriving DecidableEq, Repr

namespace Draft

/-- All drafts. -/
def all : List Draft := [fourth, sixth, seventh]

/-- The address of the document that describes a draft. -/
def address : Draft → String
  | fourth => "http://json-schema.org/draft-04/schema"
  | sixth => "http://json-schema.org/draft-06/schema"
  | seventh => "http://json-schema.org/draft-07/schema"

/-- The draft of a schema. -/
def ofSchema (schema : Json) : Draft :=
  let named := (schema.textAt? "$schema").bind fun text =>
    let bare := String.ofList (text.toList.reverse.dropWhile (· = '#')).reverse
    all.find? (·.address = bare)
  named.getD seventh

/-- The keyword that gives a schema an address of its own. -/
def idKeyword : Draft → String
  | fourth => "id"
  | _ => "$id"

/-- The address that a schema gives itself. -/
def idOf? (draft : Draft) (schema : Json) : Option String :=
  schema.textAt? draft.idKeyword

/-- The keywords that the fourth draft does not know. -/
def sinceSixth : List String :=
  ["const", "contains", "contentEncoding", "contentMediaType", "exclusiveMaximum",
   "exclusiveMinimum", "propertyNames"]

/-- Whether a draft knows a keyword, if any does. -/
def knows (draft : Draft) (keyword : String) : Bool :=
  match draft with
  | fourth => keyword ≠ "if" && !sinceSixth.contains keyword
  | sixth => keyword ≠ "if"
  | seventh => true

/-- Whether a draft knows a format. -/
def knowsFormat (draft : Draft) (format : TextFormat) : Bool :=
  match format with
  | .idnHostname | .iri | .iriReference | .relativePointer => draft = seventh
  | .pointer | .uriReference | .uriTemplate => draft ≠ fourth
  | _ => true

end Draft

end Workflow.Schema

namespace Workflow.Schema.Language

/-! ## The schemas of schemas -/

/-- An object with some members. -/
def object (members : List (String × Json)) : Json :=
  .record (Assoc.ofList members)

/-- The schema of a type, with further keywords. -/
def typed (name : String) (more : List (String × Json)) : Json :=
  object (("type", .text name) :: more)

/-- The schema of a type. -/
def ofType (name : String) : Json :=
  typed name []

/-- A reference to a definition. -/
def defined (name : String) : Json :=
  object [("$ref", .text ("#/definitions/" ++ name))]

/-- A reference to the whole schema. -/
def whole : Json :=
  object [("$ref", .text "#")]

/-- Either of two schemas. -/
def either (first second : Json) : Json :=
  object [("anyOf", .list [first, second])]

/-- Texts of a format. -/
def textOf (format : String) : Json :=
  typed "string" [("format", .text format)]

/-- Objects whose members follow a schema. -/
def membersOf (schema : Json) : Json :=
  typed "object" [("additionalProperties", schema)]

/-- The names of the types. -/
def typeNames : Json :=
  object [("enum", .list (JsonType.all.map fun type_ => .text type_.label))]

/-- Lists of one or more items. -/
def someOf (schema : Json) : Json :=
  typed "array" [("items", schema), ("minItems", .number (.int 1))]

/-- Lists of different items. -/
def distinct (schema : Json) : Json :=
  typed "array" [("items", schema), ("uniqueItems", .bool true)]

/-- Lists of one or more different items. -/
def someDistinct (schema : Json) : Json :=
  typed "array" [("items", schema), ("minItems", .number (.int 1)), ("uniqueItems", .bool true)]

/-- The properties that all drafts describe alike, given the names of what counts and of lists of
texts. -/
def common (count countFromZero : String) : List (String × Json) :=
  [("$schema", textOf "uri"), ("title", ofType "string"), ("description", ofType "string"),
   ("maximum", ofType "number"), ("minimum", ofType "number"),
   ("maxLength", defined count), ("minLength", defined countFromZero),
   ("pattern", textOf "regex"), ("items", either whole (defined "schemaArray")),
   ("maxItems", defined count), ("minItems", defined countFromZero),
   ("uniqueItems", ofType "boolean"), ("maxProperties", defined count),
   ("minProperties", defined countFromZero), ("required", defined "stringArray"),
   ("definitions", membersOf whole), ("properties", membersOf whole),
   ("dependencies", membersOf (either whole (defined "stringArray"))),
   ("type", either (defined "simpleTypes") (someDistinct (defined "simpleTypes"))),
   ("format", ofType "string"), ("allOf", defined "schemaArray"), ("anyOf", defined "schemaArray"),
   ("oneOf", defined "schemaArray"), ("not", whole)]

/-- The definitions of a draft. -/
def definitions (count countFromZero : String) (texts : Json) : Json :=
  object
    [("schemaArray", someOf whole), (count, typed "integer" [("minimum", .number (.int 0))]),
     (countFromZero, object [("allOf", .list [defined count, object []])]),
     ("simpleTypes", typeNames), ("stringArray", texts)]

/-- The schema of the fourth draft. -/
def fourth : Json :=
  let count := "positiveInteger"
  let fromZero := "positiveIntegerDefault0"
  let limited := either (ofType "boolean") whole
  let more : List (String × Json) :=
    [("id", ofType "string"), ("exclusiveMaximum", ofType "boolean"),
     ("exclusiveMinimum", ofType "boolean"),
     ("multipleOf",
      typed "number" [("minimum", .number (.int 0)), ("exclusiveMinimum", .bool true)]),
     ("additionalItems", limited), ("additionalProperties", limited),
     ("patternProperties", membersOf whole), ("enum", ofType "array")]
  typed "object"
    [("id", .text "http://json-schema.org/draft-04/schema#"),
     ("definitions", definitions count fromZero (someDistinct (ofType "string"))),
     ("properties", object (common count fromZero ++ more)),
     ("dependencies", object
       [("exclusiveMaximum", .list [.text "maximum"]),
        ("exclusiveMinimum", .list [.text "minimum"])])]

/-- What the sixth draft describes beside the common properties. -/
def sinceSixth : List (String × Json) :=
  [("$id", textOf "uri-reference"), ("$ref", textOf "uri-reference"),
   ("examples", ofType "array"),
   ("multipleOf", typed "number" [("exclusiveMinimum", .number (.int 0))]),
   ("exclusiveMaximum", ofType "number"), ("exclusiveMinimum", ofType "number"),
   ("additionalItems", whole), ("contains", whole), ("additionalProperties", whole),
   ("propertyNames", whole), ("enum", ofType "array")]

/-- The schema of a draft from the sixth on, with the properties that it describes alone. -/
def later (id : String) (more : List (String × Json)) : Json :=
  let count := "nonNegativeInteger"
  let fromZero := "nonNegativeIntegerDefault0"
  object
    [("$id", .text id), ("type", .list [.text "object", .text "boolean"]),
     ("definitions", definitions count fromZero
       (distinct (ofType "string"))),
     ("properties", object (common count fromZero ++ sinceSixth ++ more))]

/-- The schema of the sixth draft. -/
def sixth : Json :=
  later "http://json-schema.org/draft-06/schema#" [("patternProperties", membersOf whole)]

/-- The schema of the seventh draft. -/
def seventh : Json :=
  later "http://json-schema.org/draft-07/schema#"
    [("$comment", ofType "string"), ("readOnly", ofType "boolean"),
     ("patternProperties", typed "object"
       [("additionalProperties", whole), ("propertyNames", object [("format", .text "regex")])]),
     ("if", whole), ("then", whole), ("else", whole),
     ("contentMediaType", ofType "string"), ("contentEncoding", ofType "string")]

end Language

/-- The schema that the schemas of a draft follow. -/
def Draft.language : Draft → Json
  | .fourth => Language.fourth
  | .sixth => Language.sixth
  | .seventh => Language.seventh

end Workflow.Schema
