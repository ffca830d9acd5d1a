import Workflow.Schema.Place

/-!
# Reading schemas

`Schema.read` reads a schema from JSON, in a draft and relative to an address.  Each keyword is read
to a `Piece` by itself; `ruleOf` makes a rule of a piece once the neighbours of the keyword are
known.  What is wrong with a keyword counts only if a rule needs the keyword, and the first keyword
in order that has something wrong gives the complaint.  Keywords that a draft does not know ask for
nothing.
-/

namespace Workflow.Schema

/-- What reading comes to: a result, or the complaint about what is no schema. -/
abbrev Result := Except String

/-- What a keyword amounts to before its neighbours are known. -/
inductive Piece where
  | rule (rule : Rule)
  | known (properties : List (String × Schema))
  | matching (patterns : List (Text.Matcher × Schema))
  | one (schema : Schema)
  | idle

/-- A keyword and what it amounts to. -/
abbrev Pieces := List (String × Result Piece)

/-! ## Keywords without schemas -/

/-- A count: an integer that is not negative. -/
def count : Json → Result Nat
  | .number (.int n) => if n ≥ 0 then .ok n.toNat else .error (noCount (.number (.int n)))
  | value => .error (noCount value)

/-- A limit of a count. -/
def countPiece (make : Nat → Rule) (value : Json) : Result Piece :=
  (count value).map fun n => .rule (make n)

/-- A limit of a number. -/
def boundPiece (kind : Bound) : Json → Result Piece
  | .number limit => .ok (.rule (.bound kind limit))
  | value => .error (wrongType [.number] value)

/-- The texts of a list of texts. -/
def texts : List Json → Result (List String)
  | [] => .ok []
  | .text name :: rest => (texts rest).map (name :: ·)
  | value :: _ => .error (wrongType [.string] value)

/-- The rule of names that are required. -/
def requiredRule : Json → Result Rule
  | .list items => (texts items).map .required
  | value => .error (wrongType [.array] value)

/-- The names of the types as values. -/
def typeNames : List Json :=
  JsonType.all.map fun type_ => .text type_.label

/-- The types of a list of names. -/
def typesOf : List Json → Result (List JsonType)
  | [] => .ok []
  | .text name :: rest =>
    match JsonType.ofLabel? name with
    | some found => (typesOf rest).map (found :: ·)
    | none => .error (notListed typeNames (.text name))
  | value :: _ => .error (wrongType [.string] value)

/-- The type of a name that stands alone. -/
def typeOf (name : String) : Result (List JsonType) :=
  match JsonType.ofLabel? name with
  | some found => .ok [found]
  | none => .error noSchema

/-- The types that a schema asks for. -/
def types : Json → Result (List JsonType)
  | .text name | .list [.text name] => typeOf name
  | .list items => (typesOf items).map fun found => JsonType.all.filter found.contains
  | value => .error (wrongType [.array, .string] value)

/-- A piece of a text. -/
def textPiece (make : String → Result Piece) : Json → Result Piece
  | .text text => make text
  | value => .error (wrongType [.string] value)

/-- The piece of a pattern. -/
def patternPiece (text : String) : Result Piece :=
  match Text.Matcher.ofAsciiText? text with
  | some matcher => .ok (.rule (.pattern text matcher))
  | none => .error (wrongFormat "regex" (.text text))

/-- The piece of a format; a format that the draft does not know asks for nothing. -/
def formatPiece (draft : Draft) (name : String) : Result Piece :=
  match (TextFormat.ofLabel? name).filter draft.knowsFormat with
  | some format => .ok (.rule (.format format))
  | none => .ok .idle

/-- The piece of a divisor. -/
def divisorPiece : Json → Result Piece
  | .number n => .ok (.rule (.multiple n.toFloat))
  | value => .error (wrongType [.number] value)

/-- The only encoding of bytes that is looked at. -/
def base64 : String := "base64"

/-- The only type of documents that is looked at. -/
def jsonMedia : String := "application/json"

/-- The piece of a keyword that holds no schema. -/
def plainPiece (draft : Draft) (keyword : String) (value : Json) : Result Piece :=
  match keyword with
  | "type" => (types value).map fun wanted => .rule (.types (draft == .fourth) wanted)
  | "enum" =>
    match value with
    | .list values => .ok (.rule (.options values))
    | value => .error (wrongType [.array] value)
  | "const" => .ok (.rule (.value value))
  | "minimum" => boundPiece .least value
  | "maximum" => boundPiece .most value
  | "exclusiveMinimum" => boundPiece .above value
  | "exclusiveMaximum" => boundPiece .below value
  | "multipleOf" => divisorPiece value
  | "minLength" => countPiece (.atLeast .characters) value
  | "maxLength" => countPiece (.atMost .characters) value
  | "minItems" => countPiece (.atLeast .items) value
  | "maxItems" => countPiece (.atMost .items) value
  | "minProperties" => countPiece (.atLeast .properties) value
  | "maxProperties" => countPiece (.atMost .properties) value
  | "pattern" => textPiece patternPiece value
  | "format" => textPiece (formatPiece draft) value
  | "uniqueItems" => .ok (if value == .bool true then .rule .distinct else .idle)
  | "required" => (requiredRule value).map .rule
  | "contentEncoding" =>
    textPiece (fun name => .ok (if name = base64 then .rule .encoded else .idle)) value
  | "contentMediaType" =>
    textPiece (fun name => .ok (if name = jsonMedia then .rule (.document false) else .idle)) value
  | _ => .ok .idle

/-! ## Rules of pieces -/

/-- The properties of a piece. -/
def Piece.properties : Piece → List (String × Schema)
  | .known properties => properties
  | _ => []

/-- The patterns of a piece. -/
def Piece.patterns : Piece → List (Text.Matcher × Schema)
  | .matching patterns => patterns
  | _ => []

/-- The schema of a piece. -/
def Piece.schema : Piece → Schema
  | .one schema => schema
  | _ => always

/-- Whether unknown properties are restricted, so that the keyword that restricts them also looks at
the known ones. -/
def restricts (members : List (String × Json)) : Bool :=
  match Assoc.get? members "additionalProperties" with
  | some (.bool false) | some (.record _) => true
  | _ => false

/-- What a neighbour amounts to, if it is there. -/
def neighbour (pieces : Pieces) (keyword : String) : Result (Option Piece) :=
  match Assoc.get? pieces keyword with
  | some found => found.map some
  | none => .ok none

/-- The rule of the properties that are not known. -/
def othersRule (pieces : Pieces) (others : Schema) : Result (Option Rule) := do
  let patterns := (← neighbour pieces "patternProperties").map Piece.patterns
  let known := (← neighbour pieces "properties").map Piece.properties
  match others, known, patterns with
  | .always, _, _ => return none
  | .never, none, none => return some .bare
  | .never, known, patterns => return some (.closed (known.getD []) (patterns.getD []))
  | others, known, patterns => return some (.rest (known.getD []) (patterns.getD []) others)

/-- The rule of the items after the first few. -/
def beyondRule (members : List (String × Json)) (value : Json) (schema : Schema) :
    Result (Option Rule) :=
  match Assoc.get? members "items" with
  | some (.list items) =>
    match schema with
    | .always => .ok none
    | .never => .ok (some (.only items.length))
    | schema => .ok (some (.beyond items.length schema))
  | some (.bool false) => .ok (some (.allOf [never]))
  | none | some (.record _) | some (.bool true) => .ok none
  | _ => .error (wrongType [.array, .boolean, .object] value)

/-- The rule of a test whose outcome matters. -/
def branchRule (pieces : Pieces) (test : Result Piece) : Result (Option Rule) := do
  let whenTrue := Assoc.get? pieces "then"
  let whenFalse := Assoc.get? pieces "else"
  if whenTrue.isNone && whenFalse.isNone then return none
  else
    let test ← test
    let whenTrue ← whenTrue.getD (.ok .idle)
    let whenFalse ← whenFalse.getD (.ok .idle)
    return some (.branch test.schema whenTrue.schema whenFalse.schema)

/-- The rule of a type of documents beside an encoding. -/
def mediaRule (members : List (String × Json)) (piece : Piece) : Result (Option Rule) :=
  match piece, Assoc.get? members "contentEncoding" with
  | .rule rule, none => .ok (some rule)
  | .rule _, some (.text name) => .ok (if name = base64 then some (.document true) else none)
  | .rule _, some value => .error (wrongType [.string] value)
  | _, _ => .ok none

/-- The rule of a piece without neighbours. -/
def Piece.plainRule : Piece → Option Rule
  | .rule found => some found
  | .known properties => some (.properties properties)
  | .matching patterns => some (.matching patterns)
  | .one _ | .idle => none

/-- Whether the limit of a keyword is excluded by a flag beside it, as in the fourth draft. -/
def isExclusive (draft : Draft) (members : List (String × Json)) (flag : String) : Bool :=
  draft == .fourth && Assoc.get? members flag == some (.bool true)

/-- The rule of a keyword among its neighbours. -/
def ruleOf (draft : Draft) (members : List (String × Json)) (pieces : Pieces) (keyword : String)
    (piece : Result Piece) : Result (Option Rule) :=
  let value := (Assoc.get? members keyword).getD .null
  match keyword with
  | "properties" | "patternProperties" =>
    if restricts members then .ok none else piece.map Piece.plainRule
  | "additionalProperties" => do othersRule pieces (← piece).schema
  | "additionalItems" =>
    if Assoc.has members "items" then do beyondRule members value (← piece).schema else .ok none
  | "if" => branchRule pieces piece
  | "then" | "else" => .ok none
  | "contentMediaType" => do mediaRule members (← piece)
  | "contentEncoding" =>
    if Assoc.has members "contentMediaType" then .ok none else piece.map Piece.plainRule
  | "minimum" =>
    if isExclusive draft members "exclusiveMinimum" then
      (boundPiece .above value).map Piece.plainRule
    else piece.map Piece.plainRule
  | "maximum" =>
    if isExclusive draft members "exclusiveMaximum" then
      (boundPiece .below value).map Piece.plainRule
    else piece.map Piece.plainRule
  | _ => piece.map Piece.plainRule

/-- The rules of keywords, in their order. -/
def assemble (draft : Draft) (members : List (String × Json)) (pieces : Pieces) :
    Result (List Rule) := do
  let rules ← pieces.mapM fun (keyword, piece) => ruleOf draft members pieces keyword piece
  return rules.filterMap id

/-! ## Schemas -/

/-- The address that an address names relative to another. -/
def joined (scope : Address) (target : String) : Result Address :=
  match Address.parse? (some scope) target with
  | some address => .ok address
  | none => .error noAddress

/-- The address that references in an object are relative to. -/
def scopeOf (draft : Draft) (scope : Address) (members : List (String × Json)) : Result Address :=
  match draft.idOf? (.record members) with
  | some id => joined scope id
  | none => .ok scope

/-- The schema that stands for all others where a keyword refers to one. -/
def referenceOf? (scope : Address) (members : List (String × Json)) : Option (Result Schema) :=
  (Assoc.get? members "$ref").map fun
    | .text target => (joined scope target).map reference
    | _ => .ok (rules [])

/-- The matcher of a pattern of names, which stands for a schema. -/
def nameMatcher (pattern : String) (schema : Json) : Result Text.Matcher :=
  match Text.Matcher.ofText? pattern with
  | some matcher => .ok matcher
  | none => .error (wrongFormat "regex" schema)

/-- Whether a value is a schema that can ask for something. -/
def canRestrict : Json → Bool
  | .record _ | .bool false => true
  | _ => false

mutual

/-- Read a schema, in a draft and relative to an address. -/
def read (draft : Draft) (scope : Address) : Json → Result Schema
  | .bool allowed => .ok (if allowed then always else never)
  | .record members => do
    let scope ← scopeOf draft scope members
    let pieces := piecesOf draft scope members
    match referenceOf? scope members with
    | some found => found
    | none => return rules (← assemble draft members pieces)
  | value => .error (wrongType [.boolean, .object] value)

/-- Read the keywords of a schema. -/
def piecesOf (draft : Draft) (scope : Address) : List (String × Json) → Pieces
  | [] => []
  | (keyword, value) :: others =>
    let piece :=
      if draft.knows keyword then
        pieceOf draft scope keyword (fun _ => read draft scope value) value
      else .ok .idle
    (keyword, piece) :: piecesOf draft scope others

/-- Read a keyword; `schema` is the schema that its value is if it is one. -/
def pieceOf (draft : Draft) (scope : Address) (keyword : String) (schema : Unit → Result Schema)
    (value : Json) : Result Piece :=
  match keyword with
  | "items" =>
    match value with
    | .list items => (readAll draft scope items).map fun schemas => .rule (.places schemas)
    | _ =>
      if canRestrict value then (schema ()).map fun found => .rule (.each found)
      else .ok .idle
  | "additionalItems" =>
    if canRestrict value then (schema ()).map .one else .ok .idle
  | "additionalProperties" | "if" | "then" | "else" => (schema ()).map .one
  | "contains" => (schema ()).map fun found => .rule (.contains found)
  | "properties" =>
    match value with
    | .record members => (readMembers draft scope members).map .known
    | _ => .error (wrongType [.object] value)
  | "patternProperties" =>
    match value with
    | .record members => (readPatterns draft scope members).map .matching
    | _ => .error (wrongType [.object] value)
  | "dependencies" =>
    match value with
    | .record members =>
      (readDependents draft scope members).map fun schemas => .rule (.dependents schemas)
    | _ => .error (wrongType [.object] value)
  | "propertyNames" =>
    if canRestrict value then (schema ()).map fun
      | .never => .rule .nameless
      | found => .rule (.names found)
    else .ok .idle
  | "allOf" =>
    match value with
    | .list items => (readAll draft scope items).map fun schemas => .rule (.allOf schemas)
    | _ => .error (wrongType [.array] value)
  | "anyOf" =>
    match value with
    | .list items => (readAll draft scope items).map fun schemas => .rule (.anyOf schemas)
    | _ => .error (wrongType [.array] value)
  | "oneOf" =>
    match value with
    | .list items => (readAll draft scope items).map fun schemas => .rule (.oneOf schemas)
    | _ => .error (wrongType [.array] value)
  | "not" => (schema ()).map fun found => .rule (.exclude value.render found)
  | _ => plainPiece draft keyword value

/-- Read schemas. -/
def readAll (draft : Draft) (scope : Address) : List Json → Result (List Schema)
  | [] => .ok []
  | item :: rest => do return (← read draft scope item) :: (← readAll draft scope rest)

/-- Read named schemas. -/
def readMembers (draft : Draft) (scope : Address) :
    List (String × Json) → Result (List (String × Schema))
  | [] => .ok []
  | (name, value) :: rest => do
    return (name, ← read draft scope value) :: (← readMembers draft scope rest)

/-- Read schemas with patterns of names. -/
def readPatterns (draft : Draft) (scope : Address) :
    List (String × Json) → Result (List (Text.Matcher × Schema))
  | [] => .ok []
  | (name, value) :: rest => do
    let matcher ← nameMatcher name value
    return (matcher, ← read draft scope value) :: (← readPatterns draft scope rest)

/-- Read what properties ask of the whole: a schema, or the names of further properties. -/
def readDependents (draft : Draft) (scope : Address) :
    List (String × Json) → Result (List (String × Schema))
  | [] => .ok []
  | (name, .list items) :: rest => do
    let rule ← requiredRule (.list items)
    return (name, rules [rule]) :: (← readDependents draft scope rest)
  | (name, value) :: rest => do
    return (name, ← read draft scope value) :: (← readDependents draft scope rest)

end

end Workflow.Schema
