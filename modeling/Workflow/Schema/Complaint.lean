import Workflow.Decimal.Remainder
import Workflow.Json.Document
import Workflow.Schema.Reading
import Workflow.Text.Encoding

/-!
# What a schema does not allow

`Schema.complaints` tells everything about a value that a schema does not allow, rule by rule.  A
reference to another place is followed through a function, so the recursion is on the schema;
`Library.complaints` ties the knot.
-/

namespace Workflow.Schema

/-- The number of what a measure counts, if a value has it. -/
def Measure.of? : Measure → Json → Option Nat
  | .characters, .text text => some text.length
  | .items, .list items => some items.length
  | .properties, .record members => some members.length
  | _, _ => none

/-- Whether a number is beyond a limit. -/
def isBeyond (kind : Bound) (limit n : Number) : Bool :=
  match kind, compareNumbers n limit with
  | .least, .lt | .most, .gt => true
  | .above, .lt | .above, .eq => true
  | .below, .gt | .below, .eq => true
  | _, _ => false

/-- The room that numbers leave for rounding. -/
def tolerance : Float := 2.220446049250313e-16

/-- Whether a value is the one that is expected.  Numbers by themselves may differ by rounding. -/
def agrees : (expected value : Json) → Bool
  | .number a, .number b => (a.toFloat - b.toFloat).abs < tolerance
  | expected, value => same expected value

/-- Whether a double is a whole multiple of another as decimals, each with the fewest digits that
identify it. -/
def isDecimalMultiple (n divisor : Float) : Bool :=
  let a := (Decimal.Binary.ofDouble n).shortest .toEven
  let b := (Decimal.Binary.ofDouble divisor).shortest .toEven
  let shift := a.exponent - b.exponent
  a.digits * Nat.pow 10 shift.toNat % (b.digits * Nat.pow 10 (-shift).toNat) = 0

/-- Whether a number is a multiple of another.  A divisor with a fraction leaves room for rounding;
where the quotient is too large for doubles, decimals are divided. -/
def isMultiple (n divisor : Float) : Bool :=
  if divisor.floor == divisor then n.floor == n && Decimal.floatRemainder n divisor == 0
  else
    let remainder := Decimal.floatRemainder (n / divisor) 1.0
    if remainder.isNaN then isDecimalMultiple n divisor else remainder < tolerance

/-- What is wrong with a text that should stand for bytes, if something is. -/
def encodingComplaint? (text : String) : Option String :=
  if (Text.Base64.decode? text.toList).isSome then none
  else some (notCompliant base64 "content encoding" (.text text))

/-- What is wrong with bytes that are no text. -/
def brokenText (bytes : List UInt8) : String :=
  let (read, left) := Utf8.decode bytes
  let place := (Utf8.encode (String.ofList read)).length
  let length := Utf8.brokenLength left
  if Utf8.isCutOff left then
    s!"incomplete utf-8 byte sequence from index {place}"
  else s!"invalid utf-8 sequence of {length} bytes from index {place}"

/-- What is wrong with a text that should be a JSON document, if something is. -/
def documentComplaint? (encoded : Bool) (text : String) : Option String :=
  let tell := fun (content : String) =>
    if (Json.parse? content).isSome then none
    else some (notCompliant jsonMedia "media type" (.text text))
  if encoded then
    match Text.Base64.decode? text.toList with
    | none => encodingComplaint? text
    | some bytes =>
      let (read, left) := Utf8.decode bytes
      if left.isEmpty then tell (String.ofList read) else some (brokenText bytes)
  else tell text

/-- What is wrong with a text that a pattern should match, if something is. -/
def patternComplaint? (pattern : String) (matcher : Text.Matcher) (text : String) :
    Option String :=
  match matcher.search text with
  | .found => none
  | .absent => some ((Json.text text).render ++ " does not match \"" ++ pattern ++ "\"")
  | .exhausted => some givenUp

/-- The items of an array; none if the value is something else. -/
def itemsOf : Json → List Json
  | .list items => items
  | _ => []

/-- The members of an object; none if the value is something else. -/
def membersOf : Json → List (String × Json)
  | .record members => members
  | _ => []

/-- The complaint about properties that are neither known nor have schemas by their names, given
what schemas say about each property. -/
def strange (found : List (String × Option (List String))) : List String :=
  let names := (found.filter (·.2.isNone)).map (·.1)
  if names.isEmpty then []
  else [unexpected "properties" (names.map fun name => "'" ++ name ++ "'")]

/-- The complaints of two schemas that may both concern a property; nothing if neither does. -/
def together : Option (List String) → Option (List String) → Option (List String)
  | none, none => none
  | a, b => some (a.getD [] ++ b.getD [])

section

variable (follow : Address → Json → List String)

mutual

/-- What a schema does not allow about a value; `follow` tells it of schemas at other places. -/
def complaints : Schema → Json → List String
  | always, _ => []
  | never, value => [refused value]
  | rules asked, value => complaintsOfRules asked value
  | reference target, value => follow target value

/-- What rules do not allow about a value. -/
def complaintsOfRules : List Rule → Json → List String
  | [], _ => []
  | rule :: rest, value => complaintsOfRule rule value ++ complaintsOfRules rest value

/-- What a rule does not allow about a value. -/
def complaintsOfRule : Rule → Json → List String
  | .types strict wanted, value =>
    if wanted.any (·.has strict value) then [] else [wrongType wanted value]
  | .options values, value =>
    if values.any (same value) then [] else [notListed values value]
  | .value expected, value =>
    if agrees expected value then [] else [expected.render ++ " was expected"]
  | .bound kind limit, value =>
    match value with
    | .number n => if isBeyond kind limit n then [tooFar kind limit n] else []
    | _ => []
  | .multiple divisor, value =>
    match value with
    | .number n => if isMultiple n.toFloat divisor then [] else [notMultiple n divisor]
    | _ => []
  | .atLeast measure limit, value =>
    match Measure.of? measure value with
    | some n => if n < limit then [tooSmall measure limit value] else []
    | none => []
  | .atMost measure limit, value =>
    match Measure.of? measure value with
    | some n => if n > limit then [tooLarge measure limit value] else []
    | none => []
  | .pattern pattern matcher, value =>
    match value with
    | .text text => (patternComplaint? pattern matcher text).toList
    | _ => []
  | .format format, value =>
    match value with
    | .text text => if format.admits text then [] else [wrongFormat format.label value]
    | _ => []
  | .encoded, value =>
    match value with
    | .text text => (encodingComplaint? text).toList
    | _ => []
  | .document encoded, value =>
    match value with
    | .text text => (documentComplaint? encoded text).toList
    | _ => []
  | .distinct, value =>
    if repeats (itemsOf value) then [value.render ++ " has non-unique elements"] else []
  | .each schema, value => (itemsOf value).flatMap (complaints schema)
  | .places schemas, value => complaintsOfPlaces schemas (itemsOf value)
  | .beyond places schema, value => ((itemsOf value).drop places).flatMap (complaints schema)
  | .only places, value =>
    let more := (itemsOf value).drop places
    if more.isEmpty then [] else [unexpected "items" (more.map Json.render)]
  | .contains schema, value =>
    match value with
    | .list items =>
      if items.any fun item => (complaints schema item).isEmpty then []
      else ["None of " ++ value.render ++ " are valid under the given schema"]
    | _ => []
  | .required names, value =>
    match value with
    | .record members =>
      (names.filter fun name => !Assoc.has members name).map fun name =>
        (Json.text name).render ++ " is a required property"
    | _ => []
  | .properties known, value => complaintsOfKnown known (membersOf value)
  | .matching patterns, value => complaintsOfMatching patterns (membersOf value)
  | .bare, value => ((membersOf value).head?.map fun member => refused member.2).toList
  | .closed known patterns, value =>
    let found := (membersOf value).map fun member =>
      (member.1, together (complaintsOfNamed known member.1 member.2)
        (complaintsOfPatterned patterns member.1 member.2))
    found.flatMap (·.2.getD []) ++ strange found
  | .rest known patterns others, value =>
    (membersOf value).flatMap fun member =>
      (together (complaintsOfNamed known member.1 member.2)
        (complaintsOfPatterned patterns member.1 member.2)).getD (complaints others member.2)
  | .names schema, value =>
    (membersOf value).flatMap fun member => complaints schema (.text member.1)
  | .nameless, value => if (membersOf value).isEmpty then [] else [refused value]
  | .dependents schemas, value => complaintsOfDependents schemas value
  | .allOf schemas, value => complaintsOfAll schemas value
  | .anyOf schemas, value =>
    if countAllowed schemas value > 0 then [] else [noneAllows "anyOf" value]
  | .oneOf schemas, value =>
    match countAllowed schemas value with
    | 0 => [noneAllows "oneOf" value]
    | 1 => []
    | _ => [severalAllow "oneOf" value]
  | .exclude text schema, value =>
    if (complaints schema value).isEmpty then [text ++ " is not allowed for " ++ value.render]
    else []
  | .branch test whenTrue whenFalse, value =>
    if (complaints test value).isEmpty then complaints whenTrue value
    else complaints whenFalse value

/-- What schemas do not allow about the items in their places. -/
def complaintsOfPlaces : List Schema → List Json → List String
  | schema :: schemas, item :: items =>
    complaints schema item ++ complaintsOfPlaces schemas items
  | _, _ => []

/-- What the schemas of known properties do not allow about an object. -/
def complaintsOfKnown : List (String × Schema) → List (String × Json) → List String
  | [], _ => []
  | (name, schema) :: rest, members =>
    (match Assoc.get? members name with
      | some value => complaints schema value
      | none => []) ++ complaintsOfKnown rest members

/-- What the schemas of properties with names of a pattern do not allow about an object. -/
def complaintsOfMatching : List (Text.Matcher × Schema) → List (String × Json) → List String
  | [], _ => []
  | (matcher, schema) :: rest, members =>
    (members.filter fun member => matcher.occursIn member.1).flatMap
      (fun member => complaints schema member.2) ++ complaintsOfMatching rest members

/-- What the schema of a known property does not allow about its value; nothing if the property is
not known. -/
def complaintsOfNamed : List (String × Schema) → String → Json → Option (List String)
  | [], _, _ => none
  | (known, schema) :: rest, name, value =>
    if known = name then some (complaints schema value) else complaintsOfNamed rest name value

/-- What the schemas of a name's patterns do not allow about its value; nothing if there are
none. -/
def complaintsOfPatterned : List (Text.Matcher × Schema) → String → Json → Option (List String)
  | [], _, _ => none
  | (matcher, schema) :: rest, name, value =>
    if matcher.occursIn name then
      some (complaints schema value ++ (complaintsOfPatterned rest name value).getD [])
    else complaintsOfPatterned rest name value

/-- What the schemas that come with some properties do not allow about a value. -/
def complaintsOfDependents : List (String × Schema) → Json → List String
  | [], _ => []
  | (name, schema) :: rest, value =>
    (if Assoc.has (membersOf value) name then complaints schema value else [])
      ++ complaintsOfDependents rest value

/-- What several schemas do not allow about a value. -/
def complaintsOfAll : List Schema → Json → List String
  | [], _ => []
  | schema :: rest, value => complaints schema value ++ complaintsOfAll rest value

/-- How many schemas allow a value. -/
def countAllowed : List Schema → Json → Nat
  | [], _ => 0
  | schema :: rest, value =>
    (if (complaints schema value).isEmpty then 1 else 0) + countAllowed rest value

end

end

/-! ## References -/

/-- What the schema of an address does not allow about a value, along chains of so many
references. -/
def Library.followed (library : Library) : Nat → Address → Json → List String
  | 0, _, _ => []
  | fuel + 1, target, value =>
    let found := do
      let (base, schema) ← library.find target
      read library.draft base schema
    match found with
    | .ok schema => complaints (library.followed fuel) schema value
    | .error complaint => [complaint]

/-- The number of characters of all documents of a library. -/
def Library.size (library : Library) : Nat :=
  library.documents.foldl (fun total entry => total + entry.2.render.length) 0

/-- What a schema does not allow about a value.  Chains of references that do not run in a circle
lead deeper into the value each time they come back to a place. -/
def Library.complaints (library : Library) (schema : Schema) (value : Json) : List String :=
  let longest := (library.size + 1) * (value.render.length + 1)
  Schema.complaints (library.followed longest) schema value

end Workflow.Schema
