import Workflow.Json.Document
import Workflow.Width
import Workflow.Wire.Fault

/-!
# Decoders

A `Decoder` reads a value off a document and names the first fault otherwise.  Members are looked at
in the written order: the first member that is wrong decides, and only when none is wrong the first
absent one, in the order of declaration.

`Fields` describes the members of a record, `record` decodes by such a description, from an object
or from a list of the members in declaration order.  `variant` decodes a name, `tagged` a record
whose alternative is named by one of its members.

A decoder works at a `Place`, since a text that is still being read is refused where it nests too
deep, and says less about what it found, than a value that was read before.
-/

namespace Workflow.Wire

/-- Where the document comes from. -/
inductive Origin where
  /-- A value that was read before. -/
  | value
  /-- A text that is being read. -/
  | text
  /-- Members set aside while their alternative was being looked for. -/
  | setAside
deriving DecidableEq, Repr

/-- The circumstances of a decoder's work. -/
structure Place where
  origin : Origin
  /-- How many more levels the document may nest. -/
  room : Nat

/-- A reader of values off documents. -/
abbrev Decoder (α : Type) := Place → Document → Except Fault α

/-- What stands at a document's root; nothing if that cannot be read. -/
def found? : Document → Option Found
  | .broken => none
  | .null => some .null
  | .bool value => some (.bool value)
  | .number value => value.map .number
  | .text value => value.map .text
  | .list .. => some .list
  | .record .. => some .record

/-- The fault of a document that is not what was expected. -/
def mistyped (document : Document) (expected : String) : Fault :=
  match found? document with
  | some found => .mistyped found expected
  | none => .unreadable

/-- Step into a list or record. -/
def Place.inside (place : Place) : Except Fault Place :=
  match place.origin, place.room with
  | .text, 0 => .error .unreadable
  | .text, room + 1 => .ok { place with room := room }
  | _, _ => .ok place

namespace Decoder

variable {α β : Type}

/-- Decode and change the result. -/
def map (f : α → β) (decoder : Decoder α) : Decoder β :=
  fun place document => (decoder place document).map f

/-- Any value at all. -/
def json : Decoder Json := fun place document =>
  let room := match place.origin with
    | .text => place.room
    | _ => document.depth
  match document.toJson? room with
  | some value => .ok value
  | none => .error .unreadable

/-- A string. -/
def string : Decoder String
  | _, .text (some value) => .ok value
  | _, document => .error (mistyped document "a string")

/-- A boolean. -/
def bool : Decoder Bool
  | _, .bool value => .ok value
  | _, document => .error (mistyped document "a boolean")

/-- A natural number below a bound, which `expected` names. -/
def natBelow (bound : Nat) (expected : String) : Decoder Nat
  | _, .number (some (.int value)) =>
    if 0 ≤ value && value < bound then .ok value.toNat
    else .error (.disallowed (.number (.int value)) expected)
  | _, document => .error (mistyped document expected)

/-- A natural number of 32 bits. -/
def nat32 : Decoder Nat := natBelow (Width.span 32) "u32"

/-- A natural number of 64 bits. -/
def nat64 : Decoder Nat := natBelow (Width.span 64) "u64"

/-- A count or position. -/
def size : Decoder Nat := natBelow (Width.span 64) "usize"

/-- A number in single precision. -/
def single : Decoder Float32
  | _, .number (some value) => .ok value.toFloat.toFloat32
  | _, document => .error (mistyped document "f32")

/-- A value, or `null` for none. -/
def optional (decoder : Decoder α) : Decoder (Option α)
  | _, .null => .ok none
  | place, document => (decoder place document).map some

/-- The items of a list, each by the same decoder. -/
def items (decoder : Decoder α) (place : Place) : List Document → Except Fault (List α)
  | [] => .ok []
  | item :: rest =>
    match decoder place item with
    | .error fault => .error fault
    | .ok value => (items decoder place rest).map (value :: ·)

/-- A list. -/
def list (decoder : Decoder α) : Decoder (List α)
  | place, .list documents closed => do
    let place ← place.inside
    let values ← items decoder place documents
    if closed then .ok values else .error .unreadable
  | _, document => .error (mistyped document "a sequence")

/-- The members of an object, each by the same decoder; the last of a repeated name stands. -/
def members (decoder : Decoder α) (place : Place) (sofar : Assoc α) :
    List (Option String × Document) → Except Fault (Assoc α)
  | [] => .ok sofar
  | (none, _) :: _ => .error .unreadable
  | (some name, document) :: rest =>
    match decoder place document with
    | .error fault => .error fault
    | .ok value => members decoder place (sofar.insert name value) rest

/-- An object with arbitrary names. -/
def assoc (decoder : Decoder α) : Decoder (Assoc α)
  | place, .record documents closed => do
    let place ← place.inside
    let values ← members decoder place [] documents
    if closed then .ok values else .error .unreadable
  | _, document => .error (mistyped document "a map")

/-- A name out of a list of known ones. -/
def name (known : List (String × α)) (s : String) : Except Fault α :=
  match known.find? fun entry => entry.1 = s with
  | some entry => .ok entry.2
  | none => .error (.unknownVariant s (known.map (·.1)))

/-- The value of a known name: a string, or an object with the name as its only member and `null`
as that member's value. -/
def variant (known : List (String × α)) : Decoder α
  | _, .text (some s) => name known s
  | place, .record [(some s, document)] closed =>
    match place.inside, name known s with
    | .error fault, _ => .error fault
    | _, .error fault => .error fault
    | _, .ok value =>
      match document with
      | .null => if closed then .ok value else .error .unreadable
      | document => .error (mistyped document "unit")
  | place, .record members _ =>
    if place.origin = .text then
      match members with
      | (some s, _) :: _ => (name known s).bind fun _ => .error .unreadable
      | _ => .error .unreadable
    else .error (.disallowed .record "map with a single key")
  | place, document =>
    if place.origin = .text then .error .unreadable
    else .error (mistyped document "string or map")

end Decoder

/-- The outcome of looking for some members of a record. -/
inductive Reading (α : Type) where
  | ok (value : α)
  /-- A member is absent. -/
  | absent (fault : Fault)
  /-- The member at a position is wrong. -/
  | wrong (position : Nat) (fault : Fault)

namespace Reading

variable {α β : Type}

/-- Of two readings of one record, the earlier wrong member decides, then the first absent one. -/
def both : Reading (α → β) → Reading α → Reading β
  | wrong i f, wrong j g => if i ≤ j then wrong i f else wrong j g
  | wrong i f, _ => wrong i f
  | _, wrong j g => wrong j g
  | absent f, _ => absent f
  | _, absent g => absent g
  | ok f, ok a => ok (f a)

/-- A reading as a result. -/
def toExcept : Reading α → Except Fault α
  | ok value => .ok value
  | absent fault => .error fault
  | wrong _ fault => .error fault

end Reading

/-- A member of an object together with its position. -/
abbrev Placed := Nat × Option String × Document

/-- A description of the members of a record. -/
structure Fields (α : Type) where
  /-- The names under which members are known. -/
  names : List String
  /-- How many members there are. -/
  count : Nat
  /-- Read the members of an object. -/
  ofMembers : Place → List Placed → Reading α
  /-- Read the members from a list, starting at a position. -/
  ofItems : Place → Nat → List Document → Reading α

namespace Fields

variable {α β : Type}

/-- A record without members. -/
def pure (value : α) : Fields α where
  names := []
  count := 0
  ofMembers := fun _ _ => .ok value
  ofItems := fun _ _ _ => .ok value

/-- The members of two descriptions, one after the other. -/
def both (f : Fields (α → β)) (a : Fields α) : Fields β where
  names := f.names ++ a.names
  count := f.count + a.count
  ofMembers := fun place members => (f.ofMembers place members).both (a.ofMembers place members)
  ofItems := fun place position items =>
    (f.ofItems place position items).both
      (a.ofItems place (position + f.count) (items.drop f.count))

/-- One member under any of several names.  `absent` is its value when there is none, `short` its
value when a list of members ends before its position. -/
def oneOf (names : List String) (decoder : Decoder α) (absent : Reading α)
    (short : Nat → Reading α) : Fields α where
  names := names
  count := 1
  ofMembers := fun place members =>
    match members.filter fun member => member.2.1.any names.contains with
    | [] => absent
    | (position, _, document) :: rest =>
      match decoder place document with
      | .error fault => .wrong position fault
      | .ok value =>
        match rest with
        | [] => .ok value
        | (again, _) :: _ => .wrong again (.duplicate (names.headD ""))
  ofItems := fun place position items =>
    match items with
    | [] => short position
    | document :: _ =>
      match decoder place document with
      | .error fault => .wrong position fault
      | .ok value => .ok value

/-- The mark of a list that ends too early; the record's decoder puts its own wording in. -/
def tooShort (position : Nat) : Reading α :=
  .absent (.wrongLength position "")

/-- A member that has to be there. -/
def required (name : String) (decoder : Decoder α) : Fields α :=
  oneOf [name] decoder (.absent (.missing name)) tooShort

/-- A member that has to be there under its name or another one. -/
def requiredAs (name synonym : String) (decoder : Decoder α) : Fields α :=
  oneOf [name, synonym] decoder (.absent (.missing name)) tooShort

/-- A member with a default value. -/
def withDefault (name : String) (decoder : Decoder α) (value : α) : Fields α :=
  oneOf [name] decoder (.ok value) fun _ => .ok value

/-- A member that may be absent or `null`. -/
def optional (name : String) (decoder : Decoder α) : Fields (Option α) :=
  withDefault name decoder.optional none

/-- A member that may be absent or `null` in an object, but has to stand in a list. -/
def nullable (name : String) (decoder : Decoder α) : Fields (Option α) :=
  oneOf [name] decoder.optional (.ok none) tooShort

instance : Functor Fields where
  map f fields := both (pure f) fields

instance : Seq Fields where
  seq f a := both f (a ())

end Fields

/-- The first place where an object cannot be read on, apart from its known members. -/
def firstBreak (known : List String) (members : List Placed) (closed : Bool) : Option Nat :=
  match members.find? fun member =>
      match member.2.1 with
      | none => true
      | some name => !known.contains name && !member.2.2.whole with
  | some member => some member.1
  | none => if closed then none else some members.length

/-- "1 element", "2 elements". -/
def elements (n : Nat) : String :=
  if n = 1 then "1 element" else s!"{n} elements"

/-- Decode a record; `what` names it in messages. -/
def record {α : Type} (what : String) (fields : Fields α) : Decoder α
  | place, .record members closed => do
    let place ← place.inside
    let members := members.zipIdx.map fun (member, position) => (position, member)
    let reading := fields.ofMembers place members
    match reading, firstBreak fields.names members closed with
    | .wrong position fault, some stop =>
      .error (if position ≤ stop then fault else .unreadable)
    | _, some _ => .error .unreadable
    | reading, none => reading.toExcept
  | place, .list items closed => do
    let place ← place.inside
    match fields.ofItems place 0 items with
    | .wrong _ fault => .error fault
    | .absent fault =>
      if !closed then .error .unreadable
      else match fault with
        | .wrongLength length _ =>
          .error (.wrongLength length s!"{what} with {elements fields.count}")
        | fault => .error fault
    | .ok value =>
      if items.length ≤ fields.count then
        if closed then .ok value else .error .unreadable
      else match place.origin with
        | .text => .error .unreadable
        | .value => .error (.wrongLength items.length "fewer elements in array")
        | .setAside =>
          .error (.wrongLength items.length s!"{elements fields.count} in sequence")
  | _, document => .error (mistyped document what)

/-- Whether a member can be set aside: while a text is being read it has to be read strictly. -/
def Place.admits (place : Place) (document : Document) : Bool :=
  if place.origin = .text then (document.toJson? place.room).isSome else document.whole

/-- A record whose alternative is named by the member `tag`.  The other members are set aside until
the alternative is known. -/
def taggedBy {α : Type} (what tag : String) (choose : String → Except Fault (Decoder α)) :
    Decoder α
  | place, .record members closed => do
    let inner ← place.inside
    let positions := members.zipIdx
    let tags := positions.filter fun member => member.1.1 = some tag
    let rest := members.filter fun member => member.1 ≠ some tag
    let broken := !closed || rest.any fun member => member.1.isNone || !inner.admits member.2
    match tags with
    | [] => .error (if broken then .unreadable else .missing tag)
    | ((_, document), _) :: more =>
      let chosen ← match document with
        | .text (some s) => choose s
        | document => .error (mistyped document "variant identifier")
      if !more.isEmpty then .error (.duplicate tag)
      else if broken then .error .unreadable
      else chosen { inner with origin := .setAside } (.record rest true)
  | place, .list items closed => do
    let inner ← place.inside
    match items with
    | [] => .error (if closed then .missing tag else .unreadable)
    | document :: rest =>
      let chosen ← match document with
        | .text (some s) => choose s
        | document => .error (mistyped document "variant identifier")
      if !closed || rest.any (!inner.admits ·) then .error .unreadable
      else chosen { inner with origin := .setAside } (.list rest true)
  | _, document => .error (mistyped document what)

/-- A record whose alternative is named by the member `tag`, one out of a list. -/
def tagged {α : Type} (what tag : String) (alternatives : List (String × Decoder α)) : Decoder α :=
  taggedBy what tag (Decoder.name alternatives)

/-- A record whose alternative is named by the member `tag`; what is named otherwise is decoded by
`other`. -/
def taggedOr {α : Type} (what tag : String) (alternatives : List (String × Decoder α))
    (other : Decoder α) : Decoder α :=
  taggedBy what tag fun name =>
    .ok (((alternatives.find? fun entry => entry.1 = name).map (·.2)).getD other)

/-- An alternative without members: whatever else stands in the record is skipped. -/
def bare {α : Type} (value : α) : Decoder α := fun _ _ => .ok value

/-- Decode a value that was read before. -/
def ofValue {α : Type} (decoder : Decoder α) (value : Json) : Except Fault α :=
  decoder ⟨.value, 0⟩ (Document.ofJson value)

/-- Decode a text while reading it. -/
def ofText {α : Type} (decoder : Decoder α) (s : String) : Except Fault α :=
  let (document, ended) := Document.scan s
  match decoder ⟨.text, Json.maxDepth⟩ document with
  | .error fault => .error fault
  | .ok value => if ended then .ok value else .error .unreadable

end Workflow.Wire
