import Workflow.Json.Basic
import Workflow.Text.Encoding

/-!
# Documents as they are written

`Document.scan` reads a text into the tree that it spells out, member by member in the written
order and with repeated names kept, up to the first place where it is not JSON.  What is wrong with
a text is part of the tree: a place where the grammar breaks off is a `broken` leaf or a list or
record that is not `closed`, while a number outside the doubles or half of a surrogate pair is a
leaf without value, since such text may still be skipped by a reader that does not want it.

`Document.toJson?` is the strict reading: everything must have a value, no member or item may nest
deeper than the room given, and the last of repeated names stands.
-/

namespace Workflow

/-- The tree that a JSON text spells out. -/
inductive Document where
  /-- The text is not JSON from here on. -/
  | broken
  | null
  | bool (value : Bool)
  /-- A number, without value when it lies outside the doubles. -/
  | number (value : Option Number)
  /-- A string, without value when an escape names half of a surrogate pair. -/
  | text (value : Option String)
  | list (items : List Document) (closed : Bool)
  | record (members : List (Option String × Document)) (closed : Bool)
deriving Inhabited

namespace Document

/-- White space between the parts of a document. -/
def isGap (c : Char) : Bool :=
  c = ' ' || c = '\n' || c = '\t' || c = '\r'

/-- Skip white space. -/
def skipGap (cs : List Char) : List Char :=
  cs.dropWhile isGap

/-- The value of four hexadecimal digits. -/
def hex4? (a b c d : Char) : Option Nat := do
  let high := (← Text.hexValue? a) * 16 + (← Text.hexValue? b)
  let low := (← Text.hexValue? c) * 16 + (← Text.hexValue? d)
  return high * 256 + low

/-- The character of a one-letter escape. -/
def simpleEscape? (c : Char) : Option Char :=
  if c = '"' || c = '\\' || c = '/' then some c
  else if c = 'b' then some (Char.ofNat 8)
  else if c = 'f' then some (Char.ofNat 12)
  else if c = 'n' then some '\n'
  else if c = 'r' then some '\r'
  else if c = 't' then some '\t'
  else none

/-- The second half of a surrogate pair, if a text starts with its escape. -/
def lowSurrogate? : List Char → Option (Nat × List Char)
  | '\\' :: 'u' :: a :: b :: c :: d :: rest => do
    let low ← hex4? a b c d
    if 0xDC00 ≤ low && low ≤ 0xDFFF then some (low, rest) else none
  | _ => none

/-- Read the rest of a string, after its opening quote.  `sofar` holds the characters read, last
first, and is lost once an escape has no character.  Nothing if the grammar breaks off. -/
def scanText : Nat → Option (List Char) → List Char → Option (Option String × List Char)
  | 0, _, _ => none
  | fuel + 1, sofar, cs =>
    match cs with
    | [] => none
    | '"' :: rest => some (sofar.map fun chars => String.ofList chars.reverse, rest)
    | '\\' :: 'u' :: a :: b :: c :: d :: rest =>
      match hex4? a b c d with
      | none => none
      | some unit =>
        if 0xD800 ≤ unit && unit ≤ 0xDBFF then
          match lowSurrogate? rest with
          | some (low, rest) =>
            let code := 0x10000 + (unit - 0xD800) * 0x400 + (low - 0xDC00)
            scanText fuel (sofar.map (Char.ofNat code :: ·)) rest
          | none => scanText fuel none rest
        else if 0xDC00 ≤ unit && unit ≤ 0xDFFF then scanText fuel none rest
        else scanText fuel (sofar.map (Char.ofNat unit :: ·)) rest
    | '\\' :: c :: rest =>
      match simpleEscape? c with
      | none => none
      | some e => scanText fuel (sofar.map (e :: ·)) rest
    | c :: rest => if c.toNat < 32 then none else scanText fuel (sofar.map (c :: ·)) rest

/-- The digits at the start of a text, and what follows them. -/
def spanDigits (cs : List Char) : List Char × List Char :=
  (cs.takeWhile Char.isDigit, cs.dropWhile Char.isDigit)

/-- The digits of an integer part: a single zero, or digits that do not start with one. -/
def scanWhole? : List Char → Option (List Char × List Char)
  | '0' :: rest =>
    match rest with
    | c :: _ => if c.isDigit then none else some (['0'], rest)
    | [] => some (['0'], rest)
  | cs =>
    let (ds, rest) := spanDigits cs
    if ds.isEmpty then none else some (ds, rest)

/-- The digits after a point, none if there is no point. -/
def scanFraction? : List Char → Option (List Char × List Char)
  | '.' :: rest =>
    let (ds, rest) := spanDigits rest
    if ds.isEmpty then none else some (ds, rest)
  | cs => some ([], cs)

/-- An exponent, with a flag for a minus sign. -/
def scanExponent? : List Char → Option (Option (Bool × List Char) × List Char)
  | c :: rest =>
    if c = 'e' || c = 'E' then
      let (down, rest) := match rest with
        | '-' :: rest => (true, rest)
        | '+' :: rest => (false, rest)
        | rest => (false, rest)
      let (ds, rest) := spanDigits rest
      if ds.isEmpty then none else some (some (down, ds), rest)
    else some (none, c :: rest)
  | [] => some (none, [])

/-- Read a number. -/
def scanNumber? (cs : List Char) : Option (Option Number × List Char) := do
  let (negative, cs) := match cs with
    | '-' :: rest => (true, rest)
    | cs => (false, cs)
  let (whole, cs) ← scanWhole? cs
  let (fraction, cs) ← scanFraction? cs
  let (exponent, cs) ← scanExponent? cs
  return (Number.ofLiteral? negative whole fraction exponent, cs)

/-- What follows a literal word. -/
def scanWord (word : String) (value : Document) (cs : List Char) : Document × Option (List Char) :=
  if word.toList.isPrefixOf cs then (value, some (cs.drop word.length)) else (broken, none)

mutual

/-- Read one value; the rest of the text is absent when the grammar broke off inside it. -/
def scanValue : Nat → List Char → Document × Option (List Char)
  | 0, _ => (broken, none)
  | fuel + 1, cs =>
    match skipGap cs with
    | [] => (broken, none)
    | c :: rest =>
      if c = '[' then
        match skipGap rest with
        | ']' :: rest => (list [] true, some rest)
        | rest =>
          let (items, closed, rest) := scanItems fuel rest
          (list items closed, rest)
      else if c = '{' then
        match skipGap rest with
        | '}' :: rest => (record [] true, some rest)
        | rest =>
          let (members, closed, rest) := scanMembers fuel rest
          (record members closed, rest)
      else if c = '"' then
        match scanText (rest.length + 1) (some []) rest with
        | none => (broken, none)
        | some (value, rest) => (text value, some rest)
      else if c = 'n' then scanWord "null" null (c :: rest)
      else if c = 't' then scanWord "true" (bool true) (c :: rest)
      else if c = 'f' then scanWord "false" (bool false) (c :: rest)
      else
        match scanNumber? (c :: rest) with
        | none => (broken, none)
        | some (value, rest) => (number value, some rest)

/-- Read the items of a non-empty array and its closing bracket. -/
def scanItems : Nat → List Char → List Document × Bool × Option (List Char)
  | 0, _ => ([], false, none)
  | fuel + 1, cs =>
    match scanValue fuel cs with
    | (item, none) => ([item], false, none)
    | (item, some rest) =>
      match skipGap rest with
      | ']' :: rest => ([item], true, some rest)
      | ',' :: rest =>
        match skipGap rest with
        | ']' :: _ => ([item], false, none)
        | rest =>
          let (items, closed, rest) := scanItems fuel rest
          (item :: items, closed, rest)
      | _ => ([item], false, none)

/-- Read the members of a non-empty object and its closing brace. -/
def scanMembers : Nat → List Char → List (Option String × Document) × Bool × Option (List Char)
  | 0, _ => ([], false, none)
  | fuel + 1, cs =>
    match skipGap cs with
    | '"' :: rest =>
      match scanText (rest.length + 1) (some []) rest with
      | none => ([], false, none)
      | some (name, rest) =>
        match skipGap rest with
        | ':' :: rest =>
          match scanValue fuel rest with
          | (value, none) => ([(name, value)], false, none)
          | (value, some rest) =>
            match skipGap rest with
            | '}' :: rest => ([(name, value)], true, some rest)
            | ',' :: rest =>
              let (members, closed, rest) := scanMembers fuel rest
              ((name, value) :: members, closed, rest)
            | _ => ([(name, value)], false, none)
        | _ => ([(name, broken)], false, none)
    | _ => ([], false, none)

end

/-- Read a whole text; the flag tells whether nothing but white space follows the value. -/
def scan (s : String) : Document × Bool :=
  let cs := s.toList
  match scanValue (2 * cs.length + 2) cs with
  | (value, none) => (value, false)
  | (value, some rest) => (value, (skipGap rest).isEmpty)

mutual

/-- Whether the grammar holds throughout, so that the text can be skipped. -/
def whole : Document → Bool
  | broken => false
  | list items closed => closed && wholeItems items
  | record members closed => closed && wholeMembers members
  | _ => true

/-- Whether the grammar holds in every item. -/
def wholeItems : List Document → Bool
  | [] => true
  | item :: rest => whole item && wholeItems rest

/-- Whether the grammar holds in every member. -/
def wholeMembers : List (Option String × Document) → Bool
  | [] => true
  | (_, value) :: rest => whole value && wholeMembers rest

end

mutual

/-- How many lists and records nest in each other. -/
def depth : Document → Nat
  | list items _ => depthItems items + 1
  | record members _ => depthMembers members + 1
  | _ => 0

/-- The greatest depth of an item. -/
def depthItems : List Document → Nat
  | [] => 0
  | item :: rest => max (depth item) (depthItems rest)

/-- The greatest depth of a member. -/
def depthMembers : List (Option String × Document) → Nat
  | [] => 0
  | (_, value) :: rest => max (depth value) (depthMembers rest)

end

mutual

/-- The value of a document that nests at most `room` levels deep. -/
def toJson? (room : Nat) : Document → Option Json
  | broken => none
  | null => some .null
  | bool value => some (.bool value)
  | number value => value.map .number
  | text value => value.map .text
  | list items closed =>
    match room with
    | 0 => none
    | room + 1 => if closed then (toItems? room items).map .list else none
  | record members closed =>
    match room with
    | 0 => none
    | room + 1 => if closed then (toMembers? room [] members).map .record else none

/-- The values of the items of an array. -/
def toItems? (room : Nat) : List Document → Option (List Json)
  | [] => some []
  | item :: rest =>
    match toJson? room item with
    | none => none
    | some value => (toItems? room rest).map (value :: ·)

/-- The members of an object, entered one after another. -/
def toMembers? (room : Nat) (sofar : Assoc Json) :
    List (Option String × Document) → Option (Assoc Json)
  | [] => some sofar
  | (none, _) :: _ => none
  | (some name, value) :: rest =>
    match toJson? room value with
    | none => none
    | some value => toMembers? room (Assoc.insert sofar name value) rest

end

mutual

/-- The document that spells out a value, members in the order of their names. -/
def ofJson : Json → Document
  | .null => null
  | .bool value => bool value
  | .number value => number (some value)
  | .text value => text (some value)
  | .list items => list (ofItems items) true
  | .record members => record (ofMembers members) true

/-- The documents of the items of an array. -/
def ofItems : List Json → List Document
  | [] => []
  | item :: rest => ofJson item :: ofItems rest

/-- The documents of the members of an object. -/
def ofMembers : List (String × Json) → List (Option String × Document)
  | [] => []
  | (name, value) :: rest => (some name, ofJson value) :: ofMembers rest

end

end Document

namespace Json

/-- How deep a text may nest. -/
def maxDepth : Nat := 127

/-- The value of a JSON text that nests at most `room` levels deep. -/
def parseWithin? (room : Nat) (s : String) : Option Json :=
  match Document.scan s with
  | (document, true) => document.toJson? room
  | (_, false) => none

/-- The value of a JSON text. -/
def parse? (s : String) : Option Json :=
  parseWithin? maxDepth s

end Json

end Workflow
