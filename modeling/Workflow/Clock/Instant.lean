import Workflow.Clock.Calendar
import Workflow.Text.Blank
import Workflow.Width
import Workflow.Wire.Decoder

/-!
# Instants

Points in time with nanoseconds, in UTC.  A second that is written as 60 is kept as a fraction
beyond the end of second 59.

`Instant.render` writes an instant with as many groups of three fraction digits as it needs;
`Instant.renderMicros` always writes six, so that within the years 0 to 9999 the order of the texts
is the order of the instants.  `Instant.parse` reads a date, a time and an offset, with white space
allowed between their parts.
-/

namespace Workflow

/-- A point in time. -/
structure Instant where
  /-- Whole seconds since the start of 1970. -/
  seconds : Int
  /-- Nanoseconds, at least `10 ^ 9` of them inside a leap second. -/
  nanos : Nat
deriving DecidableEq, Repr, Inhabited

namespace Instant

/-- The order of time. -/
def le (a b : Instant) : Bool :=
  a.seconds < b.seconds || (a.seconds = b.seconds && a.nanos ≤ b.nanos)

/-- The earliest and the latest year of an instant. -/
def minYear : Int := -262143

/-- The latest year of an instant. -/
def maxYear : Int := 262142

/-- The date and the second of the day. -/
def parts (at_ : Instant) : Clock.Date × Nat :=
  (Clock.Date.ofDays (at_.seconds / 86400), (at_.seconds % 86400).toNat)

/-- An instant some whole seconds later, if it lies within the known years. -/
def later? (at_ : Instant) (seconds : Nat) : Option Instant :=
  let next : Instant := { at_ with seconds := at_.seconds + seconds }
  if next.parts.1.year ≤ maxYear then some next else none

/-- The greatest number of seconds that a span of time can have. -/
def maxSpan : Nat := 9223372036854775

/-- The instant some seconds later, none if the span or the result is too great. -/
def deadline? (at_ : Instant) (seconds : Nat) : Option Instant :=
  if seconds ≤ maxSpan then at_.later? seconds else none

/-- The whole seconds from one instant to another, rounded toward zero. -/
def secondsUntil (start stop : Instant) : Int :=
  let nanos := (stop.seconds - start.seconds) * 1000000000 + (stop.nanos - start.nanos : Int)
  nanos.tdiv 1000000000

/-- Decimal digits with leading zeros up to a width. -/
def padded (width n : Nat) : String :=
  let digits := Nat.repr n
  String.ofList (List.replicate (width - digits.length) '0') ++ digits

/-- A year: four digits, or a sign and at least four digits outside the years 0 to 9999. -/
def yearText (year : Int) : String :=
  if 0 ≤ year && year ≤ 9999 then padded 4 year.toNat
  else (if year < 0 then "-" else "+") ++ padded 4 year.natAbs

/-- The text up to the whole second; the second of a leap second is 60. -/
def wholeText (at_ : Instant) : String :=
  let (date, clock) := at_.parts
  let second := clock % 60 + at_.nanos / 1000000000
  yearText date.year ++ "-" ++ padded 2 date.month ++ "-" ++ padded 2 date.day ++ "T"
    ++ padded 2 (clock / 3600) ++ ":" ++ padded 2 (clock / 60 % 60) ++ ":" ++ padded 2 second

/-- The text of an instant, with a fraction of 0, 3, 6 or 9 digits. -/
def render (at_ : Instant) : String :=
  let nanos := at_.nanos % 1000000000
  let fraction :=
    if nanos = 0 then ""
    else if nanos % 1000000 = 0 then "." ++ padded 3 (nanos / 1000000)
    else if nanos % 1000 = 0 then "." ++ padded 6 (nanos / 1000)
    else "." ++ padded 9 nanos
  at_.wholeText ++ fraction ++ "Z"

/-- The text of an instant with a fraction of six digits. -/
def renderMicros (at_ : Instant) : String :=
  at_.wholeText ++ "." ++ padded 6 (at_.nanos % 1000000000 / 1000) ++ "Z"

/-- Why a text is not an instant. -/
inductive Malformed where
  | invalid
  | tooShort
  | tooLong
  | outOfRange
  | impossible
deriving DecidableEq, Repr

/-- The wording of the causes. -/
def Malformed.message : Malformed → String
  | invalid => "input contains invalid characters"
  | tooShort => "premature end of input"
  | tooLong => "trailing input"
  | outOfRange => "input is out of range"
  | impossible => "no possible date and time matching input"

/-- The value of decimal digits. -/
def digitsValue (ds : List Char) : Nat :=
  ds.foldl (fun n c => n * 10 + (c.toNat - '0'.toNat)) 0

/-- Read one to `width` digits after white space. -/
def number (width : Nat) (cs : List Char) : Except Malformed (Nat × List Char) :=
  let cs := Text.trimLeft cs
  let ds := (cs.take width).takeWhile Char.isDigit
  match cs, ds with
  | [], _ => .error .tooShort
  | _, [] => .error .invalid
  | cs, ds =>
    let value := digitsValue ds
    if Width.fits 63 value then .ok (value, cs.drop ds.length) else .error .outOfRange

/-- Read a number between two bounds. -/
def bounded (low high : Nat) (cs : List Char) : Except Malformed (Nat × List Char) := do
  let (value, cs) ← number 2 cs
  if low ≤ value && value ≤ high then .ok (value, cs) else .error .outOfRange

/-- Read a year, of any length after a sign. -/
def year (cs : List Char) : Except Malformed (Int × List Char) := do
  let inRange (value : Int) (cs : List Char) : Except Malformed (Int × List Char) :=
    if Width.fitsSigned 32 value then .ok (value, cs) else .error .outOfRange
  match Text.trimLeft cs with
  | '-' :: rest =>
    let (value, rest) ← unspaced rest
    inRange (-(value : Int)) rest
  | '+' :: rest =>
    let (value, rest) ← unspaced rest
    inRange value rest
  | cs =>
    let (value, rest) ← number 4 cs
    inRange value rest
where
  unspaced (cs : List Char) : Except Malformed (Nat × List Char) :=
    match cs with
    | [] => .error .tooShort
    | c :: _ => if c.isDigit then number cs.length cs else .error .invalid

/-- Read a mark after white space. -/
def mark (c : Char) (cs : List Char) : Except Malformed (List Char) :=
  match Text.trimLeft cs with
  | [] => .error .tooShort
  | d :: rest => if d = c then .ok rest else .error .invalid

/-- Read a fraction of a second as nanoseconds; digits beyond the ninth are dropped. -/
def fraction (cs : List Char) : Except Malformed (Nat × List Char) :=
  match cs with
  | '.' :: rest =>
    let ds := rest.takeWhile Char.isDigit
    match rest, ds with
    | [], _ => .error .tooShort
    | _, [] => .error .invalid
    | rest, ds =>
      let nine := ds.take 9
      .ok (digitsValue nine * Nat.pow 10 (9 - nine.length), rest.drop ds.length)
  | cs => .ok (0, cs)

/-- Two digits. -/
def twoDigits (cs : List Char) : Except Malformed (Nat × Nat × List Char) :=
  match cs with
  | a :: b :: rest =>
    if a.isDigit && b.isDigit then .ok (digitsValue [a], digitsValue [b], rest) else .error .invalid
  | _ => .error .tooShort

/-- Read an offset from UTC in seconds. -/
def offset (cs : List Char) : Except Malformed (Int × List Char) :=
  match cs with
  | [] => .error .tooShort
  | c :: rest =>
    if c = 'Z' || c = 'z' then .ok (0, rest)
    else if c = '+' then signed 1 rest
    else if c = '-' || c = Char.ofNat 0x2212 then signed (-1) rest
    else .error .invalid
where
  signed (sign : Int) (cs : List Char) : Except Malformed (Int × List Char) := do
    let (h, i, cs) ← twoDigits cs
    let cs := cs.dropWhile fun c => c = ':' || Text.isBlank c
    match cs with
    | m :: n :: rest =>
      if m.isDigit && n.isDigit then
        if m ≤ '5' then
          .ok (sign * ((h * 10 + i) * 3600 + digitsValue [m, n] * 60 : Nat), rest)
        else .error .outOfRange
      else .error .invalid
    | _ => .error .tooShort

/-- Whether a text starts with `UTC` in any case. -/
def namesUtc (cs : List Char) : Bool :=
  (cs.take 3).map Char.toUpper = ['U', 'T', 'C']

/-- Read an instant. -/
def parse (s : String) : Except Malformed Instant := do
  let (y, cs) ← year s.toList
  let cs ← mark '-' cs
  let (month, cs) ← bounded 1 12 cs
  let cs ← mark '-' cs
  let (day, cs) ← bounded 1 31 cs
  let cs ← match cs with
    | [] => .error .tooShort
    | c :: rest => if c = 't' || c = 'T' || c = ' ' then .ok rest else .error .invalid
  let (hour, cs) ← bounded 0 23 cs
  let cs ← mark ':' cs
  let (minute, cs) ← bounded 0 59 cs
  let cs ← mark ':' cs
  let (second, cs) ← bounded 0 60 cs
  let (nanos, cs) ← fraction cs
  let cs := Text.trimLeft cs
  let (shift, cs) ← if namesUtc cs then .ok (0, cs.drop 3) else offset cs
  if !(Text.trimLeft cs).isEmpty then .error .tooLong
  else
    let date : Clock.Date := ⟨y, month, day⟩
    if shift.natAbs ≥ 86400 || !date.valid || y < minYear || y > maxYear then .error .outOfRange
    else
      let (second, nanos) := if second = 60 then (59, nanos + 1000000000) else (second, nanos)
      let local_ := date.toDays * 86400 + (hour * 3600 + minute * 60 + second : Nat)
      let at_ : Instant := ⟨local_ - shift, nanos⟩
      if minYear ≤ at_.parts.1.year && at_.parts.1.year ≤ maxYear then .ok at_
      else .error .impossible

/-- An instant as a JSON value. -/
def toJson (at_ : Instant) : Json :=
  .text at_.render

/-- Read an instant off a document. -/
def decoder : Wire.Decoder Instant
  | _, .text (some s) =>
    match parse s with
    | .ok at_ => .ok at_
    | .error cause => .error (.other cause.message)
  | _, document =>
    .error (Wire.mistyped document "an RFC 3339 formatted date and time string")

end Instant

end Workflow
