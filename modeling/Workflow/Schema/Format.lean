import Workflow.Address.Reading
import Workflow.Clock.Calendar
import Workflow.Text.Pattern.Matcher

/-!
# Formats of texts

The formats that a schema can ask of a text: dates and times, addresses of mail and machines,
references, and pointers into JSON values.  `TextFormat.admits` decides by the grammar of each
format; where only a part of a text is looked at, its doc comment says so.
-/

namespace Workflow

/-- A format of texts. -/
inductive TextFormat where
  | date | time | dateTime
  | email | idnEmail | hostname | idnHostname | ipv4 | ipv6
  | uri | uriReference | uriTemplate | iri | iriReference
  | pointer | relativePointer | regex
deriving DecidableEq, Repr

namespace TextFormat

/-- All formats. -/
def all : List TextFormat :=
  [date, time, dateTime, email, idnEmail, hostname, idnHostname, ipv4, ipv6, uri, uriReference,
   uriTemplate, iri, iriReference, pointer, relativePointer, regex]

/-- The name of a format. -/
def label : TextFormat → String
  | date => "date"
  | time => "time"
  | dateTime => "date-time"
  | email => "email"
  | idnEmail => "idn-email"
  | hostname => "hostname"
  | idnHostname => "idn-hostname"
  | ipv4 => "ipv4"
  | ipv6 => "ipv6"
  | uri => "uri"
  | uriReference => "uri-reference"
  | uriTemplate => "uri-template"
  | iri => "iri"
  | iriReference => "iri-reference"
  | pointer => "json-pointer"
  | relativePointer => "relative-json-pointer"
  | regex => "regex"

/-- The format of a name. -/
def ofLabel? (name : String) : Option TextFormat :=
  all.find? (·.label = name)

/-- The value of exactly so many decimal digits, and what follows them. -/
def digits? (count : Nat) (cs : List Char) : Option (Nat × List Char) :=
  let ds := cs.take count
  if ds.length = count && ds.all Char.isDigit then
    some (Decimal.natOfDigits ds, cs.drop count)
  else none

/-- A date at the start of a text, and what follows it. -/
def date? (cs : List Char) : Option (Clock.Date × List Char) := do
  let (year, cs) ← digits? 4 cs
  let cs ← Text.dropHead? ['-'] cs
  let (month, cs) ← digits? 2 cs
  let cs ← Text.dropHead? ['-'] cs
  let (day, cs) ← digits? 2 cs
  let date : Clock.Date := ⟨year, month, day⟩
  if date.valid then some (date, cs) else none

/-- The times of a day with an offset, and a fraction of six digits or none. -/
def timePattern : Option Text.Matcher :=
  Text.Matcher.ofText? ("^([01][0-9]|2[0-3]):([0-5][0-9]):([0-5][0-9])(\\.[0-9]\x7b6\x7d)?"
    ++ "(([Zz])|([+|\\-]([01][0-9]|2[0-3]):[0-5][0-9]))\\z")

/-- References with parts in braces, which stand for the values of names. -/
def templatePattern : Option Text.Matcher :=
  let name := "(?:[a-z0-9_]|%[0-9a-f]\x7b2\x7d)+(?::[1-9][0-9]\x7b0,3\x7d|\\*)?"
  Text.Matcher.ofText? ("^(?:(?:[^\\x00-\\x20\"'<>%\\\\^`\x7b|\x7d]|%[0-9a-f]\x7b2\x7d)|\\\x7b"
    ++ "[+#./;?&=,!@|]?" ++ name ++ "(?:," ++ name ++ ")*\\\x7d)*\\z")

/-- The minutes that a time zone is ahead, if a text is its offset. -/
def offset? (cs : List Char) : Option Int :=
  match cs with
  | ['Z'] | ['z'] => some 0
  | sign :: rest =>
    if sign = '+' || sign = '-' then do
      let (hours, rest) ← digits? 2 rest
      let rest ← Text.dropHead? [':'] rest
      let (minutes, rest) ← digits? 2 rest
      if rest.isEmpty && hours ≤ 23 && minutes ≤ 59 then
        let ahead : Int := (60 * hours + minutes : Nat)
        return if sign = '+' then ahead else -ahead
      else none
    else none
  | [] => none

/-- Drop a fraction of a second, which has one digit at least. -/
def dropFraction? (cs : List Char) : Option (List Char) :=
  match cs with
  | '.' :: rest =>
    if (rest.head?.any Char.isDigit) then some (rest.dropWhile Char.isDigit) else none
  | cs => some cs

/-- Whether a minute, in a time zone so many minutes ahead, is the last one of a month at the
prime meridian, so that it may have a second more. -/
def endsMonth (date : Clock.Date) (hour minute : Nat) (ahead : Int) : Bool :=
  let minutes := date.toDays * 1440 + ((60 * hour + minute : Nat) : Int) - ahead
  minutes % 1440 = 1439 && (Clock.Date.ofDays (minutes / 1440 + 1)).day = 1

/-- Whether a text is a date and a time with an offset.  One character of any kind parts the two. -/
def isDateTime (cs : List Char) : Bool :=
  let found : Option Bool := do
    let (day, cs) ← date? cs
    let cs ← match cs with
      | c :: rest => if c.toNat < 0x80 then some rest else none
      | [] => none
    let (hour, cs) ← digits? 2 cs
    let cs ← Text.dropHead? [':'] cs
    let (minute, cs) ← digits? 2 cs
    let cs ← Text.dropHead? [':'] cs
    let (second, cs) ← digits? 2 cs
    let cs ← dropFraction? cs
    let ahead ← offset? cs
    return hour ≤ 23 && minute ≤ 59
      && (second ≤ 59 || (second = 60 && endsMonth day hour minute ahead))
  found.getD false

/-- Whether a sign of mail ends the local part that goes on after a character.  A dot stands neither
before another dot nor at the end. -/
def endsLocal : Char → List Char → Bool
  | _, [] => false
  | last, c :: rest =>
    if last = '.' && (c = '.' || c = '@') then false else c = '@' || endsLocal c rest

/-- Whether a text has a local part, which does not start with a dot, and a domain, which is not
looked at. -/
def isEmail : List Char → Bool
  | [] => false
  | first :: rest => first ≠ '.' && endsLocal first rest

/-- Whether a text can name a machine: letters, digits, hyphens and dots in parts of at most 63
characters. -/
def isHostname (cs : List Char) : Bool :=
  !cs.isEmpty && cs.length ≤ 255 && cs.head? ≠ some '-' && cs.getLast? ≠ some '-'
    && cs.all (fun c => Text.Property.alphanumeric.holds c.toNat || c = '-' || c = '.')
    && (cs.splitOn '.').all fun part => part.length ≤ 63

/-- Whether a text can be a reference: neither backslashes nor white space. -/
def isReference (cs : List Char) : Bool :=
  !cs.any fun c => c = '\\' || Text.isBlank c

/-- Whether every tilde of a text starts an escape. -/
def tildesEscape : List Char → Bool
  | [] => true
  | '~' :: '0' :: rest | '~' :: '1' :: rest => tildesEscape rest
  | '~' :: _ => false
  | _ :: rest => tildesEscape rest

/-- Whether a text is a pointer into a JSON value. -/
def isPointer (cs : List Char) : Bool :=
  (cs.isEmpty || cs.head? = some '/') && tildesEscape cs

/-- Whether a text is a pointer that starts some levels up. -/
def isRelativePointer (cs : List Char) : Bool :=
  let levels := cs.takeWhile Char.isDigit
  let rest := cs.dropWhile Char.isDigit
  !levels.isEmpty && (levels.length = 1 || levels.head? ≠ some '0')
    && (rest = ['#'] || isPointer rest)

/-- Whether a text has a format. -/
def admits (format : TextFormat) (text : String) : Bool :=
  let cs := text.toList
  match format with
  | date => (date? cs).any (·.2.isEmpty)
  | time => timePattern.any (·.occursIn text)
  | dateTime => isDateTime cs
  | email | idnEmail => isEmail cs
  | hostname | idnHostname => isHostname cs
  | ipv4 => cs.head? ≠ some '0' && (Address.bytes? cs).isSome
  | ipv6 => (Address.eightGroups? cs).isSome
  | uri | iri => (Address.parse? none text).isSome
  | uriReference | iriReference => isReference cs
  | uriTemplate => templatePattern.any (·.occursIn text)
  | pointer => isPointer cs
  | relativePointer => isRelativePointer cs
  | regex => (Text.Matcher.ofAsciiText? text).isSome

end TextFormat

end Workflow
