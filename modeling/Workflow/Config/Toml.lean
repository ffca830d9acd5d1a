import Workflow.Config.Environment
import Workflow.Decimal.Reading
import Workflow.Json.Basic
import Workflow.Text.Encoding
import Workflow.Width

/-!
# TOML documents

A document is a list of tables of keys and values.  `Toml.parse?` reads one as an object, and
refuses whatever the format does not allow: a key given twice, a table opened twice, a value that
does not end with its line.  A date or time becomes an object of its own, so that it is mistaken for
no other value.
-/

namespace Workflow

namespace Toml

/-- How a table came to be; this decides what may still be added to it. -/
inductive Kind where
  /-- By a header of its own. -/
  | opened
  /-- By the header of a table inside it. -/
  | passed
  /-- By a dotted key. -/
  | dotted
deriving DecidableEq, Repr

/-- What a key stands for. -/
inductive Item where
  | value (value : Json)
  | table (kind : Kind) (entries : List (String × Item))
  /-- A list of tables, the newest first. -/
  | tables (all : List (List (String × Item)))
deriving Inhabited

/-- The entries of a table. -/
abbrev Entries := List (String × Item)

mutual

/-- An item as a JSON value. -/
def Item.toJson : Item → Json
  | .value value => value
  | .table _ entries => .record (Assoc.ofList (members entries))
  | .tables all => .list (objects all).reverse

/-- The entries of a table as members. -/
def members : List (String × Item) → List (String × Json)
  | [] => []
  | (key, item) :: rest => (key, item.toJson) :: members rest

/-- Tables as objects. -/
def objects : List (List (String × Item)) → List Json
  | [] => []
  | entries :: rest => .record (Assoc.ofList (members entries)) :: objects rest

end

/-- Change the item of a key, or add one; nothing if that is not allowed. -/
def change (key : String) (step : Option Item → Option Item) : Entries → Option Entries
  | [] => (step none).map fun item => [(key, item)]
  | (k, item) :: rest =>
    if k = key then (step (some item)).map fun item => (k, item) :: rest
    else (change key step rest).map ((k, item) :: ·)

/-- Work on the entries of a table that a header leads to. -/
def within (step : Entries → Option Entries) : Option Item → Option Item
  | none => (step []).map (.table .passed)
  | some (.table kind entries) => (step entries).map (.table kind)
  | some (.tables (entries :: others)) =>
    (step entries).map fun entries => .tables (entries :: others)
  | some _ => none

/-- Work on the entries of the table at a path. -/
def walk (step : Entries → Option Entries) : List String → Entries → Option Entries
  | [], entries => step entries
  | key :: path, entries => change key (within (walk step path)) entries

/-- Open a table. -/
def openTable : Option Item → Option Item
  | none => some (.table .opened [])
  | some (.table .passed entries) => some (.table .opened entries)
  | some _ => none

/-- Add a table to a list of tables. -/
def addTable : Option Item → Option Item
  | none => some (.tables [[]])
  | some (.tables all) => some (.tables ([] :: all))
  | some _ => none

/-- Give a key a value; keys before the last one make tables. -/
def assign (value : Json) : List String → Entries → Option Entries
  | [], _ => none
  | [key], entries =>
    change key (fun
      | none => some (.value value)
      | some _ => none) entries
  | key :: path, entries =>
    change key (fun
      | none => (assign value path []).map (.table .dotted)
      | some (.table .dotted inner) => (assign value path inner).map (.table .dotted)
      | some _ => none) entries

/-! ## Reading -/

/-- Whether a character can stand in a key without quotes. -/
def isBare (c : Char) : Bool :=
  c.isAlphanum || c = '_' || c = '-'

/-- Whether a character may stand in a text on one line. -/
def isPlain (c : Char) : Bool :=
  c = '\t' || (c.toNat ≥ 32 && c.toNat ≠ 127)

/-- Skip blanks on a line. -/
def skipBlanks (cs : List Char) : List Char :=
  cs.dropWhile fun c => c = ' ' || c = '\t'

/-- Skip a comment, if there is one; nothing if it holds a control character. -/
def skipComment? : List Char → Option (List Char)
  | '#' :: rest =>
    let comment := rest.takeWhile (· ≠ '\n')
    let comment := match comment.reverse with
      | '\r' :: more => if (rest.dropWhile (· ≠ '\n')).isEmpty then comment else more
      | _ => comment
    if comment.all isPlain then some (rest.drop comment.length) else none
  | cs => some cs

/-- The text after the end of a line. -/
def endLine? : List Char → Option (List Char)
  | [] => some []
  | '\n' :: rest => some rest
  | '\r' :: '\n' :: rest => some rest
  | _ => none

/-- Skip white space, line ends and comments. -/
def skipGaps : Nat → List Char → Option (List Char)
  | 0, cs => some cs
  | fuel + 1, cs =>
    match skipBlanks cs with
    | '\n' :: rest => skipGaps fuel rest
    | '\r' :: '\n' :: rest => skipGaps fuel rest
    | '#' :: rest => (skipComment? ('#' :: rest)).bind (skipGaps fuel)
    | rest => some rest

/-- The value of digits in a base of sixteen at most. -/
def inBase (base : Nat) (ds : List Char) : Option Nat :=
  ds.foldl (fun total c => do return (← total) * base + (← Text.hexValue? c)) (some 0)

/-- The character of a code point in hexadecimal, and what follows. -/
def unicode? (width : Nat) (cs : List Char) : Option (Char × List Char) := do
  let digits := cs.take width
  if digits.length < width then none
  else
    let code ← inBase 16 digits
    if code.isValidChar then some (Char.ofNat code, cs.drop width) else none

/-- The character of an escape after its backslash, and what follows. -/
def escape? : List Char → Option (Char × List Char)
  | 'b' :: rest => some (Char.ofNat 8, rest)
  | 't' :: rest => some ('\t', rest)
  | 'n' :: rest => some ('\n', rest)
  | 'f' :: rest => some (Char.ofNat 12, rest)
  | 'r' :: rest => some ('\r', rest)
  | '"' :: rest => some ('"', rest)
  | '\\' :: rest => some ('\\', rest)
  | 'u' :: rest => unicode? 4 rest
  | 'U' :: rest => unicode? 8 rest
  | _ => none

/-- Skip white space and line ends, at least one line end among them. -/
def skipFold? (cs : List Char) : Option (List Char) :=
  let gap := cs.takeWhile fun c => c = ' ' || c = '\t' || c = '\n' || c = '\r'
  let line := gap.takeWhile (· ≠ '\n')
  if gap.contains '\n' && (line.filter (· = '\r')).length ≤ 1 then some (cs.drop gap.length)
  else none

/-- Read a text with escapes on one line, after its opening quote. -/
def basic? : Nat → List Char → List Char → Option (List Char × List Char)
  | 0, _, _ => none
  | fuel + 1, sofar, cs =>
    match cs with
    | '"' :: rest => some (sofar.reverse, rest)
    | '\\' :: rest =>
      match escape? rest with
      | some (c, rest) => basic? fuel (c :: sofar) rest
      | none => none
    | c :: rest => if isPlain c then basic? fuel (c :: sofar) rest else none
    | [] => none

/-- Read a text with escapes over several lines, after its opening quotes. -/
def multi? : Nat → List Char → List Char → Option (List Char × List Char)
  | 0, _, _ => none
  | fuel + 1, sofar, cs =>
    match cs with
    | '"' :: '"' :: '"' :: '"' :: '"' :: rest => some (('"' :: '"' :: sofar).reverse, rest)
    | '"' :: '"' :: '"' :: '"' :: rest => some (('"' :: sofar).reverse, rest)
    | '"' :: '"' :: '"' :: rest => some (sofar.reverse, rest)
    | '\\' :: rest =>
      match escape? rest with
      | some (c, rest) => multi? fuel (c :: sofar) rest
      | none =>
        match skipFold? rest with
        | some rest => multi? fuel sofar rest
        | none => none
    | '\r' :: '\n' :: rest => multi? fuel ('\n' :: sofar) rest
    | c :: rest => if isPlain c || c = '\n' then multi? fuel (c :: sofar) rest else none
    | [] => none

/-- Read a text without escapes over several lines, after its opening quotes. -/
def literalLines? : Nat → List Char → List Char → Option (List Char × List Char)
  | 0, _, _ => none
  | fuel + 1, sofar, cs =>
    match cs with
    | '\'' :: '\'' :: '\'' :: '\'' :: '\'' :: rest => some (('\'' :: '\'' :: sofar).reverse, rest)
    | '\'' :: '\'' :: '\'' :: '\'' :: rest => some (('\'' :: sofar).reverse, rest)
    | '\'' :: '\'' :: '\'' :: rest => some (sofar.reverse, rest)
    | '\r' :: '\n' :: rest => literalLines? fuel ('\n' :: sofar) rest
    | c :: rest => if isPlain c || c = '\n' then literalLines? fuel (c :: sofar) rest else none
    | [] => none

/-- Read a text without escapes on one line, after its opening quote. -/
def literal? (cs : List Char) : Option (List Char × List Char) :=
  let body := cs.takeWhile (· ≠ '\'')
  match cs.drop body.length with
  | '\'' :: rest => if body.all isPlain then some (body, rest) else none
  | _ => none

/-- Drop the line end right after opening quotes. -/
def dropLine : List Char → List Char
  | '\n' :: rest => rest
  | '\r' :: '\n' :: rest => rest
  | cs => cs

/-- Read a text in quotes. -/
def text? (cs : List Char) : Option (List Char × List Char) :=
  match cs with
  | '"' :: '"' :: '"' :: rest => multi? (rest.length + 1) [] (dropLine rest)
  | '"' :: rest => basic? (rest.length + 1) [] rest
  | '\'' :: '\'' :: '\'' :: rest => literalLines? (rest.length + 1) [] (dropLine rest)
  | '\'' :: rest => literal? rest
  | _ => none

/-- Read one part of a key. -/
def keyPart? (cs : List Char) : Option (String × List Char) :=
  match cs with
  | '"' :: rest =>
    (basic? (rest.length + 1) [] rest).map fun (key, rest) => (String.ofList key, rest)
  | '\'' :: rest => (literal? rest).map fun (key, rest) => (String.ofList key, rest)
  | cs =>
    let key := cs.takeWhile isBare
    if key.isEmpty then none else some (String.ofList key, cs.drop key.length)

/-- Read the parts of a key, up to what follows it. -/
def key? : Nat → List Char → Option (List String × List Char)
  | 0, _ => none
  | fuel + 1, cs => do
    let (first, rest) ← keyPart? (skipBlanks cs)
    match skipBlanks rest with
    | '.' :: rest =>
      let (more, rest) ← key? fuel rest
      return (first :: more, rest)
    | rest => return ([first], rest)

/-- Digits with underscores between them, without the underscores. -/
def digits? (isDigit : Char → Bool) (cs : List Char) : Option (List Char) :=
  match cs with
  | [] => none
  | [c] => if isDigit c then some [c] else none
  | c :: '_' :: d :: rest =>
    if isDigit c && isDigit d then (digits? isDigit (d :: rest)).map (c :: ·) else none
  | c :: rest => if isDigit c then (digits? isDigit rest).map (c :: ·) else none

/-- An integer of 64 bits as a value. -/
def integer? (n : Int) : Option Json :=
  if Width.fitsSigned 64 n then some (.int n) else none

/-- Decimal digits that start with zero only if there is no other. -/
def decimal? (cs : List Char) : Option (List Char) := do
  let ds ← digits? Char.isDigit cs
  match ds with
  | '0' :: _ :: _ => none
  | ds => some ds

/-- Read a double from its text without sign. -/
def double? (cs : List Char) : Option Float := do
  let mantissa := cs.takeWhile fun c => c ≠ 'e' && c ≠ 'E'
  let exponent := cs.drop mantissa.length
  let whole := mantissa.takeWhile (· ≠ '.')
  let fraction := mantissa.drop whole.length
  let whole ← decimal? whole
  let fraction ← match fraction with
    | [] => some []
    | _ :: ds => (digits? Char.isDigit ds).map ('.' :: ·)
  let exponent ← match exponent with
    | [] => some []
    | _ :: '+' :: ds => (digits? Char.isDigit ds).map ('e' :: ·)
    | _ :: '-' :: ds => (digits? Char.isDigit ds).map fun ds => 'e' :: '-' :: ds
    | _ :: ds => (digits? Char.isDigit ds).map ('e' :: ·)
  Decimal.readDouble? (whole ++ fraction ++ exponent)

/-- Whether a text has the form of a date or time. -/
def isMoment (cs : List Char) : Bool :=
  match cs with
  | a :: b :: ':' :: c :: d :: _ => [a, b, c, d].all Char.isDigit
  | a :: b :: c :: d :: '-' :: e :: f :: '-' :: g :: h :: _ =>
    [a, b, c, d, e, f, g, h].all Char.isDigit
  | _ => false

/-- A date or time as a value. -/
def moment (cs : List Char) : Json :=
  .record [("$datetime", .text (String.ofList cs))]

/-- Read a number, truth value, date or time. -/
def scalar? (cs : List Char) : Option Json :=
  match cs with
  | ['t', 'r', 'u', 'e'] => some (.bool true)
  | ['f', 'a', 'l', 's', 'e'] => some (.bool false)
  | '0' :: 'x' :: ds =>
    ((digits? (fun c => (Text.hexValue? c).isSome) ds).bind (inBase 16)).bind fun n => integer? n
  | '0' :: 'o' :: ds =>
    ((digits? (fun c => '0' ≤ c && c ≤ '7') ds).bind (inBase 8)).bind fun n => integer? n
  | '0' :: 'b' :: ds =>
    ((digits? (fun c => c = '0' || c = '1') ds).bind (inBase 2)).bind fun n => integer? n
  | cs =>
    if isMoment cs then some (moment cs)
    else
      let (negative, body) := Decimal.splitSign cs
      let signed := fun (x : Float) => Json.number (.real (if negative then -x else x))
      if body = ['i', 'n', 'f'] then some (signed (1.0 / 0.0))
      else if body = ['n', 'a', 'n'] then some (signed (0.0 / 0.0))
      else
        match decimal? body with
        | some ds =>
          let n : Int := Decimal.natOfDigits ds
          integer? (if negative then -n else n)
        | none =>
          match double? body with
          | some x => if x.isFinite then some (signed x) else none
          | none => none

/-- Whether a character can stand in a number, truth value, date or time. -/
def inScalar (c : Char) : Bool :=
  c.isAlphanum || c = '_' || c = '-' || c = '+' || c = '.' || c = ':'

mutual

/-- Read a value. -/
def value? : Nat → List Char → Option (Json × List Char)
  | 0, _ => none
  | fuel + 1, cs =>
    match cs with
    | '"' :: _ | '\'' :: _ =>
      (text? cs).map fun (text, rest) => (.text (String.ofList text), rest)
    | '[' :: rest => do
      let (items, rest) ← items? fuel rest
      return (.list items, rest)
    | '{' :: rest => do
      let (entries, rest) ← inline? fuel [] true rest
      return ((Item.table .opened entries).toJson, rest)
    | cs =>
      let word := cs.takeWhile inScalar
      let rest := cs.drop word.length
      match rest with
      | ' ' :: c :: _ =>
        if isMoment word && word.length = 10 && c.isDigit then
          let time := (rest.drop 1).takeWhile inScalar
          if isMoment time then some (moment (word ++ ' ' :: time), rest.drop (time.length + 1))
          else none
        else (scalar? word).map (·, rest)
      | _ => (scalar? word).map (·, rest)

/-- Read the items of a list up to its closing bracket. -/
def items? : Nat → List Char → Option (List Json × List Char)
  | 0, _ => none
  | fuel + 1, cs => do
    match ← skipGaps (cs.length + 1) cs with
    | ']' :: rest => return ([], rest)
    | cs =>
      let (first, rest) ← value? fuel cs
      match ← skipGaps (rest.length + 1) rest with
      | ']' :: rest => return ([first], rest)
      | ',' :: rest =>
        let (more, rest) ← items? fuel rest
        return (first :: more, rest)
      | _ => none

/-- Read the entries of a table on one line up to its closing brace. -/
def inline? : Nat → Entries → Bool → List Char → Option (Entries × List Char)
  | 0, _, _, _ => none
  | fuel + 1, entries, first, cs => do
    match skipBlanks cs with
    | '}' :: rest => if first then return (entries, rest) else none
    | cs =>
      let (key, rest) ← key? (cs.length + 1) cs
      match rest with
      | '=' :: rest =>
        let (value, rest) ← value? fuel (skipBlanks rest)
        let entries ← assign value key entries
        match skipBlanks rest with
        | '}' :: rest => return (entries, rest)
        | ',' :: rest => inline? fuel entries false rest
        | _ => none
      | _ => none

end

/-- What follows the rest of a line that may hold a comment only. -/
def finishLine? (cs : List Char) : Option (List Char) := do
  endLine? (← skipComment? (skipBlanks cs))

/-- Read the lines of a document.  `path` leads to the table that keys belong to. -/
def lines? : Nat → List String → Entries → List Char → Option Entries
  | 0, _, _, _ => none
  | fuel + 1, path, entries, cs => do
    match ← skipGaps (cs.length + 1) cs with
    | [] => return entries
    | '[' :: '[' :: rest =>
      let (key, rest) ← key? (rest.length + 1) rest
      match rest with
      | ']' :: ']' :: rest =>
        let entries ← header addTable key entries
        lines? fuel key entries (← finishLine? rest)
      | _ => none
    | '[' :: rest =>
      let (key, rest) ← key? (rest.length + 1) rest
      match rest with
      | ']' :: rest =>
        let entries ← header openTable key entries
        lines? fuel key entries (← finishLine? rest)
      | _ => none
    | cs =>
      let (key, rest) ← key? (cs.length + 1) cs
      match rest with
      | '=' :: rest =>
        let (value, rest) ← value? (rest.length + 1) (skipBlanks rest)
        let entries ← walk (assign value key) path entries
        lines? fuel path entries (← finishLine? rest)
      | _ => none
where
  /-- Open the table at a path. -/
  header (step : Option Item → Option Item) (key : List String) (entries : Entries) :
      Option Entries :=
    match key.reverse with
    | [] => none
    | last :: before => walk (change last step) before.reverse entries

/-- Drop the mark of the byte order that a text may start with. -/
def dropMark (cs : List Char) : List Char :=
  match cs with
  | c :: rest => if c.toNat = 0xFEFF then rest else cs
  | [] => []

/-- Read a document; nothing if it is not well formed. -/
def parse? (text : String) : Option Json :=
  (lines? (text.length + 1) [] [] (dropMark text.toList)).map fun entries =>
    (Item.table .opened entries).toJson

end Toml

end Workflow
