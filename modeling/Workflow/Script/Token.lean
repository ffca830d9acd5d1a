import Workflow.Decimal.Reading
import Workflow.Script.Limits
import Workflow.Script.Position
import Workflow.Text.Blank
import Workflow.Text.Encoding
import Workflow.Width

/-!
# Tokens of scripts

`Token.scan` cuts a script into tokens: literals, words and marks, each with its position.  A text
in back-ticks may hold blocks of script between `${` and `}`; these are cut into tokens of their own.
The longest mark that fits is taken.  A minus belongs to the number that follows it directly, unless
a value ends just before it.
-/

namespace Workflow.Script

/-- A token of a script. -/
inductive Token where
  | int (value : Int)
  | float (value : Float)
  | char (value : Char)
  | string (value : String)
  /-- A text with blocks of script in it. -/
  | template (parts : List (String × Position ⊕ List (Token × Position) × Position))
  /-- A name or keyword. -/
  | word (name : String)
  /-- An operator or a piece of punctuation. -/
  | mark (text : String)
deriving Inhabited

/-- A token and where it stands. -/
abbrev Placed := Token × Position

/-- A piece of a text in back-ticks: text, or a block of script. -/
abbrev Piece := String × Position ⊕ List Placed × Position

namespace Token

/-- Whether a character can start a name. -/
def startsWord (c : Char) : Bool := c.isAlpha || c = '_'

/-- Whether a character can stand in a name. -/
def inWord (c : Char) : Bool := c.isAlphanum || c = '_'

/-- Whether a word is a name: a letter comes before any digit. -/
def isName (cs : List Char) : Bool :=
  match cs.dropWhile (· = '_') with
  | [] => false
  | c :: _ => c.isAlpha

/-- The marks, longer ones first. -/
def marks : List String :=
  ["**=", "<<=", ">>=", "..=", "...", "===", "!==", "::<",
   "**", "<<", ">>", "&&", "||", "??", "==", "!=", "<=", ">=", "+=", "-=", "*=", "/=", "%=", "&=",
   "|=", "^=", "?.", "?[", "..", "::", "=>", "#\x7b", "->", "<-", ":=", "++", "--", "(*", "*)",
   "!.", "|>", "<|",
   "+", "-", "*", "/", "%", "&", "|", "^", "!", "<", ">", "=", ".", ",", ";", ":", "(", ")", "[",
   "]", "\x7b", "\x7d", "?", "@", "#", "$", "~"]

/-- The longest mark at the start of a text. -/
def markAt? (cs : List Char) : Option (String × List Char) :=
  marks.findSome? fun mark =>
    if mark.toList.isPrefixOf cs then some (mark, cs.drop mark.length) else none

/-- The marks after which a term ends, or something other than a term follows. -/
def closingMarks : List String :=
  [")", "]", "\x7d", ".", "?.", "=>", "::", "#\x7b", "...", "===", "!==", "::<", "->", "<-", ":=",
   "++", "--", "(*", "*)", "!.", "|>", "<|", "?", "@", "#", "$", "~"]

/-- Whether a number after a token may have a sign of its own. -/
def admitsSign : Token → Bool
  | mark text => !closingMarks.contains text
  | word name => ["if", "while", "until", "in", "return", "throw"].contains name
  | _ => false

/-- Skip a comment that may hold comments. -/
def skipComment : Nat → Position → List Char → Position × List Char
  | _, p, [] => (p, [])
  | depth, p, '/' :: '*' :: rest => skipComment (depth + 1) (p.along 2) rest
  | depth, p, '*' :: '/' :: rest =>
    if depth ≤ 1 then (p.along 2, rest) else skipComment (depth - 1) (p.along 2) rest
  | depth, p, c :: rest => skipComment depth (p.after c) rest

/-- The value of hexadecimal digits. -/
def hexNat? (cs : List Char) : Option Nat :=
  cs.foldl (fun n c => n.bind fun n => (Text.hexValue? c).map (n * 16 + ·)) (some 0)

/-- The character of a code point, if there is one. -/
def charOf? (code : Nat) : Option Char :=
  if code.isValidChar then some (Char.ofNat code) else none

/-- A hexadecimal escape of a given width. -/
def hexEscape? (width : Nat) (cs : List Char) : Option (Char × List Char × Nat) :=
  let ds := cs.take width
  if ds.length < width then none
  else ((hexNat? ds).bind charOf?).map fun c => (c, cs.drop width, width + 1)

/-- The character of an escape after its backslash, what follows it, and how long it is.  Of the
quotation marks only the one around the text can be escaped. -/
def escapeAt? (quote : Char) (cs : List Char) : Option (Char × List Char × Nat) :=
  match cs with
  | [] => none
  | c :: rest =>
    if c = 't' then some ('\t', rest, 1)
    else if c = 'n' then some ('\n', rest, 1)
    else if c = 'r' then some ('\r', rest, 1)
    else if c = '\\' || c = quote then some (c, rest, 1)
    else if c = 'x' then hexEscape? 2 rest
    else if c = 'u' then hexEscape? 4 rest
    else if c = 'U' then hexEscape? 8 rest
    else none

/-- A text that has been read, where it ends, and what follows it. -/
abbrev Reading := List Char × Position × List Char

/-- Read a quoted text after its opening quote, which stands in some column.  A text that
`continues` may go on in another line after a backslash; white space there is skipped up to the
column of the quote. -/
def quoted (quote : Char) (continues : Bool) (column : Nat) :
    Nat → Nat → List Char → Position → List Char → Option Reading
  | 0, _, _, _, _ => none
  | fuel + 1, margin, sofar, p, cs =>
    let again := quoted quote continues column fuel
    match cs with
    | [] => none
    | '\r' :: '\n' :: rest => again margin sofar (p.along 1) ('\n' :: rest)
    | '\\' :: '\r' :: '\n' :: rest => again margin sofar (p.along 1) ('\\' :: '\n' :: rest)
    | '\\' :: '\n' :: rest =>
      if continues then again (column + 1) sofar (p.after '\n') rest else none
    | '\\' :: rest =>
      match escapeAt? quote rest with
      | none => none
      | some (c, rest, width) => again margin (c :: sofar) (p.along (width + 1)) rest
    | c :: rest =>
      if c = quote then
        match rest with
        | d :: more =>
          if d = quote then again 0 (quote :: sofar) (p.along 2) more
          else some (sofar.reverse, p.along 1, rest)
        | [] => some (sofar.reverse, p.along 1, [])
      else if c = '\n' then none
      else if Text.isBlank c && p.column < margin then again margin sofar (p.along 1) rest
      else again 0 (c :: sofar) (p.along 1) rest

/-- Read a piece of a text in back-ticks, up to its end or to a block of script, whose opening brace
is left. -/
def literalPiece : Nat → List Char → Position → List Char → Option (Bool × Reading)
  | 0, _, _, _ => none
  | fuel + 1, sofar, p, cs =>
    match cs with
    | [] => none
    | '`' :: '`' :: rest => literalPiece fuel ('`' :: sofar) (p.along 2) rest
    | '`' :: rest => some (false, sofar.reverse, p.along 1, rest)
    | '$' :: '{' :: rest => some (true, sofar.reverse, p.along 1, '{' :: rest)
    | '\r' :: '\n' :: rest => literalPiece fuel sofar (p.along 1) ('\n' :: rest)
    | c :: rest => literalPiece fuel (c :: sofar) (p.after c) rest

/-- Read a raw text after its opening quote, up to a quote and as many number signs as stand before
the opening quote. -/
def rawText (signs : Nat) : List Char → Position → List Char → Option Reading
  | _, _, [] => none
  | sofar, p, c :: rest =>
    if c = '"' && (List.replicate signs '#').isPrefixOf rest then
      some (sofar.reverse, p.along (signs + 1), rest.drop signs)
    else rawText signs (c :: sofar) (p.after c) rest

/-- Digits that may be parted by underscores. -/
def spanDigits (isDigit : Char → Bool) (cs : List Char) : List Char × List Char :=
  ((cs.takeWhile fun c => isDigit c || c = '_').filter (· ≠ '_'),
   cs.dropWhile fun c => isDigit c || c = '_')

/-- An integer in a base that its second character names. -/
def radixNumber? (negative : Bool) (base : Nat) (isDigit : Char → Bool) (cs : List Char) :
    Option (Token × List Char) :=
  let (ds, rest) := spanDigits isDigit cs
  let value := ds.foldl (fun n c => n * base + (Text.hexValue? c).getD 0) 0
  if ds.isEmpty || !Width.fits 64 value then none
  else some (.int (Width.wrapSigned 64 (if negative then -value else value)), rest)

/-- The fraction of a number, and what follows it.  A point that starts a range or a property is
left alone. -/
def fractionAt (cs : List Char) : Option (List Char) × List Char :=
  match cs with
  | '.' :: c :: rest =>
    if c.isDigit then
      let (ds, rest) := spanDigits Char.isDigit (c :: rest)
      (some ds, rest)
    else if c = '.' || startsWord c then (none, cs)
    else (some ['0'], c :: rest)
  | cs => (none, cs)

/-- The exponent of a number with its sign, and what follows it. -/
def exponentAt (cs : List Char) : Option (List Char) × List Char :=
  match cs with
  | 'e' :: c :: rest =>
    if c.isDigit then
      let (ds, rest) := spanDigits Char.isDigit (c :: rest)
      (some ds, rest)
    else if c = '+' || c = '-' then
      let (ds, rest) := spanDigits Char.isDigit rest
      (some (c :: ds), rest)
    else (none, cs)
  | cs => (none, cs)

/-- Read a number without its sign: an integer of 64 bits, else a double. -/
def numberAt? (negative : Bool) (cs : List Char) : Option (Token × List Char) :=
  match cs with
  | '0' :: c :: rest =>
    if c = 'x' || c = 'X' then radixNumber? negative 16 (fun d => (Text.hexValue? d).isSome) rest
    else if c = 'o' || c = 'O' then radixNumber? negative 8 (fun d => '0' ≤ d && d ≤ '7') rest
    else if c = 'b' || c = 'B' then radixNumber? negative 2 (fun d => d = '0' || d = '1') rest
    else decimal? cs
  | cs => decimal? cs
where
  decimal? (cs : List Char) : Option (Token × List Char) :=
    let (whole, rest) := spanDigits Char.isDigit cs
    let (fraction, rest) := fractionAt rest
    let (exponent, rest) := exponentAt rest
    let text := (if negative then ['-'] else []) ++ whole ++ (match fraction with
      | some ds => '.' :: ds
      | none => []) ++ (match exponent with
      | some ds => 'e' :: ds
      | none => [])
    match Decimal.readInt64? text with
    | some value => some (.int value, rest)
    | none => (Decimal.readDouble? text).map fun value => (.float value, rest)

/-- A literal text, unless it is too long. -/
def literal? (limits : Limits) (cs : List Char) : Option String :=
  let text := String.ofList cs
  if Limits.beyond limits.stringSize text.utf8ByteSize then none else some text

mutual

/-- Cut a script into tokens.  Inside a block of a text in back-ticks `depth` counts the open
braces, and the closing brace of the block ends the list. -/
def scanFrom (limits : Limits) : Nat → Option Nat → List Placed → Position → List Char →
    Option (List Placed × Position × List Char)
  | 0, _, _, _, _ => none
  | fuel + 1, depth, sofar, p, cs =>
    let go := scanFrom limits fuel depth
    let found := fun (token : Token) => (token, p) :: sofar
    let signed := match sofar with
      | [] => true
      | (token, _) :: _ => token.admitsSign
    match cs with
    | [] => if depth.isNone then some (sofar.reverse, p, []) else none
    | '/' :: '/' :: rest =>
      let comment := rest.takeWhile fun c => c ≠ '\n' && c ≠ '\r'
      match rest.dropWhile fun c => c ≠ '\n' && c ≠ '\r' with
      | '\r' :: '\n' :: rest => go sofar (p.after '\n') rest
      | _ :: rest => go sofar (p.after '\n') rest
      | [] => go sofar (p.along (comment.length + 2)) []
    | '/' :: '*' :: rest =>
      let (p, rest) := skipComment 1 (p.along 2) rest
      go sofar p rest
    | '"' :: rest =>
      match quoted '"' true p.column (rest.length + 1) 0 [] (p.along 1) rest with
      | none => none
      | some (text, q, rest) =>
        match literal? limits text with
        | none => none
        | some text => go (found (.string text)) q rest
    | '\'' :: '\'' :: _ => none
    | '\'' :: rest =>
      match quoted '\'' false p.column (rest.length + 1) 0 [] (p.along 1) rest with
      | some ([c], q, rest) =>
        match literal? limits [c] with
        | none => none
        | some _ => go (found (.char c)) q rest
      | _ => none
    | '`' :: rest =>
      let (q, rest) := match rest with
        | '\r' :: '\n' :: more | '\r' :: more | '\n' :: more => (p.after '\n', more)
        | rest => (p.along 1, rest)
      match scanTemplate limits fuel [] q rest with
      | none => none
      | some ([.inl (text, _)], q, rest) => go (found (.string text)) q rest
      | some (parts, q, rest) => go (found (.template parts)) q rest
    | '#' :: '#' :: rest => raw limits fuel depth sofar p ('#' :: '#' :: rest)
    | '#' :: '"' :: rest => raw limits fuel depth sofar p ('#' :: '"' :: rest)
    | '!' :: 'i' :: 'n' :: c :: rest =>
      if inWord c then go (found (.mark "!")) (p.along 1) ('i' :: 'n' :: c :: rest)
      else go (found (.mark "!in")) (p.along 3) (c :: rest)
    | '-' :: c :: rest =>
      if c.isDigit && signed then
        match numberAt? true (c :: rest) with
        | none => none
        | some (token, after) =>
          go (found token) (p.along (rest.length + 2 - after.length)) after
      else operator limits fuel depth sofar p cs
    | c :: rest =>
      if Text.isBlank c then go sofar (p.after c) rest
      else if c.isDigit then
        match numberAt? false (c :: rest) with
        | none => none
        | some (token, after) =>
          go (found token) (p.along (rest.length + 1 - after.length)) after
      else if startsWord c then
        let name := (c :: rest).takeWhile inWord
        let rest := (c :: rest).dropWhile inWord
        if name = ['_'] || isName name then
          go (found (.word (String.ofList name))) (p.along name.length) rest
        else none
      else operator limits fuel depth sofar p cs

/-- Read a raw text, and go on. -/
def raw (limits : Limits) : Nat → Option Nat → List Placed → Position → List Char →
    Option (List Placed × Position × List Char)
  | 0, _, _, _, _ => none
  | fuel + 1, depth, sofar, p, cs =>
    let signs := (cs.takeWhile (· = '#')).length
    match cs.drop signs with
    | '"' :: rest =>
      match rawText signs [] (p.along (signs + 1)) rest with
      | none => none
      | some (text, q, rest) =>
        match literal? limits text with
        | none => none
        | some text => scanFrom limits fuel depth ((.string text, p) :: sofar) q rest
    | _ => none

/-- Read a mark, and go on. -/
def operator (limits : Limits) : Nat → Option Nat → List Placed → Position → List Char →
    Option (List Placed × Position × List Char)
  | 0, _, _, _, _ => none
  | fuel + 1, depth, sofar, p, cs =>
    match markAt? cs with
    | none => none
    | some (text, rest) =>
      let go := fun depth =>
        scanFrom limits fuel depth ((.mark text, p) :: sofar) (p.along text.length) rest
      match depth with
      | none => go none
      | some open_ =>
        if text = "\x7d" then
          if open_ = 0 then some (sofar.reverse, p.along 1, rest) else go (some (open_ - 1))
        else if text = "\x7b" || text = "#\x7b" then go (some (open_ + 1))
        else go depth

/-- Read the pieces of a text in back-ticks after its opening mark. -/
def scanTemplate (limits : Limits) : Nat → List Piece → Position → List Char →
    Option (List Piece × Position × List Char)
  | 0, _, _, _ => none
  | fuel + 1, sofar, p, cs =>
    match literalPiece (cs.length + 1) [] p cs with
    | none => none
    | some (more, text, q, rest) =>
      match literal? limits text with
      | none => none
      | some text =>
        let sofar := .inl (text, p) :: sofar
        if more then
          match scanFrom limits fuel (some 0) [] (q.along 1) (rest.drop 1) with
          | none => none
          | some (tokens, after, rest) =>
            scanTemplate limits fuel (.inr (tokens, q) :: sofar) after rest
        else some (sofar.reverse, q, rest)

end

/-- The tokens of a script; nothing if it cannot be cut into tokens. -/
def scan (limits : Limits) (script : String) : Option (List Placed) :=
  (scanFrom limits (3 * script.length + 3) none [] {} script.toList).map (·.1)

end Token

end Workflow.Script
