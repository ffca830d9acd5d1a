import Workflow.Decimal.Reading
import Workflow.Text.Pattern.Basic
import Workflow.Text.Pattern.Bracket
import Workflow.Width

/-!
# Reading patterns

`Pattern.parse?` reads a pattern and refuses what is none.  Flags such as `(?i)` hold from where
they stand up to the end of the group with a colon that they stand in.  A brace that starts no count
stands for itself, and so does one behind a count.
-/

namespace Workflow.Text.Pattern

/-- What the flags of a pattern say. -/
structure Flags where
  anyCase : Bool := false
  /-- Whether `^` and `$` match at the lines of a text. -/
  lines : Bool := false
  dotAll : Bool := false
  /-- Whether greedy marks and their opposites change places. -/
  swapped : Bool := false
  /-- Whether white space and comments are left out. -/
  spaced : Bool := false

/-- Where reading has come to. -/
structure Progress where
  left : List Char
  /-- Half the size of the pattern, which bounds the numbers of groups. -/
  half : Nat
  flags : Flags := {}
  groups : Nat := 0
  names : List (String × Nat) := []
  /-- Whether a group has been referred to by its number. -/
  numbered : Bool := false
  /-- The groups that have been referred to. -/
  wanted : List Nat := []

/-- Reading that may fail. -/
abbrev Reader := StateT Progress Option

namespace Reader

/-- What is left to read. -/
def left : Reader (List Char) := return (← get).left

/-- Go on at another place. -/
def goTo (cs : List Char) : Reader Unit := modify fun sofar => { sofar with left := cs }

/-- The flags that hold. -/
def flags : Reader Flags := return (← get).flags

/-- Set the flags. -/
def setFlags (flags : Flags) : Reader Unit := modify fun sofar => { sofar with flags }

end Reader

/-! ## White space and comments -/

/-- What follows a comment in parentheses. -/
def afterComment? : List Char → Option (List Char)
  | [] => none
  | ')' :: rest => some rest
  | '\\' :: rest =>
    match rest with
    | [] => none
    | _ :: rest => afterComment? rest
  | _ :: rest => afterComment? rest

/-- What follows white space and comments, of which there are so many at most. -/
def afterBlank? (spaced : Bool) : Nat → List Char → Option (List Char)
  | 0, cs => some cs
  | fuel + 1, cs =>
    match cs with
    | '(' :: '?' :: '#' :: rest => (afterComment? rest).bind (afterBlank? spaced fuel)
    | c :: rest =>
      if spaced && c = '#' then afterBlank? spaced fuel ((rest.dropWhile (· ≠ '\n')).drop 1)
      else if spaced && [' ', '\x0d', '\n', '\t'].contains c then afterBlank? spaced fuel rest
      else some cs
    | [] => some []

/-- Leave out white space and comments. -/
def skipBlank : Reader Unit := do
  let cs ← Reader.left
  Reader.goTo (← (afterBlank? (← Reader.flags).spaced cs.length cs : Option (List Char)))

/-! ## Counts -/

/-- The number at the start of a text, if it fits a machine word, and what follows it. -/
def decimal? (cs : List Char) : Option (Nat × List Char) :=
  let ds := cs.takeWhile Char.isDigit
  let n := Decimal.natOfDigits ds
  if ds.isEmpty || !Width.fits 64 n then none else some (n, cs.drop ds.length)

/-- How often a pattern is repeated, between braces, and what follows them. -/
def counts? (spaced : Bool) (cs : List Char) : Option (Nat × Option Nat × List Char) := do
  let blank := fun (cs : List Char) => afterBlank? spaced cs.length cs
  let cs ← blank cs
  let (least, cs) ← match cs with
    | ',' :: _ => some (0, cs)
    | cs => decimal? cs
  match ← blank cs with
  | '}' :: rest => return (least, some least, rest)
  | ',' :: rest =>
    let cs ← blank rest
    let (most, cs) := match decimal? cs with
      | some (most, rest) => (some most, rest)
      | none => (none, cs)
    match ← blank cs with
    | '}' :: rest => return (least, most, rest)
    | _ => none
  | _ => none

/-- The repetition at the start of a text, if there is one, and what follows it. -/
def repetition? (spaced : Bool) (cs : List Char) : Option (Nat × Option Nat × List Char) :=
  match cs with
  | '?' :: rest => some (0, some 1, rest)
  | '*' :: rest => some (0, none, rest)
  | '+' :: rest => some (1, none, rest)
  | '{' :: rest => counts? spaced rest
  | _ => none

/-- A pattern with the repetition that follows it. -/
def withRepetition (body : Pattern) : Reader Pattern := do
  skipBlank
  let flags ← Reader.flags
  match repetition? flags.spaced (← Reader.left) with
  | none => return body
  | some (least, most, rest) =>
    unless body.canRepeat do failure
    Reader.goTo rest
    skipBlank
    let cs ← Reader.left
    let lazy := cs.head? = some '?'
    let cs := if lazy then cs.drop 1 else cs
    let found := repeated body least most (lazy == flags.swapped)
    match cs with
    | '+' :: rest =>
      Reader.goTo rest
      return kept found
    | cs =>
      Reader.goTo cs
      return found

/-! ## Escapes -/

/-- What a backslash and the characters after it stand for. -/
inductive Escape where
  | literal (c : Char)
  | set (set : CharacterSet)
  /-- A set as it is written in brackets. -/
  | bracketed (text : String)
  /-- What has no place in brackets. -/
  | pattern (pattern : Pattern)

/-- The letters that stand for control characters. -/
def controls : List (Char × Char) :=
  [('a', '\x07'), ('e', '\x1b'), ('f', '\x0c'), ('n', '\n'), ('r', '\x0d'), ('t', '\t'),
   ('v', '\x0b')]

/-- The letters that stand for sets, with a capital for the complement. -/
def letterSet? (c : Char) : Option CharacterSet :=
  let set := fun (points : CodePoints) => some ((CharacterSet.points points).negatedIf c.isUpper)
  match c.toLower with
  | 'd' => set (Category.points "Nd")
  | 's' => set Property.whiteSpace
  | 'w' => set Property.wordCharacter
  | _ => none

/-- The letters that stand for places. -/
def place? (c : Char) : Option Pattern :=
  match c with
  | 'A' => some (row [edge .textStart])
  | 'z' => some (row [edge .textEnd])
  | 'b' => some (edge .word)
  | 'B' => some (edge .noWord)
  | '<' => some (edge .wordStart)
  | '>' => some (edge .wordEnd)
  | 'K' => some restart
  | 'G' => some origin
  | _ => none

/-- The character of a code point that is one. -/
def charOf? (code : Nat) : Option Char :=
  if code.isValidChar then some (Char.ofNat code) else none

/-- The value of hexadecimal digits. -/
def hex (cs : List Char) : Nat :=
  cs.foldl (fun total c => total * 16 + (hexValue? c).getD 0) 0

/-- The character of so many hexadecimal digits, or of up to eight in braces, and what follows. -/
def hexadecimal? (count : Nat) (cs : List Char) : Option (Char × List Char) :=
  let isDigit := fun c => (hexValue? c).isSome
  let fixed := cs.take count
  if fixed.length = count && fixed.all isDigit then
    (charOf? (hex fixed)).map fun c => (c, cs.drop count)
  else
    match cs with
    | '{' :: rest =>
      let digits := rest.takeWhile isDigit
      match rest.drop digits.length with
      | '}' :: rest =>
        if digits.isEmpty || digits.length > 8 then none
        else (charOf? (hex digits)).map fun c => (c, rest)
      | _ => none
    | _ => none

/-- The set of a name between braces: a name alone, or one of a property and one of its value. -/
def namedSet? (name : List Char) : Option CharacterSet :=
  let before := name.takeWhile fun c => c ≠ '=' && c ≠ ':'
  let property := String.ofList before
  match name.drop before.length with
  | [] => CharacterSet.ofName? property
  | mark :: value =>
    let value := String.ofList value
    if mark = '=' && property.endsWith "!" then
      (CharacterSet.ofValue? (property.dropEnd 1).toString value).map .outside
    else CharacterSet.ofValue? property value

/-- The set of a name after the letter `p`, and what follows it. -/
def propertySet? (cs : List Char) : Option (CharacterSet × List Char) :=
  match cs with
  | '{' :: rest =>
    let name := rest.takeWhile (· ≠ '}')
    match rest.drop name.length with
    | _ :: after => (namedSet? name).map fun set => (set, after)
    | [] => none
  | c :: rest =>
    if c = '\\' then none
    else (CharacterSet.ofName? (String.singleton c)).map fun set => (set, rest)
  | [] => none

/-- The name at the start of a text, up to a closing mark, and what follows the mark. -/
def name? (closing : Char) (cs : List Char) : Option (String × List Char) :=
  let name := cs.takeWhile fun c => Property.alphanumeric.holds c.toNat || c = '_'
  match cs.drop name.length with
  | c :: rest => if c = closing && !name.isEmpty then some (String.ofList name, rest) else none
  | [] => none

/-- Refer to a group, which has to be there already. -/
def refer (number : Nat) : Reader Pattern := do
  unless number ≤ (← get).groups do failure
  modify fun sofar => { sofar with wanted := number :: sofar.wanted }
  return again number

/-- Refer to a group by the number ahead. -/
def referByNumber : Reader Pattern := do
  let (number, rest) ← (decimal? (← Reader.left) : Option (Nat × List Char))
  unless number < (← get).half do failure
  modify fun sofar => { sofar with left := rest, numbered := true }
  refer number

/-- Refer to a group by the name ahead, which may be a number. -/
def referByName (closing : Char) : Reader Pattern := do
  let (name, rest) ← (name? closing (← Reader.left) : Option (String × List Char))
  let named := ((← get).names.find? (·.1 = name)).map (·.2)
  let number ← (named.or ((decimal? name.toList).bind fun (number, rest) =>
    if rest.isEmpty then some number else none) : Option Nat)
  Reader.goTo rest
  refer number

/-- Read what follows a backslash. -/
def escape (inBrackets : Bool) : Reader Escape := do
  let anyCase := (← Reader.flags).anyCase
  match ← Reader.left with
  | [] => failure
  | c :: rest =>
    if c.isDigit then return .pattern (← referByNumber)
    Reader.goTo rest
    let hexadecimal := fun (count : Nat) => do
      let (c, rest) ← (hexadecimal? count rest : Option (Char × List Char))
      Reader.goTo rest
      return Escape.literal c
    if c = 'k' && !inBrackets then
      match rest with
      | '<' :: rest =>
        Reader.goTo rest
        return .pattern (← referByName '>')
      | _ => failure
    else if let some place := if inBrackets then none else place? c then return .pattern place
    else if c = 'b' then return .literal '\x08'
    else if let some control := controls.lookup c then return .literal control
    else if let some set := letterSet? c then return .set set
    else if c = 'h' then return .bracketed "[0-9A-Fa-f]"
    else if c = 'H' then return .bracketed "[^0-9A-Fa-f]"
    else if c = 'x' then hexadecimal 2
    else if c = 'u' then hexadecimal 4
    else if c = 'U' then hexadecimal 8
    else if c = 'p' || c = 'P' then
      let (set, rest) ← (propertySet? rest : Option (CharacterSet × List Char))
      Reader.goTo rest
      return .set ((set.anyCaseIf anyCase).negatedIf (c = 'P'))
    else
      unless !c.isAlpha && c.toNat < 0x80 do failure
      return .literal c

/-! ## Sets in brackets -/

/-- The pieces of a text that is written in brackets. -/
def plainTokens (text : String) : List Bracket.Token :=
  text.toList.map .plain

/-- Collect the pieces of a set up to the bracket that closes it; so many at most. -/
def bracketTokens : Nat → Nat → List Bracket.Token → Reader (List Bracket.Token)
  | 0, _, _ => failure
  | fuel + 1, depth, sofar => do
    skipBlank
    match ← Reader.left with
    | [] => failure
    | '\\' :: rest =>
      Reader.goTo rest
      match ← escape true with
      | .literal c => bracketTokens fuel depth (.literal c :: sofar)
      | .set set => bracketTokens fuel depth (.set set :: sofar)
      | .bracketed text => bracketTokens fuel depth ((plainTokens text).reverse ++ sofar)
      | .pattern _ => failure
    | c :: rest =>
      Reader.goTo rest
      let sofar := .plain c :: sofar
      if c = '[' then bracketTokens fuel (depth + 1) sofar
      else if c = ']' then
        if depth = 0 then return sofar.reverse else bracketTokens fuel (depth - 1) sofar
      else bracketTokens fuel depth sofar

/-- Read a set after its opening bracket. -/
def bracket : Reader Pattern := do
  let cs ← Reader.left
  let (caret, cs) := match cs with
    | '^' :: rest => ([Bracket.Token.plain '^'], rest)
    | cs => ([], cs)
  let (closing, cs) := match cs with
    | ']' :: rest => ([Bracket.Token.plain ']'], rest)
    | cs => ([], cs)
  Reader.goTo cs
  let tokens ← bracketTokens (cs.length + 1) 0 (closing ++ caret)
  return one (← (Bracket.ofTokens? (← Reader.flags).anyCase tokens : Option CharacterSet))

/-! ## Groups -/

/-- The deepest that groups may stand in each other. -/
def maxDepth : Nat := 63

/-- What the letter of a flag does. -/
def Flags.set? (flags : Flags) (wanted : Bool) (c : Char) : Option Flags :=
  match c with
  | 'i' => some { flags with anyCase := wanted }
  | 'm' => some { flags with lines := wanted }
  | 's' => some { flags with dotAll := wanted }
  | 'U' => some { flags with swapped := wanted }
  | 'x' => some { flags with spaced := wanted }
  | 'u' => if wanted then some flags else none
  | _ => none

/-- Read flags up to the mark behind them; `letters` counts what has been read.  The mark is given
back. -/
def setFlags : Nat → (letters : Nat) → (wanted : Bool) → Reader Char
  | 0, _, _ => failure
  | fuel + 1, letters, wanted => do
    skipBlank
    match ← Reader.left with
    | [] => failure
    | c :: rest =>
      Reader.goTo rest
      if c = ')' then
        unless letters > if wanted then 0 else 1 do failure
        return c
      else if c = ':' then
        unless wanted || letters > 1 do failure
        return c
      else if c = '-' then
        unless wanted do failure
        setFlags fuel (letters + 1) false
      else
        Reader.setFlags (← ((← Reader.flags).set? wanted c : Option Flags))
        setFlags fuel (letters + 1) wanted

/-- Read a closing parenthesis. -/
def close : Reader Unit := do
  skipBlank
  match ← Reader.left with
  | ')' :: rest => Reader.goTo rest
  | _ => failure

/-- Open a group and give it a number. -/
def openGroup : Reader Nat := do
  modify fun sofar => { sofar with groups := sofar.groups + 1 }
  return (← get).groups

/-- Open a group with the name ahead. -/
def openNamed : Reader Nat := do
  let number ← openGroup
  let (name, rest) ← (name? '>' (← Reader.left) : Option (String × List Char))
  modify fun sofar => { sofar with left := rest, names := (name, number) :: sofar.names }
  return number

/-- Patterns in a row as one. -/
def inRow : List Pattern → Pattern
  | [] => nothing
  | [part] => part
  | parts => row parts

/-- Patterns to choose from as one. -/
def inChoice : List Pattern → Pattern
  | [single] => single
  | choices => either choices

/-- Whether nothing is asked for. -/
def isNothing : Pattern → Bool
  | nothing => true
  | _ => false

mutual

/-- Read a pattern up to a closing parenthesis or the end. -/
def whole : Nat → (depth : Nat) → Reader Pattern
  | 0, _ => failure
  | fuel + 1, depth => do
    let first ← parts fuel depth []
    skipBlank
    if (← Reader.left).head? = some '|' then
      return either (← choices fuel depth [first])
    else
      let sofar ← get
      unless !sofar.numbered || sofar.names.isEmpty do failure
      return first

/-- Read the choices behind bars, after some. -/
def choices : Nat → (depth : Nat) → List Pattern → Reader (List Pattern)
  | 0, _, _ => failure
  | fuel + 1, depth, sofar => do
    match ← Reader.left with
    | '|' :: rest =>
      Reader.goTo rest
      let next ← parts fuel depth []
      skipBlank
      choices fuel depth (next :: sofar)
    | _ => return sofar.reverse

/-- Read patterns in a row, after some. -/
def parts : Nat → (depth : Nat) → List Pattern → Reader Pattern
  | 0, _, _ => failure
  | fuel + 1, depth, sofar => do
    let before := (← Reader.left).length
    if before = 0 then return inRow sofar.reverse
    let part ← withRepetition (← atom fuel depth)
    if (← Reader.left).length = before then return inRow sofar.reverse
    parts fuel depth (if part.isNothing then sofar else part :: sofar)

/-- Read one pattern. -/
def atom : Nat → (depth : Nat) → Reader Pattern
  | 0, _ => failure
  | fuel + 1, depth => do
    skipBlank
    let flags ← Reader.flags
    match ← Reader.left with
    | [] => return nothing
    | c :: rest =>
      if ['+', '*', '?', '|', ')'].contains c then return nothing
      Reader.goTo rest
      match c with
      | '.' => return one (if flags.dotAll then .full else .outside (.single '\n'))
      | '^' => return edge (if flags.lines then .lineStart else .textStart)
      | '$' => return edge (if flags.lines then .lineEnd else .textEnd)
      | '(' =>
        unless depth < maxDepth do failure
        skipBlank
        inParentheses fuel (depth + 1)
      | '[' => bracket
      | '\\' =>
        match ← escape false with
        | .literal c => return one ((CharacterSet.single c).anyCaseIf flags.anyCase)
        | .set set => return one set
        | .bracketed text =>
          return one (← (Bracket.ofTokens? false ((plainTokens text).drop 1) : Option CharacterSet))
        | .pattern found => return found
      | c => return one ((CharacterSet.single c).anyCaseIf flags.anyCase)

/-- Read what stands in parentheses after the opening one. -/
def inParentheses : Nat → (depth : Nat) → Reader Pattern
  | 0, _ => failure
  | fuel + 1, depth => do
    let body := fun (rest : List Char) => do
      Reader.goTo rest
      let found ← whole fuel depth
      close
      return found
    match ← Reader.left with
    | '?' :: '=' :: rest => return look false true (← body rest)
    | '?' :: '!' :: rest => return look false false (← body rest)
    | '?' :: '<' :: '=' :: rest => return look true true (← body rest)
    | '?' :: '<' :: '!' :: rest => return look true false (← body rest)
    | '?' :: '<' :: rest | '?' :: 'P' :: '<' :: rest =>
      Reader.goTo rest
      let number ← openNamed
      return group number (← body (← Reader.left))
    | '?' :: 'P' :: '=' :: rest =>
      Reader.goTo rest
      referByName ')'
    | '?' :: '>' :: rest => return kept (← body rest)
    | '?' :: '(' :: rest =>
      Reader.goTo rest
      conditional fuel depth
    | '?' :: rest =>
      let flags ← Reader.flags
      Reader.goTo rest
      let mark ← setFlags (rest.length + 1) 0 true
      if mark = ')' then return nothing
      else
        let found ← whole fuel depth
        match ← Reader.left with
        | ')' :: rest =>
          Reader.goTo rest
          Reader.setFlags flags
          return found
        | _ => failure
    | rest =>
      let number ← openGroup
      return group number (← body rest)

/-- Read a choice by a test after the opening parenthesis of the test. -/
def conditional : Nat → (depth : Nat) → Reader Pattern
  | 0, _ => failure
  | fuel + 1, depth => do
    let test ← match ← Reader.left with
      | [] => failure
      | c :: rest =>
        if c.isDigit then referByNumber
        else if c = '\'' then do
          Reader.goTo rest
          referByName '\''
        else if c = '<' then do
          Reader.goTo rest
          referByName '>'
        else whole fuel depth
    close
    let start := (← Reader.left).length
    let found ← whole fuel depth
    let number? := match test with
      | again number => some number
      | _ => none
    if (← Reader.left).length = start then
      let number ← (number? : Option Nat)
      close
      return known number
    let (whenTrue, whenFalse) := match found with
      | either (first :: rest) => (first, inChoice rest)
      | found => (found, nothing)
    close
    let test := (number?.map known).getD test
    if whenTrue.isNothing && whenFalse.isNothing then return test
    else return choice test whenTrue whenFalse

end

/-- Read a whole pattern; the groups that are referred to and the number of groups come with it. -/
def parse? (text : String) : Option (Pattern × List Nat × Nat) := do
  let cs := text.toList
  let (found, sofar) ← (whole (6 * cs.length + 6) 0).run
    { left := cs, half := text.utf8ByteSize / 2 }
  if sofar.left.isEmpty then return (found, sofar.wanted, sofar.groups) else none

end Workflow.Text.Pattern
