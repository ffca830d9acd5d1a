import Workflow.Script.Fault
import Workflow.Script.Limits
import Workflow.Script.Term
import Workflow.Script.Token

/-!
# Reading scripts

A recursive descent over tokens.  Names are resolved while reading: a name that is neither defined
nor given from outside makes a script unreadable, and so does an assignment to a constant.  A
closure shares the names that it does not define itself with its surroundings.  Functions stand at
the outermost level only and do not see the names around them.

Every form counts as some levels of nesting, and a script that is nested too deeply is unreadable
too.  The levels of a form are those of the calls to `deeper` on the way to the terms inside it.
-/

namespace Workflow.Script

namespace Parser

/-- What surrounds a term. -/
structure Place where
  /-- How deep the term is nested. -/
  level : Nat := 0
  outermost : Bool := true
  inFunction : Bool := false
  inClosure : Bool := false
  inLoop : Bool := false

/-- What is known from outside. -/
structure Setting where
  limits : Limits
  /-- The names that are given to the script. -/
  given : List String

/-- What reading has come to. -/
structure State where
  tokens : List Placed
  /-- The names in scope, the innermost first, and whether they are constants. -/
  names : List (String × Bool) := []
  /-- The names that a closure shares with its surroundings, and where it first uses them. -/
  shared : List (String × Position) := []
  functions : List Function := []
  /-- How many closures have been read. -/
  closures : Nat := 0

/-- A step of reading; nothing if the script is not well formed. -/
abbrev Step := ReaderT Setting (StateT State Option)

/-- The words with a meaning of their own. -/
def keywords : List String :=
  ["let", "const", "if", "else", "switch", "do", "until", "while", "loop", "for", "in", "fn",
   "private", "continue", "break", "return", "throw", "try", "catch", "import", "export", "as",
   "global", "true", "false", "this"]

/-- The words that are kept back. -/
def reserved : List String :=
  ["public", "protected", "super", "new", "use", "module", "package", "var", "static", "shared",
   "with", "is", "goto", "match", "case", "default", "void", "null", "nil", "spawn",
   "thread", "go", "sync", "async", "await", "yield", "eval"]

/-- The words that name a function and nothing else. -/
def functionWords : List String :=
  ["print", "debug", "type_of", "call", "curry", "Fn", "is_def_var", "is_def_fn", "is_shared"]

/-- The words of these that can be called on a value. -/
def methodWords : List String :=
  ["type_of", "call", "curry", "is_shared"]

/-- Whether a word can name a variable. -/
def isVariable (word : String) : Bool :=
  !keywords.contains word && !reserved.contains word && !functionWords.contains word && word ≠ "_"

/-- Whether a word can name a function. -/
def isCallable (word : String) : Bool :=
  isVariable word || functionWords.contains word

/-- The strength of an operator between two terms; a stronger one binds first. -/
def strength (token : Token) : Nat :=
  match token with
  | .mark "||" | .mark "|" | .mark "^" => 30
  | .mark "&&" | .mark "&" => 60
  | .mark "==" | .mark "!=" => 90
  | .word "in" | .mark "!in" => 110
  | .mark "<" | .mark "<=" | .mark ">" | .mark ">=" => 130
  | .mark "??" => 135
  | .mark ".." | .mark "..=" => 140
  | .mark "+" | .mark "-" => 150
  | .mark "*" | .mark "/" | .mark "%" => 180
  | .mark "**" => 190
  | .mark "<<" | .mark ">>" => 210
  | _ => 0

/-- Whether an operator binds to the right among its like. -/
def bindsRight (token : Token) : Bool :=
  match token with
  | .mark "**" => true
  | _ => false

/-- The operator that a mark stands for. -/
def operator? (mark : String) : Option Operator :=
  Operator.all.find? fun op => op.mark = mark

/-- The operator that a mark of assignment applies first. -/
def assignment? (mark : String) : Option (Option Operator) :=
  if mark = "=" then some none
  else (Operator.all.find? fun op => op.canAssign && op.mark ++ "=" = mark).map some

/-- Whether a term may be true or false, as far as its form tells. -/
def mayBeBool : Expr → Bool
  | .constant value _ =>
    match value with
    | .bool _ | .function .. => true
    | _ => false
  | .template .. | .array .. | .map .. => false
  | _ => true

/-- Whether a term may be gone through item by item, as far as its form tells. -/
def mayBeIterable : Expr → Bool
  | .constant value _ =>
    match value with
    | .function .. => true
    | _ => false
  | .map .. => false
  | _ => true

/-- Whether an index may fit what it looks into, as far as their forms tell. -/
def mayIndex (target index : Expr) : Bool :=
  match index with
  | .both .. | .either .. => false
  | .constant (.int _) _ =>
    match target with
    | .constant value _ =>
      match value with
      | .int _ | .string _ | .function .. => true
      | _ => false
    | .map .. | .both .. | .either .. => false
    | _ => true
  | .constant (.string _) _ | .template .. =>
    match target with
    | .constant value _ =>
      match value with
      | .function .. => true
      | _ => false
    | .array .. | .template .. | .both .. | .either .. => false
    | _ => true
  | .constant value _ =>
    match value with
    | .function .. => true
    | _ => false
  | _ => true

/-- The term of an operator between two terms; nothing where a literal cannot be an operand. -/
def combine? (token : Token) (left right : Expr) (p : Position) : Option Expr :=
  match token with
  | .mark "&&" => if mayBeBool left && mayBeBool right then some (.both left right p) else none
  | .mark "||" => if mayBeBool left && mayBeBool right then some (.either left right p) else none
  | .mark "??" => some (.otherwise left right p)
  | .word "in" => some (.call "contains" [right, left] left.start)
  | .mark "!in" => some (.sign .not (.call "contains" [right, left] left.start) left.start)
  | .mark mark => (operator? mark).map fun op => .binary op left right p
  | _ => none

/-- Whether all steps of a chain are items in brackets. -/
def onlyItems (links : List Link) : Bool :=
  links.all fun
    | .item .. => true
    | _ => false

/-- A term and the properties and calls that follow it.  They go on with the chain of items in
brackets that stands before them, but a chain that has properties already is a term of its own. -/
def dotted (root : Expr) (links : List Link) (p : Position) : Expr :=
  match root with
  | .chain inner before q =>
    if onlyItems before then .chain inner (before ++ links) q else .chain root links p
  | root => .chain root links p

/-- Whether nothing that could end a range follows. -/
def endsRange (token : Token) : Bool :=
  match token with
  | .mark text => ["]", ")", "\x7d", ",", ";", "=>"].contains text
  | _ => false

/-- Whether a token is the operator of a range. -/
def isRangeMark (token : Token) : Bool :=
  match token with
  | .mark ".." | .mark "..=" => true
  | _ => false

/-- The token ahead. -/
def peek : Step (Option Token) := do
  return (← get).tokens.head?.map (·.1)

/-- The position ahead. -/
def here : Step Position := do
  return match (← get).tokens with
    | (_, p) :: _ => p
    | [] => .nowhere

/-- Take the token ahead; nothing at the end. -/
def take : Step Token := do
  match (← get).tokens with
  | [] => failure
  | (token, _) :: rest =>
    modify fun s => { s with tokens := rest }
    return token

/-- Whether the token ahead is a mark. -/
def seesMark (text : String) : Step Bool := do
  match ← peek with
  | some (.mark mark) => return mark = text
  | _ => return false

/-- Whether the token ahead is a word. -/
def seesWord (text : String) : Step Bool := do
  match ← peek with
  | some (.word word) => return word = text
  | _ => return false

/-- Take a mark if it is ahead. -/
def tryMark (text : String) : Step Bool := do
  if ← seesMark text then
    let _ ← take
    return true
  else return false

/-- Take a word if it is ahead. -/
def tryWord (text : String) : Step Bool := do
  if ← seesWord text then
    let _ ← take
    return true
  else return false

/-- Take a mark that has to be there. -/
def mark (text : String) : Step Unit := do
  unless ← tryMark text do failure

/-- Take a word that has to be there. -/
def word (text : String) : Step Unit := do
  unless ← tryWord text do failure

/-- Take the name of a variable. -/
def variableName : Step String := do
  match ← take with
  | .word name => if isVariable name then return name else failure
  | _ => failure

/-- One level further in. -/
def deeper (place : Place) : Step Place := do
  let limit := (← read).limits.depth
  if limit ≠ 0 && place.level ≥ limit then failure
  else return { place with level := place.level + 1 }

/-- Make a name known. -/
def introduce (name : String) (constant : Bool) : Step Unit :=
  modify fun s => { s with names := (name, constant) :: s.names }

/-- Do something and forget the names that it introduced. -/
def forgetting {α : Type} (step : Step α) : Step α := do
  let names := (← get).names
  let result ← step
  modify fun s => { s with names }
  return result

/-- Use a name that is not called, and tell whether the function around it defines it. -/
def useName (place : Place) (name : String) (p : Position) : Step Bool := do
  let state ← get
  let defined := state.names.any (·.1 = name)
  if defined || state.functions.any (·.name = name) then return defined
  else if place.inClosure then
    unless state.shared.any (·.1 = name) do
      set { state with shared := state.shared ++ [(name, p)] }
    return false
  else if (← read).given.contains name then return false
  else failure

/-- Whether a statement needs no semicolon after it. -/
def endsItself : Stmt → Bool
  | .branch .. | .choose .. | .block _ | .repeat .. | .forEach .. | .attempt .. => true
  | _ => false

/-- Whether the steps of a chain lead to a place. -/
def leadsToPlace : List Link → Bool
  | [] => true
  | .method .. :: _ => false
  | _ :: rest => leadsToPlace rest

/-- Whether a value can be assigned to a term.  Parts of constants are left to whoever carries out
the assignment. -/
def isAssignable (names : List (String × Bool)) : Expr → Bool
  | .variable_ name _ _ =>
    match names.lookup name with
    | some constant => !constant
    | none => true
  | .this _ => true
  | .chain (.variable_ ..) links _ | .chain (.this _) links _ => leadsToPlace links
  | _ => false

/-- Whether a list names something twice. -/
def repeats (names : List String) : Bool :=
  match names with
  | [] => false
  | name :: rest => rest.contains name || repeats rest

/-- Read the names of parameters up to a closing mark. -/
def parameters (closing : String) : Nat → Step (List String)
  | 0 => failure
  | fuel + 1 => do
    if ← tryMark closing then return []
    let name ← variableName
    if ← tryMark "," then return name :: (← parameters closing fuel)
    mark closing
    return [name]

/-- Whether a statement ends here. -/
def atEnd : Step Bool := do
  match ← peek with
  | none => return true
  | some (.mark text) => return text = ";" || text = "\x7d"
  | _ => return false

/-- Fail where a block stands for a term. -/
def noBlock : Step Unit := do
  if ← seesMark "\x7b" then failure

/-- The labels of an arm.  Ranges without an integer in them take nothing.  After a range a number
cannot be a label. -/
def labels? (ranges : Bool) : List Expr → Option (List Value)
  | [] => some []
  | term :: rest =>
    match term.literal? with
    | none => none
    | some value =>
      match value with
      | .range start stop closed =>
        if start < stop || (closed && start = stop) then
          (labels? true rest).map (value :: ·)
        else labels? ranges rest
      | .int _ | .float _ => if ranges then none else (labels? ranges rest).map (value :: ·)
      | _ => (labels? ranges rest).map (value :: ·)

mutual

/-- Read statements up to a closing brace or the end of the script. -/
def statements (place : Place) (closed : Bool) : Nat → Step (List Stmt)
  | 0 => failure
  | fuel + 1 => do
    if closed then
      if ← tryMark "\x7d" then return []
    else if (← peek).isNone then return []
    let first ← statement place fuel
    match first with
    | .skip => statements place closed fuel
    | _ =>
      if endsItself first then return first :: (← statements place closed fuel)
      else if ← tryMark ";" then return first :: (← statements place closed fuel)
      else if closed then
        mark "\x7d"
        return [first]
      else if (← peek).isNone then return [first]
      else failure

/-- Read statements in braces. -/
def block (place : Place) : Nat → Step (List Stmt)
  | 0 => failure
  | fuel + 1 => do
    mark "\x7b"
    let place ← deeper place
    forgetting (statements { place with outermost := false } true fuel)

/-- Read a statement. -/
def statement (place : Place) : Nat → Step Stmt
  | 0 => failure
  | fuel + 1 => do
    let p ← here
    match ← peek with
    | some (.mark ";") =>
      let _ ← take
      return .skip
    | some (.mark "\x7b") => return .block (← block (← deeper place) fuel)
    | some (.word "fn") => define place fuel
    | some (.word "private") =>
      let _ ← take
      define place fuel
    | some (.word "let") =>
      let _ ← take
      bind (← deeper place) false fuel
    | some (.word "const") =>
      let _ ← take
      bind (← deeper place) true fuel
    | some (.word "break") =>
      let _ ← take
      unless place.inLoop do failure
      if ← atEnd then return .leave none
      else return .leave (some (← expression (← deeper place) fuel))
    | some (.word "continue") =>
      let _ ← take
      unless place.inLoop do failure
      return .next
    | some (.word "return") =>
      let _ ← take
      if ← atEnd then return .give none
      else return .give (some (← expression (← deeper place) fuel))
    | some (.word "throw") =>
      let _ ← take
      if ← atEnd then return .throw none p
      else return .throw (some (← expression (← deeper place) fuel)) p
    | some (.word "try") =>
      let place ← deeper (← deeper place)
      let _ ← take
      let body ← block place fuel
      word "catch"
      let name ← do
        if ← tryMark "(" then
          let name ← variableName
          mark ")"
          pure (some name)
        else pure none
      let handler ← forgetting do
        match name with
        | some name => introduce name false
        | none => pure ()
        block place fuel
      return .attempt body name handler
    | some (.word "if") | some (.word "switch") | some (.word "while") | some (.word "loop")
    | some (.word "do") | some (.word "for") => compound place fuel
    | _ =>
      let place ← deeper { place with outermost := false }
      let target ← expression place fuel
      let p ← here
      match ← peek with
      | some (.mark text) =>
        match assignment? text with
        | none => return .expr target
        | some op =>
          let _ ← take
          let value ← expression (← deeper place) fuel
          unless isAssignable (← get).names target do failure
          return .assign op target value p
      | _ => return .expr target

/-- Read the definition of a function. -/
def define (place : Place) : Nat → Step Stmt
  | 0 => failure
  | fuel + 1 => do
    word "fn"
    unless place.outermost do failure
    let name ← do
      match ← take with
      | .word name => if isVariable name then pure name else failure
      | _ => failure
    mark "("
    let names ← parameters ")" fuel
    if repeats names then failure
    let state ← get
    if state.functions.any fun f => f.name = name && f.parameters.length = names.length then failure
    set { state with names := (names.map fun n => (n, false)).reverse, shared := [] }
    let body ← block (← deeper { level := 0, outermost := false, inFunction := true }) fuel
    modify fun s =>
      { s with
        names := state.names, shared := state.shared,
        functions := s.functions ++ [⟨name, names, body⟩] }
    return .skip

/-- Read the definition of a variable or constant. -/
def bind (place : Place) (constant : Bool) : Nat → Step Stmt
  | 0 => failure
  | fuel + 1 => do
    let name ← variableName
    let value ← do
      if ← tryMark "=" then expression { (← deeper place) with outermost := false } fuel
      else pure (.unit .nowhere)
    introduce name constant
    return .define name constant value

/-- Read a statement that branches or repeats. -/
def compound (place : Place) : Nat → Step Stmt
  | 0 => failure
  | fuel + 1 => do
    let place ← deeper (← deeper { place with outermost := false })
    match ← take with
    | .word "if" => branch place fuel
    | .word "switch" =>
      let subject ← expression place fuel
      mark "\x7b"
      choices place subject [] none fuel
    | .word "while" =>
      let condition ← condition place fuel
      return .repeat (some condition) (← block { place with inLoop := true } fuel)
    | .word "loop" => return .repeat none (← block { place with inLoop := true } fuel)
    | .word "do" =>
      let body ← block { place with inLoop := true } fuel
      let expected ← seesWord "while"
      unless expected || (← seesWord "until") do failure
      let _ ← take
      return .again body (← condition place fuel) expected
    | .word "for" =>
      let (name, counter) ← do
        if ← tryMark "(" then
          let name ← variableName
          mark ","
          let counter ← variableName
          mark ")"
          if name = counter then failure
          pure (name, some counter)
        else pure (← variableName, none)
      word "in"
      noBlock
      let subject ← expression place fuel
      unless mayBeIterable subject do failure
      forgetting do
        match counter with
        | some counter => introduce counter false
        | none => pure ()
        introduce name false
        return .forEach name counter subject (← block { place with inLoop := true } fuel)
    | _ => failure

/-- Read a branch after its first word. -/
def branch (place : Place) : Nat → Step Stmt
  | 0 => failure
  | fuel + 1 => do
    let condition ← condition place fuel
    let yes ← block place fuel
    if ← tryWord "else" then
      if ← tryWord "if" then
        return .branch condition yes [← branch (← deeper place) fuel]
      else return .branch condition yes (← block place fuel)
    else return .branch condition yes []

/-- Read a term that is true or false, and is not assigned to. -/
def condition (place : Place) : Nat → Step Expr
  | 0 => failure
  | fuel + 1 => do
    noBlock
    let value ← expression place fuel
    unless mayBeBool value do failure
    match ← peek with
    | some (.mark text) => if (assignment? text).isSome then failure else return value
    | _ => return value

/-- Read the arms of a choice. -/
def choices (place : Place) (subject : Expr) (arms : List Arm) (fallback : Option Expr) :
    Nat → Step Stmt
  | 0 => failure
  | fuel + 1 => do
    if ← tryMark "\x7d" then return .choose subject arms.reverse fallback
    if fallback.isSome then failure
    let terms ← do
      if ← tryWord "_" then pure none
      else pure (some (← alternatives place fuel))
    let condition ← do
      if ← tryWord "if" then
        if terms.isNone then failure
        condition place fuel
      else pure (.constant (.bool true) .nowhere)
    mark "=>"
    let p ← here
    let body ← forgetting (statement place fuel)
    unless ← tryMark "," do
      unless endsItself body || (← seesMark "\x7d") do failure
    let action : Expr := .block (match body with
      | .block body => body
      | .skip => []
      | body => [body]) p
    match terms with
    | none => choices place subject arms (some action) fuel
    | some terms =>
      let ranges := !(Arm.ranges arms).isEmpty
      match labels? ranges terms with
      | none => failure
      | some labels => choices place subject (.mk labels condition action :: arms) fallback fuel

/-- Read the terms of an arm, which are parted by bars. -/
def alternatives (place : Place) : Nat → Step (List Expr)
  | 0 => failure
  | fuel + 1 => do
    let first ← operand { place with outermost := false } fuel
    if ← tryMark "|" then return first :: (← alternatives place fuel)
    else return [first]

/-- Read a term in which a bar is no operator. -/
def operand (place : Place) : Nat → Step Expr
  | 0 => failure
  | fuel + 1 => do
    if ← seesMark "|" then failure
    let place ← deeper place
    binary place 1 true (← opening place fuel) fuel

/-- Read a term with a value. -/
def expression (place : Place) : Nat → Step Expr
  | 0 => failure
  | fuel + 1 => do
    let place ← deeper { place with outermost := false }
    binary place 1 false (← opening place fuel) fuel

/-- Read the first operand of a term, which a range can do without. -/
def opening (place : Place) : Nat → Step Expr
  | 0 => failure
  | fuel + 1 => do
    match ← peek with
    | some token => if isRangeMark token then return .unit (← here) else unary place fuel
    | none => failure

/-- Read operators that bind more strongly than a bound, and their right operands. -/
def binary (place : Place) (bound : Nat) (noBar : Bool) (left : Expr) : Nat → Step Expr
  | 0 => failure
  | fuel + 1 => do
    let p ← here
    match ← peek with
    | none => return left
    | some token =>
      let own := strength token
      let bar := match token with
        | .mark "|" => noBar
        | _ => false
      if bar || own < bound || (own = bound && !bindsRight token) then return left
      let _ ← take
      let q ← here
      let right ← match ← peek with
        | some next =>
          if isRangeMark token && endsRange next then pure (.unit q) else unary place fuel
        | none => failure
      let ahead := match ← peek with
        | some next => strength next
        | none => 0
      let right ← do
        if own < ahead || (own = ahead && bindsRight token) then
          binary (← deeper place) own noBar right fuel
        else pure right
      let place ← deeper place
      match combine? token left right p with
      | none => failure
      | some joined => binary place bound noBar joined fuel

/-- Read a term with its signs. -/
def unary (place : Place) : Nat → Step Expr
  | 0 => failure
  | fuel + 1 => do
    let p ← here
    match ← peek with
    | some (.mark "-") =>
      let _ ← take
      match ← unary (← deeper place) fuel with
      | .constant (.int value) _ =>
        if Value.fits (-value) then return .constant (.int (-value)) p
        else return .constant (.float (-Float.ofInt value)) p
      | .constant (.float value) _ => return .constant (.float (-value)) p
      | operand => return .sign .minus operand p
    | some (.mark "+") =>
      let _ ← take
      match ← unary (← deeper place) fuel with
      | .constant (.int value) q => return .constant (.int value) q
      | .constant (.float value) q => return .constant (.float value) q
      | operand => return .sign .plus operand p
    | some (.mark "!") =>
      let _ ← take
      return .sign .not (← unary (← deeper place) fuel) p
    | _ => trail place (← primary place fuel) fuel

/-- Read the items in brackets, properties and calls that follow a term. -/
def trail (place : Place) (target : Expr) : Nat → Step Expr
  | 0 => failure
  | fuel + 1 => do
    let p ← here
    match ← peek with
    | some (.mark "[") | some (.mark "?[") =>
      let links ← brackets (← deeper place) (some target) fuel
      trail place (.chain target links p) fuel
    | some (.mark ".") | some (.mark "?.") => return dotted target (← dots place fuel) p
    | _ => return target

/-- Read indexes in brackets that follow each other; the first may look into a known term. -/
def brackets (place : Place) (target : Option Expr) : Nat → Step (List Link)
  | 0 => failure
  | fuel + 1 => do
    let p ← here
    let safe ← seesMark "?["
    let _ ← take
    let index ← expression (← deeper place) fuel
    match target with
    | some target => unless mayIndex target index do failure
    | none => pure ()
    mark "]"
    let link := Link.item index safe p
    if (← seesMark "[") || (← seesMark "?[") then
      return link :: (← brackets (← deeper place) none fuel)
    else return [link]

/-- Read properties and calls that follow each other, with the items that follow each. -/
def dots (place : Place) : Nat → Step (List Link)
  | 0 => failure
  | fuel + 1 => do
    let safe ← seesMark "?."
    let _ ← take
    let place ← deeper place
    let p ← here
    match ← take with
    | .word name =>
      let first ← do
        if ← tryMark "(" then
          unless isVariable name || methodWords.contains name do failure
          pure (Link.method name (← items place ")" fuel) safe p)
        else if isVariable name then pure (Link.property name safe p)
        else failure
      let more ← do
        if (← seesMark "[") || (← seesMark "?[") then
          brackets (← deeper place) (some (.this p)) fuel
        else pure []
      if (← seesMark ".") || (← seesMark "?.") then
        return first :: more ++ (← dots place fuel)
      else return first :: more
    | _ => failure

/-- Read the arguments of a call up to a closing mark. -/
def items (place : Place) (closing : String) : Nat → Step (List Expr)
  | 0 => failure
  | fuel + 1 => do
    if ← tryMark closing then return []
    let first ← expression (← deeper place) fuel
    if ← tryMark "," then return first :: (← items place closing fuel)
    mark closing
    return [first]

/-- Read the items of a list up to its closing bracket. -/
def listItems (place : Place) (count : Nat) : Nat → Step (List Expr)
  | 0 => failure
  | fuel + 1 => do
    let limit := (← read).limits.listSize
    if limit ≠ 0 && count ≥ limit then failure
    if ← tryMark "]" then return []
    let first ← expression place fuel
    if ← tryMark "," then return first :: (← listItems place (count + 1) fuel)
    unless ← seesMark "]" do failure
    return first :: (← listItems place (count + 1) fuel)

/-- Read the entries of a map up to its closing brace. -/
def entries (place : Place) (count : Nat) : Nat → Step (List (String × Expr))
  | 0 => failure
  | fuel + 1 => do
    if ← tryMark "\x7d" then return []
    let name ← do
      match ← take with
      | .word name => if isVariable name then pure name else failure
      | .string name => pure name
      | _ => failure
    mark ":"
    let limit := (← read).limits.mapSize
    if limit ≠ 0 && count ≥ limit then failure
    let value ← expression place fuel
    if ← tryMark "," then return (name, value) :: (← entries place (count + 1) fuel)
    mark "\x7d"
    return [(name, value)]

/-- Read a closure after its opening mark. -/
def closure (place : Place) (names : List String) (p : Position) : Nat → Step Expr
  | 0 => failure
  | fuel + 1 => do
    if repeats names then failure
    let outer : State ← get
    set { outer with names := (names.map fun n => (n, false)).reverse, shared := [] }
    let place ← deeper place
    let body ← statement
      { level := place.level, outermost := false, inFunction := true, inClosure := true } fuel
    let inner : State ← get
    let shared : List (String × Position) := inner.shared
    let function : Function :=
      { name := s!"{Fault.closureMark}{inner.closures}"
        parameters := Assoc.keys shared ++ names
        body := match body with
          | .block body => body
          | .skip => []
          | body => [body] }
    set
      { inner with
        names := outer.names, shared := outer.shared, closures := inner.closures + 1,
        functions := inner.functions ++ [function] }
    let captured ← shared.mapM fun (name, q) => do
      return Expr.variable_ name (← useName place name q) q
    let pointer := Expr.constant (.function function.name []) p
    if captured.isEmpty then return pointer
    else return .block [.share shared, .expr (.call "curry" (pointer :: captured) p)] p

/-- Read a term without operators. -/
def primary (place : Place) : Nat → Step Expr
  | 0 => failure
  | fuel + 1 => do
    let p ← here
    match ← peek with
    | some (.word "if") | some (.word "switch") | some (.word "while") | some (.word "loop")
    | some (.word "do") | some (.word "for") => return .block [← compound place fuel] p
    | some (.mark "\x7b") => return .block (← block (← deeper place) fuel) p
    | _ =>
      match ← take with
      | .int value => return .constant (.int value) p
      | .float value => return .constant (.float value) p
      | .char value => return .constant (.char value) p
      | .string value => return .constant (.string value) p
      | .template pieces => return .template (← pieceTerms (← deeper place) pieces fuel) p
      | .mark "(" =>
        if ← tryMark ")" then return .unit p
        let inner ← expression (← deeper (← deeper place)) fuel
        mark ")"
        return inner
      | .mark "[" => return .array (← listItems (← deeper (← deeper place)) 0 fuel) p
      | .mark "#\x7b" =>
        let entries ← entries (← deeper (← deeper place)) 0 fuel
        if repeats (entries.map (·.1)) then failure
        return .map entries p
      | .mark "||" => closure place [] p fuel
      | .mark "|" => closure place (← parameters "|" fuel) p fuel
      | .word "true" => return .constant (.bool true) p
      | .word "false" => return .constant (.bool false) p
      | .word "this" => if place.inFunction then return .this p else failure
      | .word name =>
        if ← tryMark "(" then
          unless isCallable name do failure
          return .call name (← items place ")" fuel) p
        unless isVariable name do failure
        return .variable_ name (← useName place name p) p
      | _ => failure

/-- Read the pieces of a text in back-ticks. -/
def pieceTerms (place : Place) (pieces : List Piece) : Nat → Step (List Expr)
  | 0 => failure
  | fuel + 1 => do
    match pieces with
    | [] => return []
    | .inl (text, p) :: rest =>
      let rest ← pieceTerms place rest fuel
      return if text.isEmpty then rest else .constant (.string text) p :: rest
    | .inr (tokens, p) :: rest =>
      let after := (← get).tokens
      modify fun s => { s with tokens }
      let inner ← deeper place
      let body ← forgetting (statements { inner with outermost := false } false fuel)
      modify fun s => { s with tokens := after }
      return .block body p :: (← pieceTerms place rest fuel)

end

end Parser

/-- Read a script, given the names that it is handed; nothing if it is not well formed. -/
def Program.parse? (limits : Limits) (given : List String) (script : String) : Option Program := do
  let tokens ← Token.scan limits script
  let step := Parser.statements {} false (40 * (script.length + 4))
  let (body, state) ← (step.run ⟨limits, given⟩).run { tokens }
  return ⟨body, state.functions⟩

end Workflow.Script
