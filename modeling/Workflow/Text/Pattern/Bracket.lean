import Workflow.Assoc
import Workflow.Text.CharacterSet

/-!
# Sets in brackets

The sets that patterns write in brackets: characters, ranges, other sets in brackets, named sets of
ASCII characters, and the operations `&&`, `--` and `~~`, which bind weaker than writing side by
side and are taken from left to right.
-/

namespace Workflow.Text.Bracket

/-- A piece of a set in brackets. -/
inductive Token where
  /-- A character as it is written. -/
  | plain (c : Char)
  /-- A character that stands for itself alone. -/
  | literal (c : Char)
  | set (set : CharacterSet)
deriving DecidableEq, Repr

/-- An operation of two sets. -/
inductive Operation where
  | meet | minus | differ
deriving DecidableEq, Repr

/-- The result of an operation. -/
def Operation.apply (operation : Operation) (a b : CharacterSet) : CharacterSet :=
  match operation with
  | meet => .both a b
  | minus => .both a (.outside b)
  | differ => .both (.either a b) (.outside (.both a b))

/-- The operation that two marks stand for. -/
def Operation.ofMark? (c : Char) : Option Operation :=
  if c = '&' then some meet
  else if c = '-' then some minus
  else if c = '~' then some differ
  else none

/-- A set that is being read: the operation that waits for its second set, and the members of the
set that come after it. -/
structure Progress where
  waiting : Option (Operation × CharacterSet) := none
  members : List CharacterSet := []

/-- Put a member to a set. -/
def Progress.add (sofar : Progress) (set : CharacterSet) : Progress :=
  { sofar with members := set :: sofar.members }

/-- The set that has been read.  In any case, each side of an operation is taken in any case. -/
def Progress.finish (anyCase : Bool) (sofar : Progress) : CharacterSet :=
  let last := CharacterSet.union sofar.members.reverse
  match sofar.waiting with
  | none => last
  | some (operation, first) =>
    operation.apply (first.anyCaseIf anyCase) (last.anyCaseIf anyCase)

/-- Start the second set of an operation. -/
def Progress.operate (anyCase : Bool) (operation : Operation) (sofar : Progress) : Progress :=
  { waiting := some (operation, sofar.finish anyCase) }

/-- A named set such as `:alpha:]` after its opening bracket, and what follows it. -/
def named? (anyCase : Bool) (tokens : List Token) : Option (CharacterSet × List Token) :=
  match tokens with
  | .plain ':' :: rest =>
    let (negated, rest) := match rest with
      | .plain '^' :: rest => (true, rest)
      | rest => (false, rest)
    let name := rest.takeWhile (· ≠ .plain ':')
    let letters := name.filterMap fun
      | .plain c => some c
      | _ => none
    match rest.drop name.length with
    | .plain ':' :: .plain ']' :: rest =>
      if letters.length = name.length then
        (Assoc.get? CharacterSet.ascii (String.ofList letters)).map fun set =>
          (((CharacterSet.points set).anyCaseIf anyCase).negatedIf negated, rest)
      else none
    | _ => none
  | _ => none

/-- The dashes, or the closing bracket, that stand for themselves at the start. -/
def leading (tokens : List Token) : Progress × List Token :=
  let dashes := tokens.takeWhile (· = .plain '-')
  if dashes.isEmpty then
    match tokens with
    | .plain ']' :: rest => ({ members := [.single ']'] }, rest)
    | tokens => ({}, tokens)
  else ({ members := [.single '-'] }, tokens.drop dashes.length)

/-- The character that a piece stands for. -/
def Token.char? : Token → Option Char
  | .plain c | .literal c => some c
  | .set _ => none

/-- The set that a piece stands for. -/
def Token.toSet : Token → CharacterSet
  | .plain c | .literal c => .single c
  | .set found => found

/-- A member that starts with a piece: a range if a dash follows that is neither the last piece nor
the start of an operation. -/
def member? (first : Token) (rest : List Token) : Option (CharacterSet × List Token) :=
  match rest with
  | .plain '-' :: second :: rest' =>
    if second = .plain ']' || second = .plain '-' then some (first.toSet, rest)
    else do
      let low ← first.char?
      let high ← second.char?
      if low ≤ high then return (.points [(low.toNat, high.toNat)], rest') else none
  | rest => some (first.toSet, rest)

mutual

/-- Read a set after its opening bracket; so many pieces at most. -/
def read? (anyCase : Bool) : Nat → List Token → Option (CharacterSet × List Token)
  | 0, _ => none
  | fuel + 1, tokens => do
    let (negated, tokens) := match tokens with
      | .plain '^' :: rest => (true, rest)
      | tokens => (false, tokens)
    let (sofar, tokens) := leading tokens
    let (set, rest) ← members? anyCase fuel sofar tokens
    return ((set.anyCaseIf anyCase).negatedIf negated, rest)

/-- Read the members of a set up to its closing bracket. -/
def members? (anyCase : Bool) : Nat → Progress → List Token → Option (CharacterSet × List Token)
  | 0, _, _ => none
  | fuel + 1, sofar, tokens =>
    match tokens with
    | [] => none
    | .plain ']' :: rest => some (sofar.finish anyCase, rest)
    | .plain '[' :: rest =>
      match (named? anyCase rest).or (read? anyCase fuel rest) with
      | none => none
      | some (set, rest) => members? anyCase fuel (sofar.add set) rest
    | first :: rest =>
      let operation := match first, rest with
        | .plain a, .plain b :: _ => if a = b then Operation.ofMark? a else none
        | _, _ => none
      match operation with
      | some operation => members? anyCase fuel (sofar.operate anyCase operation) (rest.drop 1)
      | none =>
        match member? first rest with
        | none => none
        | some (set, rest) => members? anyCase fuel (sofar.add set) rest

end

/-- Read a whole set after its opening bracket. -/
def ofTokens? (anyCase : Bool) (tokens : List Token) : Option CharacterSet :=
  match read? anyCase (2 * tokens.length + 2) tokens with
  | some (set, []) => some set
  | _ => none

end Workflow.Text.Bracket
