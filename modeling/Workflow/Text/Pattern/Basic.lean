import Workflow.Text.CharacterSet

/-!
# Patterns of text

Regular expressions with groups, looks ahead and back, groups that are kept as they matched first,
and references to what a group has matched.  A pattern is *tangled* if a part of it depends on more
than the characters before it, so that an automaton cannot match it.
-/

namespace Workflow.Text

/-- A place between two characters. -/
inductive Edge where
  | textStart | textEnd | lineStart | lineEnd
  /-- Between a character of a word and something else. -/
  | word
  | noWord | wordStart | wordEnd
deriving DecidableEq, Repr

/-- A pattern of text. -/
inductive Pattern where
  | nothing
  /-- One character. -/
  | one (set : CharacterSet)
  | edge (edge : Edge)
  | row (parts : List Pattern)
  | either (choices : List Pattern)
  /-- A pattern some times in a row, as often as possible or as seldom. -/
  | repeated (body : Pattern) (least : Nat) (most : Option Nat) (greedy : Bool)
  | group (number : Nat) (body : Pattern)
  /-- A look at what follows or comes before: it matches, or it does not. -/
  | look (back wanted : Bool) (body : Pattern)
  /-- A pattern that is not tried in another way once it has matched. -/
  | kept (body : Pattern)
  /-- What a group has matched. -/
  | again (number : Nat)
  /-- Whether a group has matched. -/
  | known (number : Nat)
  | choice (test whenTrue whenFalse : Pattern)
  /-- A place that counts as the start of the match from here on. -/
  | restart
  /-- The place where the search starts. -/
  | origin
deriving Repr, Inhabited

namespace Pattern

mutual

/-- The number of characters that a match has at least. -/
def leastSize : Pattern → Nat
  | one _ => 1
  | row parts => sumOfLeast parts
  | either choices => leastOfLeast choices
  | repeated body least _ _ => body.leastSize * least
  | group _ body | kept body => body.leastSize
  | choice test whenTrue whenFalse =>
    test.leastSize + min whenTrue.leastSize whenFalse.leastSize
  | _ => 0

/-- The sum of the least sizes. -/
def sumOfLeast : List Pattern → Nat
  | [] => 0
  | part :: rest => part.leastSize + sumOfLeast rest

/-- The least of the least sizes. -/
def leastOfLeast : List Pattern → Nat
  | [] => 0
  | [part] => part.leastSize
  | part :: rest => min part.leastSize (leastOfLeast rest)

end

mutual

/-- Whether all matches have the same number of characters. -/
def hasFixedSize : Pattern → Bool
  | again _ => false
  | row parts => allFixed parts
  | either choices => allFixed choices && allOfSize (leastOfLeast choices) choices
  | repeated body least most _ => body.hasFixedSize && most = some least
  | group _ body | kept body => body.hasFixedSize
  | choice test whenTrue whenFalse =>
    test.hasFixedSize && whenTrue.hasFixedSize && whenFalse.hasFixedSize
      && test.leastSize + whenTrue.leastSize = whenFalse.leastSize
  | _ => true

/-- Whether all patterns of a list have a fixed size. -/
def allFixed : List Pattern → Bool
  | [] => true
  | part :: rest => part.hasFixedSize && allFixed rest

/-- Whether all patterns of a list have a given least size. -/
def allOfSize (size : Nat) : List Pattern → Bool
  | [] => true
  | part :: rest => part.leastSize = size && allOfSize size rest

end

mutual

/-- Whether a pattern is tangled, given the groups that are referred to. -/
def isTangled (wanted : List Nat) : Pattern → Bool
  | look .. | kept _ | again _ | known _ | choice .. | restart | origin => true
  | group number body => wanted.contains number || body.isTangled wanted
  | row parts | either parts => anyTangled wanted parts
  | repeated body _ _ _ => body.isTangled wanted
  | nothing | one _ | edge _ => false

/-- Whether one of some patterns is tangled. -/
def anyTangled (wanted : List Nat) : List Pattern → Bool
  | [] => false
  | part :: rest => part.isTangled wanted || anyTangled wanted rest

end

/-- Whether a pattern can be repeated. -/
def canRepeat : Pattern → Bool
  | nothing | look .. => false
  | edge kind => kind = .word || kind = .noWord || kind = .wordStart || kind = .wordEnd
  | _ => true

end Pattern

end Workflow.Text
