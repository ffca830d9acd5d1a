import Workflow.Text.Pattern.Basic
import Workflow.Width

/-!
# Automata

A pattern that is not tangled becomes an automaton: steps that name the ones to go on with.  It is
built from its end, so that every pattern is a function from what follows to what it starts with.
`Automaton.firstEnd?` tries the steps in the order of preference and never comes back to a step at
the same place of the text, so its time is bounded by steps times characters.
-/

namespace Workflow.Text

/-! ## Places of a text -/

/-- Whether the character at a position belongs to a word. -/
def wordAt (text : Array Char) (position : Nat) : Bool :=
  text[position]?.any fun c => Property.wordCharacter.holds c.toNat

/-- Whether a position of a text is a place of a kind. -/
def Edge.holds (edge : Edge) (text : Array Char) (position : Nat) : Bool :=
  let before := position > 0 && wordAt text (position - 1)
  let after := wordAt text position
  match edge with
  | .textStart => position = 0
  | .textEnd => position = text.size
  | .lineStart => position = 0 || text[position - 1]? = some '\n'
  | .lineEnd => position = text.size || text[position]? = some '\n'
  | .word => before != after
  | .noWord => before == after
  | .wordStart => !before && after
  | .wordEnd => before && !after

namespace Pattern

/-- A step of an automaton. -/
inductive Step where
  | one (set : CharacterSet) (next : Nat)
  | edge (edge : Edge) (next : Nat)
  | fork (first second : Nat)
  | accept
deriving Repr

/-- Whether a step goes on in two ways. -/
def Step.isFork : Step → Bool
  | .fork .. => true
  | _ => false

/-- An automaton: its steps, and the number of the one to start with. -/
structure Automaton where
  start : Nat
  steps : Array Step
deriving Repr

namespace Automaton

/-- The automaton that matches without looking at anything. -/
def final : Automaton := ⟨0, #[.accept]⟩

/-- Put a step in front. -/
def push (after : Automaton) (step : Step) : Automaton :=
  ⟨after.steps.size, after.steps.push step⟩

/-- Put a choice in front: the start of one automaton, or the start of another that is part of
it. -/
def fork (first : Automaton) (second : Nat) (greedy : Bool) : Automaton :=
  first.push (if greedy then .fork first.start second else .fork second first.start)

/-- Put a step in front some times. -/
def times (inFront : Automaton → Automaton) : Nat → Automaton → Automaton
  | 0, after => after
  | n + 1, after => times inFront n (inFront after)

/-- Put a step in front that can be left out or come back to itself. -/
def loop (inFront : Automaton → Automaton) (greedy : Bool) (after : Automaton) : Automaton :=
  let place := after.steps.size
  let body := inFront (after.push (.fork after.start after.start))
  let step := if greedy then Step.fork body.start after.start else .fork after.start body.start
  ⟨place, body.steps.setIfInBounds place step⟩

/-- Follow steps from places, the last of which are tried first; `seen` are the places of steps that
have been tried. -/
def follow (steps : Array Step) (text : Array Char) :
    Nat → (seen : Array Bool) → List (Nat × Nat) → Option Nat
  | 0, _, _ => none
  | _, _, [] => none
  | fuel + 1, seen, (number, position) :: rest =>
    let place := number * (text.size + 1) + position
    if seen.getD place false then follow steps text fuel seen rest
    else
      let seen := seen.setIfInBounds place true
      match steps[number]? with
      | none => follow steps text fuel seen rest
      | some (.one set next) =>
        if text[position]?.any fun c => set.holds c.toNat then
          follow steps text fuel seen ((next, position + 1) :: rest)
        else follow steps text fuel seen rest
      | some (.edge kind next) =>
        if kind.holds text position then follow steps text fuel seen ((next, position) :: rest)
        else follow steps text fuel seen rest
      | some (.fork first second) =>
        follow steps text fuel seen ((first, position) :: (second, position) :: rest)
      | some .accept => some position

/-- The end of the match that is preferred, among those that start at the given positions. -/
def firstEnd? (automaton : Automaton) (text : Array Char) (positions : List Nat) : Option Nat :=
  let places := automaton.steps.size * (text.size + 1)
  let seen :=
    if automaton.steps.any Step.isFork || positions.length > 1 then Array.replicate places false
    else #[]
  follow automaton.steps text (2 * places + positions.length + 1) seen
    (positions.map fun position => (automaton.start, position))

end Automaton

/-! ## Automata of patterns -/

mutual

/-- Put a pattern in front of an automaton. -/
def inFront : Pattern → Automaton → Automaton
  | one set, after => after.push (.one set after.start)
  | edge kind, after => after.push (.edge kind after.start)
  | row parts, after => rowInFront parts after
  | either choices, after => choiceInFront choices after
  | repeated body least most greedy, after =>
    let more := match most with
      | none => Automaton.loop (fun after => body.inFront after) greedy after
      | some most =>
        Automaton.times (fun inner => (body.inFront inner).fork after.start greedy) (most - least)
          after
    Automaton.times (fun after => body.inFront after) least more
  | group _ body, after => body.inFront after
  | _, after => after

/-- Put patterns in a row in front of an automaton. -/
def rowInFront : List Pattern → Automaton → Automaton
  | [], after => after
  | part :: rest, after => part.inFront (rowInFront rest after)

/-- Put a choice of patterns in front of an automaton. -/
def choiceInFront : List Pattern → Automaton → Automaton
  | [], after => after
  | [part], after => part.inFront after
  | part :: rest, after =>
    let others := choiceInFront rest after
    (part.inFront ⟨after.start, others.steps⟩).fork others.start true

end

/-- The automaton of a pattern. -/
def automaton (pattern : Pattern) : Automaton :=
  pattern.inFront .final

mutual

/-- How many steps an automaton has, about. -/
def weight : Pattern → Nat
  | one (.points set) => if set.all (·.2 < 0x80) then 1 else 4
  | one _ => 4
  | row parts | either parts => sumOfWeights parts
  | repeated body least most _ => body.weight * max 1 (most.getD (least + 1))
  | group _ body => body.weight
  | _ => 1

/-- The sum of the weights. -/
def sumOfWeights : List Pattern → Nat
  | [] => 0
  | part :: rest => part.weight + sumOfWeights rest

end

/-- The greatest weight of a pattern. -/
def maxWeight : Nat := 250000

mutual

/-- Whether all counts are in order. -/
def countsAreSound : Pattern → Bool
  | row parts | either parts => allCountsAreSound parts
  | repeated body least most _ =>
    body.countsAreSound && Width.fits 32 least
      && most.all fun most => least ≤ most && Width.fits 32 most
  | group _ body => body.countsAreSound
  | _ => true

/-- Whether the counts of all patterns of a list are in order. -/
def allCountsAreSound : List Pattern → Bool
  | [] => true
  | part :: rest => part.countsAreSound && allCountsAreSound rest

end

/-- The automaton of a pattern whose counts are in order and not too large. -/
def automaton? (pattern : Pattern) : Option Automaton :=
  if pattern.countsAreSound && pattern.weight ≤ maxWeight then some pattern.automaton else none

end Pattern

end Workflow.Text
