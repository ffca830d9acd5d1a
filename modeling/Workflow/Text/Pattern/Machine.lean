import Workflow.Text.Pattern.Automaton

/-!
# Machines for tangled patterns

A tangled pattern is matched by trying its choices one after another.  Parts that are not tangled
are matched by automata where nothing depends on how they match.  A machine gives up after so many
choices that it had to take back.
-/

namespace Workflow.Text.Pattern

/-- A move of a machine.  Most name the move to go on with. -/
inductive Move where
  | one (set : CharacterSet) (next : Nat)
  | part (automaton : Automaton) (next : Nat)
  | fork (first second : Nat)
  /-- Note the position in a slot. -/
  | mark (slot next : Nat)
  /-- Go back to the position in a slot. -/
  | goBack (slot next : Nat)
  /-- Go back by some characters. -/
  | stepBack (count next : Nat)
  | again (number next : Nat)
  | known (number next : Nat)
  /-- Start to count in a slot. -/
  | count (slot next : Nat)
  /-- Another round of a body, if there have not been enough. -/
  | round (least : Nat) (most : Option Nat) (greedy : Bool) (slot body next : Nat)
  /-- Another round of a body that may match nothing, unless the last one did. -/
  | loop (least : Nat) (greedy : Bool) (slot check body next : Nat)
  /-- Take back everything since the choice to go on with `next`. -/
  | refuse (next : Nat)
  /-- Note how many choices can be taken back. -/
  | hold (next : Nat)
  /-- Forget the choices since the last note. -/
  | release (next : Nat)
  | origin (next : Nat)
  | accept
deriving Repr

/-- A machine that is being built from its end: the number of the move to start with, the moves, the
number of slots, and whether all its automata are in order. -/
structure Machine where
  start : Nat := 0
  moves : Array Move := #[.accept]
  slots : Nat
  sound : Bool := true
deriving Repr

namespace Machine

/-- Put a move in front. -/
def push (after : Machine) (move : Move) : Machine :=
  { after with start := after.moves.size, moves := after.moves.push move }

/-- Take new slots: the number of the first, and the machine with so many more. -/
def take (after : Machine) (count : Nat) : Nat × Machine :=
  (after.slots, { after with slots := after.slots + count })

/-- Put an automaton for patterns in a row in front, unless there are none. -/
def pushParts (after : Machine) (parts : List Pattern) : Machine :=
  if parts.isEmpty then after
  else
    match (row parts).automaton? with
    | some automaton => after.push (.part automaton after.start)
    | none => { after with sound := false }

end Machine

/-- Whether an automaton can match a pattern that has a fixed size. -/
def isEasy (wanted : List Nat) (pattern : Pattern) : Bool :=
  pattern.hasFixedSize && !pattern.isTangled wanted

/-- The first part of a row and the last that automata cannot take. -/
def tangledSpan (wanted : List Nat) (tied : Bool) (parts : List Pattern) : Nat × Nat :=
  let first := (parts.takeWhile (isEasy wanted)).length
  let atEnd := (parts.drop first).reverse.takeWhile fun part =>
    if tied then isEasy wanted part else !part.isTangled wanted
  (first, parts.length - atEnd.length)

/-- Put a look in front whose body is given. -/
def lookInFront (back wanted : Bool) (size : Nat) (fixed : Bool)
    (body : Machine → Machine) (after : Machine) : Machine :=
  let goBack := fun (inner : Machine) =>
    if back then { inner.push (.stepBack size inner.start) with sound := inner.sound && fixed }
    else inner
  if wanted then
    let (slot, after) := after.take 1
    let inner := goBack (body (after.push (.goBack slot after.start)))
    inner.push (.mark slot inner.start)
  else
    let inner := goBack (body (after.push (.refuse after.start)))
    inner.push (.fork inner.start after.start)

section

variable (wanted : List Nat)

mutual

/-- Put a pattern in front of a machine.  A pattern is tied if what follows depends on how it
matches. -/
def moves (tied : Bool) (pattern : Pattern) (after : Machine) : Machine :=
  if !tied && !pattern.isTangled wanted then after.pushParts [pattern]
  else
    match pattern with
    | nothing => after
    | one set => after.push (.one set after.start)
    | edge kind => after.pushParts [edge kind]
    | row parts =>
      let (first, last) := tangledSpan wanted tied parts
      let inner := movesOfSpan first last 0 parts (after.pushParts (parts.drop last))
      inner.pushParts (parts.take first)
    | either choices => movesOfChoices tied choices after
    | repeated body least most greedy =>
      if least = 0 && most = some 1 then
        let inner := moves tied body after
        inner.push (if greedy then .fork inner.start after.start else .fork after.start inner.start)
      else
        let tied := tied || body.isTangled wanted
        let (slot, after) := after.take 2
        let place := after.moves.size
        let inner := moves tied body (after.push .accept)
        let around := fun (move : Move) =>
          { inner with start := place, moves := inner.moves.setIfInBounds place move }
        let counted := fun (inner : Machine) => inner.push (.count slot inner.start)
        if most = none && body.leastSize = 0 then
          counted (around (.loop least greedy slot (slot + 1) inner.start after.start))
        else if most = none && least ≤ 1 then
          let star := around
            (if greedy then .fork inner.start after.start else .fork after.start inner.start)
          if least = 0 then star else { star with start := inner.start }
        else counted (around (.round least most greedy slot inner.start after.start))
    | group number body =>
      let inner := moves tied body (after.push (.mark (2 * number + 1) after.start))
      inner.push (.mark (2 * number) inner.start)
    | look back isWanted body =>
      let whole := lookInFront back isWanted body.leastSize body.hasFixedSize
        (fun inner => moves false body inner) after
      match body with
      | either choices =>
        if back && !body.hasFixedSize then movesOfLooks isWanted choices after else whole
      | _ => whole
    | kept body =>
      let inner := moves false body (after.push (.release after.start))
      inner.push (.hold inner.start)
    | again number => after.push (.again number after.start)
    | known number => after.push (.known number after.start)
    | choice test whenTrue whenFalse =>
      let second := moves tied whenFalse after
      let first := moves tied whenTrue { second with start := after.start }
      let inner := moves tied test (first.push (.release first.start))
      let forked := inner.push (.fork inner.start second.start)
      forked.push (.hold forked.start)
    | restart => after.push (.mark 0 after.start)
    | origin => after.push (.origin after.start)

/-- Put the parts of a row from the first to the last tangled one in front. -/
def movesOfSpan (first last : Nat) : Nat → List Pattern → Machine → Machine
  | _, [], after => after
  | i, part :: rest, after =>
    let inner := movesOfSpan first last (i + 1) rest after
    if first ≤ i && i < last then moves true part inner else inner

/-- Put a choice of patterns in front. -/
def movesOfChoices (tied : Bool) : List Pattern → Machine → Machine
  | [], after => after
  | [part], after => moves tied part after
  | part :: rest, after =>
    let others := movesOfChoices tied rest after
    let inner := moves tied part { others with start := after.start }
    inner.push (.fork inner.start others.start)

/-- Put looks back in front, one for each choice: one of them has to match, or none. -/
def movesOfLooks (isWanted : Bool) : List Pattern → Machine → Machine
  | [], after => after
  | part :: rest, after =>
    let look := fun (after : Machine) =>
      lookInFront true isWanted part.leastSize part.hasFixedSize
        (fun inner => moves false part inner) after
    if isWanted then
      if rest.isEmpty then look after
      else
        let others := movesOfLooks isWanted rest after
        let inner := look { others with start := after.start }
        inner.push (.fork inner.start others.start)
    else look (movesOfLooks isWanted rest after)

end

/-- The machine that searches for a pattern: at each position from the first on. -/
def machine (groups : Nat) (pattern : Pattern) : Machine :=
  let after : Machine := { slots := 2 * groups + 2 }
  let body := moves wanted true (group 0 pattern) after
  let place := body.moves.size
  let forked := body.push (.fork body.start (place + 1))
  { forked.push (.one .full place) with start := place }

end

/-! ## Running a machine -/

/-- Where a machine has come to on one way: the next move, the position, what the slots hold, and
how many choices could be taken back at each note. -/
structure Stand where
  move : Nat
  position : Nat
  slots : Array (Option Nat)
  held : List Nat := []

/-- What comes of a search. -/
inductive Outcome where
  | found | absent
  /-- Too many choices had to be taken back. -/
  | exhausted
deriving DecidableEq, Repr

/-- What comes of a move: the stand after it, or a choice has to be taken back, of those that are
left. -/
inductive Turn where
  | on (stand : Stand) (choices : List Stand)
  | failed (choices : List Stand)
  | done

open Turn

/-- The characters of a text from one position to another. -/
def between (text : Array Char) (low high : Nat) : List Char :=
  (text.extract low high).toList

/-- Whether the characters at a position are the given ones. -/
def standsAt (text : Array Char) (position : Nat) (cs : List Char) : Bool :=
  between text position (position + cs.length) = cs

/-- Drop choices up to the one that goes on with a move. -/
def dropTo (next : Nat) : List Stand → List Stand
  | [] => []
  | stand :: rest => if stand.move = next then rest else dropTo next rest

/-- Make a move. -/
def turn (moves : Array Move) (text : Array Char) (stand : Stand) (choices : List Stand) :
    Turn :=
  let go := fun (next : Nat) => on { stand with move := next } choices
  let fork := fun (stand : Stand) (first second : Nat) =>
    on { stand with move := first } ({ stand with move := second } :: choices)
  let slot := fun (i : Nat) => (stand.slots[i]?).bind id
  let put := fun (stand : Stand) (i value : Nat) =>
    { stand with slots := stand.slots.setIfInBounds i (some value) }
  let fail := failed choices
  match moves[stand.move]? with
  | none => fail
  | some move =>
    match move with
    | .one set next =>
      if text[stand.position]?.any fun c => set.holds c.toNat then
        on { stand with move := next, position := stand.position + 1 } choices
      else fail
    | .part automaton next =>
      match automaton.firstEnd? text [stand.position] with
      | some position => on { stand with move := next, position } choices
      | none => fail
    | .fork first second => fork stand first second
    | .mark i next => on { put stand i stand.position with move := next } choices
    | .goBack i next =>
      match slot i with
      | some position => on { stand with move := next, position } choices
      | none => fail
    | .stepBack count next =>
      if stand.position < count then fail
      else on { stand with move := next, position := stand.position - count } choices
    | .again number next =>
      match slot (2 * number), slot (2 * number + 1) with
      | some low, some high =>
        let cs := between text low high
        if standsAt text stand.position cs then
          on { stand with move := next, position := stand.position + cs.length } choices
        else fail
      | _, _ => fail
    | .known number next => if (slot (2 * number)).isSome then go next else fail
    | .count i next => on { put stand i 0 with move := next } choices
    | .round least most greedy i body next =>
      let rounds := (slot i).getD 0
      if most = some rounds then go next
      else
        let counted := put stand i (rounds + 1)
        if rounds < least then on { counted with move := body } choices
        else if greedy then fork counted body next
        else fork counted next body
    | .loop least greedy i check body next =>
      let rounds := (slot i).getD 0
      if rounds > 0 && slot check = some stand.position then fail
      else
        let counted := put stand i (rounds + 1)
        if rounds < least then on { counted with move := body } choices
        else
          let checked := put counted check stand.position
          if greedy then fork checked body next else fork checked next body
    | .refuse next => failed (dropTo next choices)
    | .hold next => on { stand with move := next, held := choices.length :: stand.held } choices
    | .release next =>
      match stand.held with
      | count :: held =>
        on { stand with move := next, held } (choices.drop (choices.length - count))
      | [] => fail
    | .origin next => if stand.position = 0 then go next else fail
    | .accept => done

/-- How many choices a machine takes back at most. -/
def maxTakenBack : Nat := 1000000

/-- Run a machine; so many moves at most. -/
def run (moves : Array Move) (text : Array Char) :
    Nat → (takenBack : Nat) → Stand → List Stand → Outcome
  | 0, _, _, _ => .exhausted
  | fuel + 1, takenBack, stand, choices =>
    match turn moves text stand choices with
    | on stand choices => run moves text fuel takenBack stand choices
    | done => .found
    | failed [] => .absent
    | failed (stand :: choices) =>
      if takenBack < maxTakenBack then run moves text fuel (takenBack + 1) stand choices
      else .exhausted

/-- Search a text with a machine. -/
def Machine.search (machine : Machine) (text : Array Char) : Outcome :=
  let fuel := (maxTakenBack + 1) * (machine.moves.size + 1) * (text.size + 2)
  run machine.moves text fuel 0 ⟨machine.start, 0, Array.replicate machine.slots none, []⟩ []

end Workflow.Text.Pattern
