/-!
# Positions in scripts

Lines and the characters in a line are counted from one.  The position with line zero is none at
all; faults that have no position yet carry it.
-/

namespace Workflow.Script

/-- A position in a script. -/
structure Position where
  line : Nat := 1
  column : Nat := 1
deriving DecidableEq, Repr, Inhabited

namespace Position

/-- No position. -/
def nowhere : Position := ⟨0, 0⟩

/-- The position after a character. -/
def after (p : Position) (c : Char) : Position :=
  if c = '\n' then ⟨p.line + 1, 1⟩ else { p with column := p.column + 1 }

/-- The position some characters further on in the same line. -/
def along (p : Position) (n : Nat) : Position :=
  { p with column := p.column + n }

/-- A position, or another one in place of none. -/
def orElse (p q : Position) : Position :=
  if p.line = 0 then q else p

/-- How a message tells a position; none is not told. -/
def note (p : Position) : String :=
  if p.line = 0 then "" else s!" (line {p.line}, position {p.column})"

end Position

end Workflow.Script
