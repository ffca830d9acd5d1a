import Workflow.Text.Encoding

/-!
# Sets of code points

A set of code points is a list of ranges.  Tables write it as text: hexadecimal numbers parted by
spaces, with a dash between the two ends of a range.
-/

namespace Workflow.Text

/-- A set of code points: ranges, both ends included. -/
abbrev CodePoints := List (Nat × Nat)

namespace CodePoints

/-- Whether a set holds a code point. -/
def holds (set : CodePoints) (code : Nat) : Bool :=
  set.any fun range => range.1 ≤ code && code ≤ range.2

/-- The set of one code point. -/
def single (code : Nat) : CodePoints := [(code, code)]

/-- What reading a table has come to: the ranges so far, the start of an open range, and the number
that is being read. -/
structure Progress where
  ranges : CodePoints := []
  low : Option Nat := none
  number : Nat := 0

/-- The progress with the open range put to the others. -/
def Progress.close (sofar : Progress) : Progress :=
  { ranges := (sofar.low.getD sofar.number, sofar.number) :: sofar.ranges }

/-- The progress after one more character. -/
def Progress.step (sofar : Progress) (c : Char) : Progress :=
  if c = '-' then { sofar with low := some sofar.number, number := 0 }
  else if c = ' ' then sofar.close
  else { sofar with number := sofar.number * 16 + (hexValue? c).getD 0 }

/-- The set that a text of a table stands for. -/
def ofText (text : String) : CodePoints :=
  if text.isEmpty then []
  else (text.foldl Progress.step {}).close.ranges.reverse

end CodePoints

end Workflow.Text
