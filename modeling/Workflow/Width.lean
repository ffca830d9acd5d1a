/-!
# Widths of integers

Which integers fit a number of bits.  `span` counts the naturals of a width; of the integers with a
sign the lower half of them is negative.
-/

namespace Workflow.Width

/-- How many naturals have at most `width` bits. -/
def span (width : Nat) : Nat :=
  Nat.pow 2 width

/-- Whether a natural has at most `width` bits. -/
def fits (width n : Nat) : Bool :=
  n < span width

/-- Whether an integer has at most `width` bits, of which one tells the sign. -/
def fitsSigned (width : Nat) (n : Int) : Bool :=
  -(span (width - 1) : Int) ≤ n && n < span (width - 1)

/-- The integer of `width` bits, one of them for the sign, that agrees with `n` in its lowest
bits. -/
def wrapSigned (width : Nat) (n : Int) : Int :=
  let low := n % span width
  if low < span (width - 1) then low else low - span width

end Workflow.Width
