import Workflow.Width

/-!
# Reading decimal text

Integers are an optional sign and digits.  Doubles may also have a point, with digits on at least
one side of it, and an exponent; they are rounded to the nearest double.
-/

namespace Workflow.Decimal

/-- The value of decimal digits. -/
def natOfDigits (ds : List Char) : Nat :=
  ds.foldl (fun n c => n * 10 + (c.toNat - '0'.toNat)) 0

/-- A sign, true for minus, and what follows it. -/
def splitSign : List Char → Bool × List Char
  | '-' :: rest => (true, rest)
  | '+' :: rest => (false, rest)
  | cs => (false, cs)

/-- Read an integer. -/
def readInt? (cs : List Char) : Option Int :=
  let (negative, ds) := splitSign cs
  if ds.isEmpty || !ds.all Char.isDigit then none
  else some (if negative then -(natOfDigits ds : Int) else natOfDigits ds)

/-- Read an integer of 64 bits with a sign. -/
def readInt64? (cs : List Char) : Option Int := do
  let value ← readInt? cs
  if Width.fitsSigned 64 value then some value else none

/-- The double nearest to `digits · 10 ^ exponent`, infinite if that is too great.  Exponents far
outside the range of doubles are not worked out. -/
def nearest (digits : Nat) (exponent : Int) : Float :=
  let size : Int := (Nat.repr digits).length
  if digits = 0 || size + exponent < -400 then 0.0
  else if size + exponent > 400 then 1.0 / 0.0
  else if exponent < 0 then Float.ofScientific digits true exponent.natAbs
  else Float.ofScientific digits false exponent.natAbs

/-- Read the exponent after its mark. -/
def readExponent? (cs : List Char) : Option Int :=
  match cs with
  | [] => some 0
  | c :: rest => if c = 'e' || c = 'E' then readInt? rest else none

/-- Read a finite or infinite double written with digits. -/
def readDouble? (cs : List Char) : Option Float :=
  let (negative, cs) := splitSign cs
  let whole := cs.takeWhile Char.isDigit
  let rest := cs.dropWhile Char.isDigit
  let (fraction, rest) := match rest with
    | '.' :: rest => (rest.takeWhile Char.isDigit, rest.dropWhile Char.isDigit)
    | rest => ([], rest)
  if whole.isEmpty && fraction.isEmpty then none
  else
    (readExponent? rest).map fun exponent =>
      let x := nearest (natOfDigits (whole ++ fraction)) (exponent - fraction.length)
      if negative then -x else x

end Workflow.Decimal
