import Workflow.Decimal.Notation
import Workflow.Width

/-!
# Numbers of JSON documents

A number is an integer from `-2^63` to `2^64 - 1` or a finite double.  `Number.ofLiteral?` reads
the parts of a literal: a literal without fraction and exponent that fits the integers is one, and
every other is a double.  Its digits are collected in 64 bits, digits beyond that only move the
decimal point, and the result is scaled by a power of ten in double arithmetic.
-/

namespace Workflow

/-- A number of a JSON document. -/
inductive Number where
  | int (value : Int)
  | real (value : Float)
deriving DecidableEq, Repr

namespace Number

/-- The double nearest to a number. -/
def toFloat : Number → Float
  | int value => Float.ofInt value
  | real value => value

/-- Doubles are positional for leading exponents from -5 to 15 and always look like doubles. -/
def style : Decimal.Style where
  positional := fun _ e => -5 ≤ e && e ≤ 15
  pointZero := true
  exponentPlus := true
  tie := .toEven
  signedZero := true

/-- The text of a number. -/
def render : Number → String
  | int value => toString value
  | real value => if value.isFinite then style.write value else "null"

/-- The value of a decimal digit. -/
def digitValue (c : Char) : Nat :=
  c.toNat - '0'.toNat

/-- Append a digit as long as the result fits 64 bits. -/
def appendDigit? (significand : Nat) (c : Char) : Option Nat :=
  let next := significand * 10 + digitValue c
  if Width.fits 64 next then some next else none

/-- Collect digits until one does not fit; the result tells how many were taken. -/
def collect (significand : Nat) : List Char → Nat × Nat
  | [] => (significand, 0)
  | c :: cs =>
    match appendDigit? significand c with
    | none => (significand, 0)
    | some next =>
      let (total, taken) := collect next cs
      (total, taken + 1)

/-- `x · 10 ^ exponent` in double arithmetic; nothing when it is not finite.  Exponents beyond the
range of doubles are approached in steps of 308. -/
def scale? : Nat → Float → Int → Option Float
  | 0, x, _ => some x
  | fuel + 1, x, exponent =>
    if exponent.natAbs ≤ 308 then
      let power := Float.ofScientific 1 false exponent.natAbs
      if exponent ≥ 0 then
        let y := x * power
        if y.isInf then none else some y
      else some (x / power)
    else if x == 0 then some x
    else if exponent ≥ 0 then none
    else scale? fuel (x / Float.ofScientific 1 false 308) (exponent + 308)

/-- The double of a sign, a significand and a decimal exponent. -/
def ofParts? (negative : Bool) (significand : Nat) (exponent : Int) : Option Number :=
  (scale? 8 (Float.ofNat significand) exponent).map fun x => real (if negative then -x else x)

/-- The number of a literal, given its sign, its integer digits, its digits after the point and its
exponent with the sign of the latter.  Nothing if it lies outside the doubles. -/
def ofLiteral? (negative : Bool) (whole : List Char) (fraction : List Char)
    (exponent : Option (Bool × List Char)) : Option Number :=
  let (significand, taken) := collect 0 whole
  let dropped := whole.length - taken
  if fraction.isEmpty && exponent.isNone && dropped = 0 then
    if negative then
      if significand = 0 || significand > Width.span 63 then
        some (real (-(Float.ofNat significand)))
      else some (int (-(significand : Int)))
    else some (int significand)
  else
    let (significand, used) := collect significand fraction
    let start : Int := (dropped : Int) - used
    match exponent with
    | none => ofParts? negative significand start
    | some (down, ds) =>
      let e := ds.foldl (fun n c => n * 10 + digitValue c) 0
      if e ≥ Width.span 31 then
        if significand ≠ 0 && !down then none else some (real (if negative then -0.0 else 0.0))
      else ofParts? negative significand (if down then start - e else start + e)

end Number

end Workflow
