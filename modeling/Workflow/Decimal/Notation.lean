import Workflow.Width

/-!
# Writing numbers

A `Style` collects the decisions of one written form of a floating-point number: where positional
notation ends, how an exponent looks, what zero looks like.  `Style.write` lays the fewest
identifying digits out by such a record.  The record of each output format stands in the module of
that format.
-/

namespace Workflow.Decimal

/-!
## The fewest digits that identify a binary number

A finite binary floating-point value is `m · 2 ^ q`, and the reals that round to it form an
interval whose ends belong to it exactly when `m` is even.  `shortest` looks for the decimal with
the fewest digits in that interval: for each number of digits it tries the two points of that
decimal grid next to the value, takes the nearer of two hits, and leaves an exact tie to the
caller.  All arithmetic is exact.
-/

/-- A positive binary value `m · 2 ^ q`. -/
structure Binary where
  m : Nat
  q : Int
  /-- The gap to the value below is half the gap to the value above. -/
  narrowBelow : Bool
deriving Repr, DecidableEq

/-- The value `digits · 10 ^ exponent`. -/
structure Digits where
  digits : Nat
  exponent : Int
deriving Repr, DecidableEq

/-- What becomes of two candidates that are equally near. -/
inductive Tie where
  | toEven
  | upward
deriving Repr, DecidableEq

/-- The magnitude of a finite double. -/
def Binary.ofDouble (x : Float) : Binary :=
  let bits : Nat := x.toBits.toNat
  let e : Nat := bits / Width.span 52 % Width.span 11
  let f : Nat := bits % Width.span 52
  if e = 0 then ⟨f, -1074, false⟩ else ⟨Width.span 52 + f, (e : Int) - 1075, f = 0 && e > 1⟩

/-- The magnitude of a finite single-precision number. -/
def Binary.ofSingle (x : Float32) : Binary :=
  let bits : Nat := x.toBits.toNat
  let e : Nat := bits / Width.span 23 % Width.span 8
  let f : Nat := bits % Width.span 23
  if e = 0 then ⟨f, -149, false⟩ else ⟨Width.span 23 + f, (e : Int) - 150, f = 0 && e > 1⟩

/-- Compare `a · 10 ^ i` with `n · 2 ^ j`. -/
def compareScaled (a : Nat) (i : Int) (n : Nat) (j : Int) : Ordering :=
  compare (a * Nat.pow 10 i.toNat * Nat.pow 2 (-j).toNat)
    (n * Nat.pow 2 j.toNat * Nat.pow 10 (-i).toNat)

/-- Whether a decimal lies among the reals that round to `x`. -/
def Binary.readsBack (x : Binary) (d : Digits) : Bool :=
  let low := if x.narrowBelow then 4 * x.m - 1 else 4 * x.m - 2
  let ends := x.m % 2 == 0
  let below := compareScaled d.digits d.exponent low (x.q - 2)
  let above := compareScaled d.digits d.exponent (4 * x.m + 2) (x.q - 2)
  (below == .gt || (ends && below == .eq)) && (above == .lt || (ends && above == .eq))

/-- The least `k` from `start` on with `m · 2 ^ q < 10 ^ k`, tried at most `fuel` times. -/
def Binary.scaleFrom (x : Binary) : Nat → Int → Int
  | 0, start => start
  | fuel + 1, start =>
    if compareScaled 1 start x.m x.q == .gt then start else x.scaleFrom fuel (start + 1)

/-- The least `k` with `m · 2 ^ q < 10 ^ k`.  The binary logarithm gives a start that is at most a
few steps too small. -/
def Binary.scale (x : Binary) : Int :=
  let log2 := (x.m.log2 : Int) + x.q
  x.scaleFrom 8 (log2 * 30103 / 100000 - 1)

/-- The greatest point not above `x` on the grid `10 ^ i`, counted in steps of the grid. -/
def Binary.stepsBelow (x : Binary) (i : Int) : Nat :=
  (x.m * Nat.pow 2 x.q.toNat * Nat.pow 10 (-i).toNat)
    / (Nat.pow 10 i.toNat * Nat.pow 2 (-x.q).toNat)

/-- The hit on the grid `10 ^ i`, if one of the two points next to `x` reads back. -/
def Binary.onGrid (tie : Tie) (x : Binary) (i : Int) : Option Digits :=
  let d := x.stepsBelow i
  let low : Digits := ⟨d, i⟩
  let high : Digits := ⟨d + 1, i⟩
  match d != 0 && x.readsBack low, x.readsBack high with
  | false, false => none
  | true, false => some low
  | false, true => some high
  | true, true =>
    match compareScaled (2 * d + 1) i (2 * x.m) x.q with
    | .gt => some low
    | .lt => some high
    | .eq => if tie = .toEven && d % 2 = 0 then some low else some high

/-- Drop trailing zeros of the digits. -/
def Digits.strip : Nat → Digits → Digits
  | 0, d => d
  | fuel + 1, d =>
    if d.digits % 10 = 0 && d.digits ≠ 0 then strip fuel ⟨d.digits / 10, d.exponent + 1⟩ else d

/-- The fewest digits that read back to `x`, at most seventeen of them. -/
def Binary.shortest (tie : Tie) (x : Binary) : Digits :=
  let k := x.scale
  let found := (List.range 17).findSome? fun (n : Nat) => x.onGrid tie (k - 1 - n)
  (found.getD ⟨x.stepsBelow (k - 17), k - 17⟩).strip 17

/-! ## Written forms -/

/-- The decisions of one written form of a number. -/
structure Style where
  /-- Whether digits whose first one stands for `10 ^ e` are written positionally. -/
  positional : (digits : List Char) → (e : Int) → Bool
  /-- Whether a positional number without a fraction ends in `.0`. -/
  pointZero : Bool
  /-- Whether a positive exponent has a plus sign. -/
  exponentPlus : Bool
  /-- Which of two equally near candidates is taken. -/
  tie : Tie
  /-- Whether negative zero has a minus sign. -/
  signedZero : Bool

/-- A list of `n` zeros. -/
def zeros (n : Nat) : List Char :=
  List.replicate n '0'

/-- Lay out non-empty digits, the first of which stands for `10 ^ e`. -/
def Style.layOut (style : Style) (ds : List Char) (e : Int) : List Char :=
  if style.positional ds e then
    if e < 0 then '0' :: '.' :: zeros (-e - 1).toNat ++ ds
    else
      let whole := e.toNat + 1
      if ds.length ≤ whole then
        ds ++ zeros (whole - ds.length) ++ (if style.pointZero then ['.', '0'] else [])
      else ds.take whole ++ '.' :: ds.drop whole
  else
    let mantissa := match ds with
      | [] => []
      | [d] => [d]
      | d :: rest => d :: '.' :: rest
    let sign := if e < 0 then ['-'] else if style.exponentPlus then ['+'] else []
    mantissa ++ 'e' :: sign ++ (Nat.repr e.natAbs).toList

/-- Write a magnitude by a style. -/
def Style.magnitude (style : Style) (x : Binary) : List Char :=
  let d := x.shortest style.tie
  let ds := (Nat.repr d.digits).toList
  style.layOut ds (d.exponent + ds.length - 1)

/-- Write a finite double. -/
def Style.write (style : Style) (x : Float) : String :=
  let negative := x.toBits.toNat ≥ Width.span 63
  if x == 0 then
    String.ofList ((if negative && style.signedZero then ['-', '0'] else ['0'])
      ++ (if style.pointZero then ['.', '0'] else []))
  else
    String.ofList ((if negative then ['-'] else []) ++ style.magnitude (Binary.ofDouble x))

/-- Write a finite single-precision number, with the fewest digits that identify it among those. -/
def Style.writeSingle (style : Style) (x : Float32) : String :=
  let negative := x.toBits.toNat ≥ Width.span 31
  if x == 0 then
    String.ofList ((if negative && style.signedZero then ['-', '0'] else ['0'])
      ++ (if style.pointZero then ['.', '0'] else []))
  else
    String.ofList ((if negative then ['-'] else []) ++ style.magnitude (Binary.ofSingle x))

/-- Positional whatever the size, with a point and at least one digit after it. -/
def plainStyle : Style where
  positional := fun _ _ => true
  pointZero := true
  exponentPlus := false
  tie := .upward
  signedZero := true

end Workflow.Decimal
