import Workflow.Decimal.Notation
import Workflow.Width

/-!
# Remainders of doubles

Two finite doubles are whole multiples of a common power of two, so the remainder of their division
toward zero is a remainder of integers and exact.
-/

namespace Workflow.Decimal

/-- The remainder of a division toward zero, with the sign of the dividend. -/
def floatRemainder (a b : Float) : Float :=
  if a.isNaN || b.isNaN || a.isInf || b == 0 then 0.0 / 0.0
  else if b.isInf then a
  else
    let x := Binary.ofDouble a
    let y := Binary.ofDouble b
    let low := min x.q y.q
    let m := (x.m * Nat.pow 2 (x.q - low).toNat) % (y.m * Nat.pow 2 (y.q - low).toNat)
    let magnitude := (Float.ofNat m).scaleB low
    if a.toBits.toNat ≥ Width.span 63 then -magnitude else magnitude

end Workflow.Decimal
