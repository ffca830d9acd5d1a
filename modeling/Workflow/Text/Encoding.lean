import Workflow.Text.Utf8

/-!
# Bytes written as text

Forms in which bytes, or characters that cannot stand for themselves, are written with plain
characters.
-/

namespace Workflow.Text

/-! ## Hexadecimal digits -/

/-- The value of a hexadecimal digit. -/
def hexValue? (c : Char) : Option Nat :=
  if '0' ≤ c && c ≤ '9' then some (c.toNat - '0'.toNat)
  else if 'a' ≤ c && c ≤ 'f' then some (c.toNat - 'a'.toNat + 10)
  else if 'A' ≤ c && c ≤ 'F' then some (c.toNat - 'A'.toNat + 10)
  else none

end Workflow.Text

namespace Workflow.Text.Percent

/-!
## Percent encoding

In an address a byte may be written as a percent sign and two hexadecimal digits.
-/

/-- The bytes that a text stands for; a percent sign without two digits stands for itself. -/
def bytes : List Char → List UInt8
  | [] => []
  | '%' :: a :: b :: rest =>
    match hexValue? a, hexValue? b with
    | some x, some y => UInt8.ofNat (16 * x + y) :: bytes rest
    | _, _ => UInt8.ofNat '%'.toNat :: bytes (a :: b :: rest)
  | c :: rest => Utf8.encode (String.singleton c) ++ bytes rest

/-- The text that a text stands for, if its bytes are well formed. -/
def decode? (text : String) : Option String :=
  let (cs, left) := Utf8.decode (bytes text.toList)
  if left.isEmpty then some (String.ofList cs) else none

end Workflow.Text.Percent

namespace Workflow.Text.Base64

/-!
## Base 64

Bytes written with 64 characters, six bits each, in groups of four that are filled up with `=`.
Only the canonical form is read: the bits that are left over are zero, and nothing is filled up twice.
-/

/-- The value of a character. -/
def value? (c : Char) : Option Nat :=
  if c.isUpper then some (c.toNat - 'A'.toNat)
  else if c.isLower then some (c.toNat - 'a'.toNat + 26)
  else if c.isDigit then some (c.toNat - '0'.toNat + 52)
  else if c = '+' then some 62
  else if c = '/' then some 63
  else none

/-- The bytes of a text, if it is well formed. -/
def decode? : List Char → Option (List UInt8)
  | [] => some []
  | [a, b, '=', '='] => do
    let n := (← value? a) * 64 + (← value? b)
    if n % 16 = 0 then return [UInt8.ofNat (n / 16)] else none
  | [a, b, c, '='] => do
    let n := ((← value? a) * 64 + (← value? b)) * 64 + (← value? c)
    if n % 4 = 0 then return [UInt8.ofNat (n / 1024), UInt8.ofNat (n / 4 % 256)] else none
  | a :: b :: c :: d :: rest => do
    let n := (((← value? a) * 64 + (← value? b)) * 64 + (← value? c)) * 64 + (← value? d)
    let bytes ← decode? rest
    return UInt8.ofNat (n / 65536) :: UInt8.ofNat (n / 256 % 256) :: UInt8.ofNat (n % 256) :: bytes
  | _ => none

end Workflow.Text.Base64
