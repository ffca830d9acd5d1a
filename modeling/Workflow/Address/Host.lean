import Workflow.Address.Basic
import Workflow.Decimal.Reading
import Workflow.Text.Blank
import Workflow.Text.Property
import Workflow.Width

/-!
# Names and numbers of machines

What stands for a machine in an address: a number of four bytes, a number of eight groups in
brackets, or a name whose letters are taken in lower case.
-/

namespace Workflow.Address

/-! ## Numbers of four bytes -/

/-- Whether a text is a number up to 255 without leading zeros. -/
def isByte (cs : List Char) : Bool :=
  !cs.isEmpty && cs.length ≤ 3 && cs.all Char.isDigit && (cs.length = 1 || cs.head? ≠ some '0')
    && Decimal.natOfDigits cs ≤ 255

/-- The bytes of a number in its strict form, in which all four are written in decimal. -/
def bytes? (cs : List Char) : Option (List Nat) :=
  let parts := cs.splitOn '.'
  if parts.length = 4 && parts.all isByte then some (parts.map Decimal.natOfDigits) else none

/-- The value of digits of a base. -/
def valueIn? (base : Nat) (cs : List Char) : Option Nat :=
  cs.foldl (fun total c => do
    let digit ← Text.hexValue? c
    if digit < base then return (← total) * base + digit else none) (some 0)

/-- The value of one part of a number: in base 16 after `0x`, in base 8 after `0`. -/
def partValue? (cs : List Char) : Option Nat :=
  match cs with
  | [] => none
  | '0' :: 'x' :: rest | '0' :: 'X' :: rest => valueIn? 16 rest
  | '0' :: c :: rest => valueIn? 8 (c :: rest)
  | cs => valueIn? 10 cs

/-- The parts of a name, without an empty one at the end. -/
def nameParts (cs : List Char) : List (List Char) :=
  let parts := cs.splitOn '.'
  if parts.length > 1 && parts.getLast? = some [] then parts.dropLast else parts

/-- Whether a name ends in a number, so that all of it has to be one. -/
def endsInNumber (cs : List Char) : Bool :=
  match (nameParts cs).getLast? with
  | none => false
  | some last =>
    (!last.isEmpty && last.all Char.isDigit) ||
      match last with
      | '0' :: 'x' :: rest | '0' :: 'X' :: rest => (valueIn? 16 rest).isSome
      | _ => false

/-- The value of a number with up to four parts, the last of which fills the bytes that are left. -/
def numberValue? (cs : List Char) : Option Nat := do
  let parts := nameParts cs
  if parts.length > 4 then none
  let values ← parts.mapM partValue?
  let last ← values.getLast?
  let front := values.dropLast
  if front.any (· > 255) || last ≥ Width.span (8 * (4 - front.length)) then none
  return front.zipIdx.foldl (fun total (value, i) => total + value * Width.span (8 * (3 - i))) last

/-- The text of a number of four bytes. -/
def renderBytes (value : Nat) : String :=
  ".".intercalate <| [3, 2, 1, 0].map fun i => toString (value / Width.span (8 * i) % 256)

/-! ## Numbers of eight groups -/

/-- The groups that parts between colons stand for, if all are well formed.  The last part may be a
number of four bytes. -/
def groups? : List (List Char) → Option (List Nat)
  | [] => some []
  | part :: rest =>
    if rest.isEmpty && part.contains '.' then
      (bytes? part).bind fun
        | [a, b, c, d] => some [a * 256 + b, c * 256 + d]
        | _ => none
    else if !part.isEmpty && part.length ≤ 4 then do
      return (← valueIn? 16 part) :: (← groups? rest)
    else none

/-- The groups of a text without a gap; none for the empty text. -/
def groupsOf? (cs : List Char) : Option (List Nat) :=
  if cs.isEmpty then some [] else groups? (cs.splitOn ':')

/-- The eight groups of a number, a row of which may be left out. -/
def eightGroups? (cs : List Char) : Option (List Nat) :=
  match Text.breakOn? [':', ':'] cs with
  | none => (groupsOf? cs).filter (·.length = 8)
  | some (before, after) =>
    if before.contains '.' then none
    else do
      let a ← groupsOf? before
      let b ← groupsOf? after
      if a.length + b.length ≤ 7 then
        return a ++ List.replicate (8 - a.length - b.length) 0 ++ b
      else none

/-- The longest row of zeros in groups, the first of equals: where it starts and how long it is. -/
def longestGap (groups : List Nat) : Nat × Nat :=
  let rows := (List.range groups.length).map fun i =>
    (i, ((groups.drop i).takeWhile (· = 0)).length)
  rows.foldl (fun best row => if row.2 > best.2 then row else best) (0, 0)

/-- The text of groups, the longest row of zeros left out. -/
def renderGroups (groups : List Nat) : String :=
  let hex := fun (n : Nat) => String.ofList (Nat.toDigits 16 n)
  let row := fun (part : List Nat) => ":".intercalate (part.map hex)
  let (start, length) := longestGap groups
  if length < 2 then row groups
  else row (groups.take start) ++ "::" ++ row (groups.drop (start + length))

/-! ## Names -/

/-- The marks that no name of a machine has. -/
def forbiddenMarks : List Char :=
  ['\x00', '\t', '\n', '\x0d', ' ', '#', '/', ':', '<', '>', '?', '@', '[', '\\', ']', '^', '|']

/-- Assigned characters that no name of a machine has: controls, and what would be read as several
characters with marks among them. -/
def barred : Text.CodePoints :=
  Text.CodePoints.ofText
    ("600-605 61C 6DD 70F 890-891 8E2 1680 200E-200F 2024-2026 2028-202E 2066-2069 2488-249B " ++
     "2FF0-2FFF 31EF 33C2 33C7 33D8 FE12 FE19 FE30 FE52 FFF9-FFFD 110BD 110CD 13430-1343F " ++
     "1F100 E0001 E0020-E007F")

/-- A character of a name as it counts: letters in lower case, wide forms in their usual one;
nothing for one that is ignored. -/
def normalized (c : Char) : List Char :=
  if c.toNat < 0x80 then [c.toLower]
  else if 0xFF01 ≤ c.toNat && c.toNat ≤ 0xFF5E then [(Char.ofNat (c.toNat - 0xFEE0)).toLower]
  else if c.toNat = 0x3002 || c.toNat = 0xFF0E || c.toNat = 0xFF61 then ['.']
  else if Text.isBlank c then [' ']
  else if Text.Property.ignorable.holds c.toNat && !Text.Property.joinControl.holds c.toNat then []
  else [c]

/-- Whether a character cannot stand in a name. -/
def isBarred (c : Char) : Bool :=
  if c.toNat < 0x80 then
    c.toNat < 0x20 || c.toNat = 0x7F || c = '%' || forbiddenMarks.contains c
  else
    barred.holds c.toNat || Text.Property.joinControl.holds c.toNat
      || (Text.Category.union ["Cc", "Co", "Cn"]).holds c.toNat

/-- Whether a part of a name starts with a mark that joins the character before it. -/
def startsJoined (part : List Char) : Bool :=
  part.head?.any fun c =>
    c.toNat ≥ 0x80 && (Text.Category.union ["Mn", "Mc", "Me"]).holds c.toNat

/-- The name or number of a machine of the net, if it is well formed. -/
def netHost? (cs : List Char) : Option String := do
  match cs with
  | '[' :: rest =>
    if rest.getLast? ≠ some ']' then none
    else return "[" ++ renderGroups (← eightGroups? rest.dropLast) ++ "]"
  | cs =>
    let (decoded, _) := Utf8.decode (Text.Percent.bytes cs)
    let name := decoded.flatMap normalized
    if name.isEmpty || name.any isBarred || (name.splitOn '.').any startsJoined then none
    else if endsInNumber name then return renderBytes (← numberValue? name)
    else return String.ofList name

/-- What stands for a machine in the addresses of other schemes, if it is well formed. -/
def plainHost? (cs : List Char) : Option String :=
  match cs with
  | '[' :: _ => netHost? cs
  | cs => if cs.any forbiddenMarks.contains then none else some (encode [] cs)

end Workflow.Address
