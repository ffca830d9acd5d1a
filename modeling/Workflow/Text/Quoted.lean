import Workflow.Text.Property

/-!
# Texts in quotation marks

A text as messages quote it: quotation marks and backslashes are escaped, so are line breaks, and a
character that shows nothing of its own, or only together with the character before it, is written
by its code point.
-/

namespace Workflow.Text

/-- What does not show by itself: controls, separators, code points without a character, and marks
that join the character before them. -/
def hidden : CodePoints :=
  Category.union ["Cc", "Cf", "Co", "Cn", "Zs", "Zl", "Zp"] ++ Property.graphemeExtend

/-- Whether a character shows by itself what it is. -/
def isVisible (c : Char) : Bool :=
  if c.toNat < 0x7F then c.toNat ≥ 0x20 else !hidden.holds c.toNat

/-- A character inside quotation marks of a kind. -/
def escaped (mark c : Char) : List Char :=
  if c = mark || c = '\\' then ['\\', c]
  else if c = '\n' then ['\\', 'n']
  else if c = '\r' then ['\\', 'r']
  else if c = '\t' then ['\\', 't']
  else if c.toNat = 0 then ['\\', '0']
  else if isVisible c then [c]
  else '\\' :: 'u' :: '{' :: Nat.toDigits 16 c.toNat ++ ['}']

/-- A text in double quotation marks. -/
def quoted (s : String) : String :=
  String.ofList ('"' :: s.toList.flatMap (escaped '"') ++ ['"'])

/-- A character in single quotation marks. -/
def quotedChar (c : Char) : String :=
  String.ofList ('\'' :: escaped '\'' c ++ ['\''])

end Workflow.Text
