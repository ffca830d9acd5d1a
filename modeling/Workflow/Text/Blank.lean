/-!
# White space and pieces of text

The characters with the Unicode property `White_Space`, trimming by that property, and the search
for a piece of text inside another.  Everything here works on lists of characters, so that facts
about it follow by induction on the text; `String` versions stand beside them.
-/

namespace Workflow.Text

/-- The code points with the property `White_Space`, as ascending ranges, both ends included. -/
def blankRanges : List (Nat × Nat) :=
  [(0x09, 0x0D), (0x20, 0x20), (0x85, 0x85), (0xA0, 0xA0), (0x1680, 0x1680), (0x2000, 0x200A),
   (0x2028, 0x2029), (0x202F, 0x202F), (0x205F, 0x205F), (0x3000, 0x3000)]

/-- Whether a character is white space in the sense of Unicode. -/
def isBlank (c : Char) : Bool :=
  blankRanges.any fun range => range.1 ≤ c.toNat && c.toNat ≤ range.2

/-- Drop the white space at the start. -/
def trimLeft (cs : List Char) : List Char :=
  cs.dropWhile isBlank

/-- Drop the white space at the end. -/
def trimRight (cs : List Char) : List Char :=
  (cs.reverse.dropWhile isBlank).reverse

/-- Drop the white space at both ends. -/
def trim (cs : List Char) : List Char :=
  trimRight (trimLeft cs)

/-- `trim` on strings. -/
def trimmed (s : String) : String :=
  String.ofList (trim s.toList)

/-- Whether a string holds nothing but white space. -/
def blank (s : String) : Bool :=
  s.toList.all isBlank

/-- The text before and after the first occurrence of `piece`. -/
def breakOn? (piece : List Char) : List Char → Option (List Char × List Char)
  | [] => if piece.isEmpty then some ([], []) else none
  | c :: cs =>
    if piece.isPrefixOf (c :: cs) then some ([], (c :: cs).drop piece.length)
    else (breakOn? piece cs).map fun (before, after) => (c :: before, after)

/-- Whether `piece` occurs in a text. -/
def contains (piece text : String) : Bool :=
  (breakOn? piece.toList text.toList).isSome

/-- What follows `head` in a text that starts with it. -/
def dropHead? (head text : List Char) : Option (List Char) :=
  if head.isPrefixOf text then some (text.drop head.length) else none

/-- Replace every occurrence of a non-empty `piece`, from left to right, by `by_`.  The list is cut
at each occurrence, so what is put in is not looked at again. -/
def replace (piece by_ : List Char) (text : List Char) : List Char :=
  go text.length text
where
  go : Nat → List Char → List Char
    | 0, cs => cs
    | fuel + 1, cs =>
      match breakOn? piece cs with
      | none => cs
      | some (before, after) => before ++ by_ ++ go fuel after

/-- Lower-case ASCII letters; all other characters stay. -/
def lowerAscii (s : String) : String :=
  s.map Char.toLower

end Workflow.Text
