/-!
# Limits of scripts

A script is bounded in the operations that it carries out, the depth of its calls and of its terms,
and the size of its values.
-/

namespace Workflow.Script

/-- The limits of a script.  Zero sets no limit, except that it allows no calls. -/
structure Limits where
  operations : Nat := 50000000
  callLevels : Nat := 32
  /-- Bytes of text in one value. -/
  stringSize : Nat := 1048576
  /-- Items of lists in one value. -/
  listSize : Nat := 100000
  /-- Entries of maps in one value. -/
  mapSize : Nat := 100000
  /-- How deep terms may be nested. -/
  depth : Nat := 64
deriving Repr, DecidableEq

/-- How much a value holds at all levels. -/
structure Size where
  items : Nat := 0
  entries : Nat := 0
  bytes : Nat := 0
deriving Repr, DecidableEq

/-- What two values hold together. -/
def Size.add (a b : Size) : Size :=
  ⟨a.items + b.items, a.entries + b.entries, a.bytes + b.bytes⟩

namespace Limits

/-- Whether a number is beyond a limit. -/
def beyond (limit n : Nat) : Bool :=
  limit ≠ 0 && n > limit

/-- What is too large in a value of some size.  Text counts before lists, lists before maps. -/
def excess? (limits : Limits) (size : Size) : Option String :=
  if beyond limits.stringSize size.bytes then some "Length of string"
  else if beyond limits.listSize size.items then some "Size of array/BLOB"
  else if beyond limits.mapSize size.entries then some "Size of object map"
  else none

end Limits

end Workflow.Script
