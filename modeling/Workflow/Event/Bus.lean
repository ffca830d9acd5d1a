/-!
# A bounded ring for many readers

Every item that is published goes to all readers that subscribed before.  The ring keeps as many
items as it has slots; a reader that falls behind further than that learns how many items it lost
and goes on with the oldest one kept.
-/

namespace Workflow

/-- A ring of published items. -/
structure Bus (α : Type) where
  /-- How many items are kept. -/
  slots : Nat
  /-- How many items have been published so far. -/
  published : Nat
  /-- The items kept, oldest first. -/
  kept : List α

/-- A reader's position: how many items have gone by it, read or lost. -/
structure BusReader where
  position : Nat
deriving DecidableEq, Repr

/-- What a reader receives. -/
inductive Received (α : Type) where
  | item (value : α)
  /-- So many items were overwritten before they were read. -/
  | lagged (count : Nat)
deriving Repr

namespace Bus

variable {α : Type}

/-- The least power of two from `power` on that is not below `n`. -/
def roundUp : Nat → Nat → Nat → Nat
  | 0, power, _ => power
  | fuel + 1, power, n => if n ≤ power then power else roundUp fuel (2 * power) n

/-- An empty ring with room for a number of items, rounded up to a power of two. -/
def create (capacity : Nat) : Bus α :=
  ⟨roundUp capacity 1 capacity, 0, []⟩

/-- Publish an item, overwriting the oldest one when the ring is full. -/
def publish (bus : Bus α) (value : α) : Bus α :=
  let kept := bus.kept ++ [value]
  { bus with published := bus.published + 1, kept := kept.drop (kept.length - bus.slots) }

/-- A reader that receives what is published from now on. -/
def subscribe (bus : Bus α) : BusReader :=
  ⟨bus.published⟩

/-- What waits for a reader first. -/
def next? (bus : Bus α) (reader : BusReader) : Option (Received α × BusReader) :=
  let oldest := bus.published - bus.kept.length
  if reader.position < oldest then some (.lagged (oldest - reader.position), ⟨oldest⟩)
  else bus.kept[reader.position - oldest]?.map fun value => (.item value, ⟨reader.position + 1⟩)

/-- Everything that waits for a reader. -/
def drain (bus : Bus α) (reader : BusReader) : List (Received α) × BusReader :=
  let oldest := bus.published - bus.kept.length
  let lost := if reader.position < oldest then [.lagged (oldest - reader.position)] else []
  let items := (bus.kept.drop (reader.position - oldest)).map .item
  (lost ++ items, ⟨bus.published⟩)

end Bus

end Workflow
