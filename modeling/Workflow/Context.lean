import Workflow.Graph.Wire

/-!
# The state of a run

A `Context` is what a run has learnt so far.  Scripts see parts of it under the names of its
`bindings`.  It is carried over from the suspension of a run to its resumption, so it has a JSON
form.
-/

namespace Workflow

open Wire (Decoder Fields)

/-- The state of one run. -/
structure Context where
  /-- The bound inputs. -/
  inputs : Assoc Json
  /-- The output of the last node that produced a value. -/
  lastOutput : Option Json
  /-- The last output of every node that has run. -/
  nodeOutputs : Assoc Json
  /-- How often each while node has entered its body since it was last left. -/
  counters : Assoc Nat
  /-- The ids of the edges taken, in order. -/
  trace : List String
  /-- How many nodes have been dispatched. -/
  steps : Nat
deriving DecidableEq, Repr

namespace Context

/-- The state before the first node. -/
def ofInputs (inputs : Assoc Json) : Context :=
  ⟨inputs, none, [], [], [], 0⟩

/-- Note the output of a node that produces a value. -/
def recordOutput (context : Context) (node : String) (value : Json) : Context :=
  { context with
    nodeOutputs := Assoc.insert context.nodeOutputs node value
    lastOutput := some value }

/-- Note the output of a control node, which leaves the last output alone. -/
def recordControl (context : Context) (node : String) (value : Json) : Context :=
  { context with nodeOutputs := Assoc.insert context.nodeOutputs node value }

/-- Note that an edge was taken. -/
def traverse (context : Context) (edge : String) : Context :=
  { context with trace := context.trace ++ [edge] }

/-- How often a while node has entered its body. -/
def iteration (context : Context) (node : String) : Nat :=
  (Assoc.get? context.counters node).getD 0

/-- Set the counter of a while node. -/
def setCounter (context : Context) (node : String) (count : Nat) : Context :=
  { context with counters := Assoc.insert context.counters node count }

/-- Forget the counter of a while node. -/
def clearCounter (context : Context) (node : String) : Context :=
  { context with counters := Assoc.erase context.counters node }

/-- The variables that scripts see. -/
def bindings (context : Context) : Assoc Json :=
  [("input", .record context.inputs), ("lastOutput", Json.orNull context.lastOutput),
   ("outputs", .record context.nodeOutputs)]

/-- A state as a JSON value. -/
def toJson (context : Context) : Json :=
  Json.ofMembers ([("inputs", .record context.inputs),
    ("nodeOutputs", .record context.nodeOutputs),
    ("iterationCounters", .record (Assoc.mapValues Json.nat context.counters)),
    ("visitedEdgeTrace", .list (context.trace.map .text)),
    ("steps", Json.nat context.steps)] ++ Json.optional "lastOutput" context.lastOutput)

/-- Read a state off a document. -/
def decoder : Decoder Context :=
  Wire.record "struct ExecutionContext"
    (Context.mk <$> Fields.required "inputs" (Decoder.assoc Decoder.json)
      <*> Fields.optional "lastOutput" Decoder.json
      <*> Fields.withDefault "nodeOutputs" (Decoder.assoc Decoder.json) []
      <*> Fields.withDefault "iterationCounters" (Decoder.assoc Decoder.nat32) []
      <*> Fields.withDefault "visitedEdgeTrace" (Decoder.list Decoder.string) []
      <*> Fields.withDefault "steps" Decoder.size 0)

end Context

end Workflow
