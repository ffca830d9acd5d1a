import Workflow.Clock.Instant
import Workflow.Json.Printer

/-!
# Events

A run reports each transition of its state as an `Event`.  A `Notice` is an event on its way to an
observer: it names the run and the time.
-/

namespace Workflow

/-- The name of a run. -/
abbrev RunId := String

/-- The kind of a transition. -/
inductive EventKind where
  | started
  | output
  | error
  | suspended
  | resumed
deriving DecidableEq, Repr

namespace EventKind

/-- The label of a kind. -/
def label : EventKind → String
  | started => "started"
  | output => "output"
  | error => "error"
  | suspended => "suspended"
  | resumed => "resumed"

/-- All kinds. -/
def all : List EventKind :=
  [started, output, error, suspended, resumed]

/-- The kind with a label. -/
def named? (label : String) : Option EventKind :=
  all.find? fun kind => kind.label = label

/-- Read a kind off a document. -/
def decoder : Wire.Decoder EventKind :=
  Wire.Decoder.variant (all.map fun kind => (kind.label, kind))

end EventKind

/-- One transition of a run. -/
structure Event where
  node : String
  kind : EventKind
  payload : Json
deriving DecidableEq, Repr

/-- An event of a run with the time at which it was reported. -/
structure Notice where
  run : RunId
  event : Event
  time : Instant
deriving DecidableEq, Repr

namespace Notice

/-- The members of a notice, in the order in which they are written. -/
def members (notice : Notice) : List (String × Json) :=
  [("runId", .text notice.run), ("nodeId", .text notice.event.node),
   ("eventKind", .text notice.event.kind.label), ("payload", notice.event.payload),
   ("timestamp", notice.time.toJson)]

/-- A notice as a JSON value. -/
def toJson (notice : Notice) : Json :=
  Json.ofMembers notice.members

/-- A notice as text. -/
def render (notice : Notice) : String :=
  (Json.record notice.members).render

/-- Read a notice off a document. -/
def decoder : Wire.Decoder Notice :=
  Wire.record "struct ExecutionEvent"
    ((fun run node kind payload time => ⟨run, ⟨node, kind, payload⟩, time⟩)
      <$> Wire.Fields.required "runId" Wire.Decoder.string
      <*> Wire.Fields.required "nodeId" Wire.Decoder.string
      <*> Wire.Fields.required "eventKind" EventKind.decoder
      <*> Wire.Fields.withDefault "payload" Wire.Decoder.json .null
      <*> Wire.Fields.required "timestamp" Instant.decoder)

end Notice

end Workflow
