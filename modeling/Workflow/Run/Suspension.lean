import Workflow.Clock.Instant
import Workflow.Context
import Workflow.Error
import Workflow.Event.Basic

/-!
# Suspended runs

A run that needs somebody's approval is put aside as a `SuspendedRun`: the graph, what the run has
learnt and the node it waits at.  A `ResumeSignal` tells what was decided.
-/

namespace Workflow

open Wire (Decoder Fields)

/-- Everything needed to go on with a run at its approval node. -/
structure SuspendedRun where
  run : RunId
  graph : Graph
  context : Context
  /-- The approval node that the run waits at. -/
  cursor : String
  /-- What the approver is asked. -/
  prompt : String
  suspendedAt : Instant
  /-- When the time for an answer is over. -/
  expiresAt : Option Instant
  /-- What is decided when nobody answers in time. -/
  onTimeout : Decision
deriving DecidableEq, Repr

namespace SuspendedRun

/-- Whether the time for an answer is over. -/
def isExpired (suspended : SuspendedRun) (now : Instant) : Bool :=
  suspended.expiresAt.any fun deadline => deadline.le now

/-- A suspended run as a JSON value. -/
def toJson (suspended : SuspendedRun) : Json :=
  Json.ofMembers ([("runId", .text suspended.run), ("graph", suspended.graph.toJson),
    ("context", suspended.context.toJson), ("cursor", .text suspended.cursor),
    ("prompt", .text suspended.prompt), ("suspendedAt", suspended.suspendedAt.toJson),
    ("onTimeout", .text suspended.onTimeout.label)]
    ++ Json.optional "expiresAt" (suspended.expiresAt.map Instant.toJson))

/-- Read a suspended run off a document. -/
def decoder : Decoder SuspendedRun :=
  Wire.record "struct SuspendedRun"
    (SuspendedRun.mk <$> Fields.required "runId" Decoder.string
      <*> Fields.required "graph" Graph.decoder
      <*> Fields.required "context" Context.decoder
      <*> Fields.required "cursor" Decoder.string
      <*> Fields.required "prompt" Decoder.string
      <*> Fields.required "suspendedAt" Instant.decoder
      <*> Fields.optional "expiresAt" Instant.decoder
      <*> Fields.withDefault "onTimeout" Decision.decoder .reject)

end SuspendedRun

/-- What was decided about a suspended run. -/
structure ResumeSignal where
  run : RunId
  decision : Decision
  note : Option String
deriving DecidableEq, Repr

namespace ResumeSignal

/-- What the events of a resumed run tell about the decision. -/
def payload (signal : ResumeSignal) : Json :=
  Json.ofMembers [("decision", .text signal.decision.label),
    ("note", Json.orNull (signal.note.map .text))]

/-- A signal as a JSON value. -/
def toJson (signal : ResumeSignal) : Json :=
  Json.ofMembers ([("runId", .text signal.run), ("decision", .text signal.decision.label)]
    ++ Json.optional "note" (signal.note.map .text))

/-- Read a signal off a document. -/
def decoder : Decoder ResumeSignal :=
  Wire.record "struct ResumeSignal"
    (ResumeSignal.mk <$> Fields.required "runId" Decoder.string
      <*> Fields.required "decision" Decision.decoder
      <*> Fields.optional "note" Decoder.string)

end ResumeSignal

/-!
## Stores for suspended runs

A store keeps at most one suspended run for each run id.  `MemoryStore` keeps the runs themselves
and never fails, except for runs that are not there.
-/

/-- A place to keep suspended runs in. -/
class SuspensionStore (σ : Type) where
  /-- Keep a run, in place of an earlier one with the same id. -/
  save : σ → SuspendedRun → Except Error σ
  /-- Hand out a run and keep it no longer. -/
  take : σ → RunId → Except Error SuspendedRun × σ
  /-- Look at a run. -/
  get : σ → RunId → Except Error (Option SuspendedRun)
  /-- All runs in the order of their suspension. -/
  list : σ → Except Error (List SuspendedRun)
  /-- The runs whose time for an answer is over. -/
  expired : σ → Instant → Except Error (List SuspendedRun)
  /-- Keep a run no longer, and tell whether it was there. -/
  remove : σ → RunId → Bool × σ

/-- Suspended runs in the order in which they were saved. -/
structure MemoryStore where
  runs : List SuspendedRun
deriving DecidableEq, Repr

namespace MemoryStore

/-- Nothing kept. -/
def empty : MemoryStore :=
  ⟨[]⟩

/-- The run with an id. -/
def find? (store : MemoryStore) (run : RunId) : Option SuspendedRun :=
  store.runs.find? fun kept => kept.run = run

/-- The store without the run with an id. -/
def erase (store : MemoryStore) (run : RunId) : MemoryStore :=
  ⟨store.runs.filter fun kept => kept.run ≠ run⟩

/-- Keep a run, in place of an earlier one with the same id. -/
def save (store : MemoryStore) (suspended : SuspendedRun) : MemoryStore :=
  ⟨(store.erase suspended.run).runs ++ [suspended]⟩

/-- Hand out a run and keep it no longer. -/
def take (store : MemoryStore) (run : RunId) : Except Error SuspendedRun × MemoryStore :=
  match store.find? run with
  | some suspended => (.ok suspended, store.erase run)
  | none => (.error (.runNotFound run), store)

/-- All runs in the order of their suspension. -/
def list (store : MemoryStore) : List SuspendedRun :=
  store.runs.mergeSort fun a b => a.suspendedAt.le b.suspendedAt

instance : SuspensionStore MemoryStore where
  save store suspended := .ok (store.save suspended)
  take := take
  get store run := .ok (store.find? run)
  list store := .ok store.list
  expired store now := .ok (store.list.filter fun suspended => suspended.isExpired now)
  remove store run := ((store.find? run).isSome, store.erase run)

end MemoryStore

end Workflow
