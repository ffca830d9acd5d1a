import Workflow.Run.Leg

/-!
# Summaries

The last word on a leg of a run, as it is told to clients.
-/

namespace Workflow

open Wire (Decoder Fields)

/-- What a run has come to. -/
inductive RunStatus where
  | completed
  | failed
  | suspended
deriving DecidableEq, Repr

namespace RunStatus

/-- The name of a status. -/
def label : RunStatus → String
  | completed => "completed"
  | failed => "failed"
  | suspended => "suspended"

/-- Read a status off a document. -/
def decoder : Decoder RunStatus :=
  Decoder.variant ([completed, failed, suspended].map fun status => (status.label, status))

end RunStatus

/-- The last word on a leg of a run. -/
structure RunSummary where
  run : RunId
  status : RunStatus
  /-- The node that failed or that the run waits at. -/
  node : Option String
  output : Option Json
  error : Option Json
  prompt : Option String
deriving DecidableEq, Repr

namespace RunSummary

/-- The summary of a leg, which has ended or could not start. -/
def ofResult (run : RunId) : Except Error Outcome → RunSummary
  | .ok (.completed output) => ⟨run, .completed, none, some output, none, none⟩
  | .ok (.failed node error) => ⟨run, .failed, some node, none, some error.payload, none⟩
  | .ok (.suspended at_) => ⟨run, .suspended, some at_.cursor, none, none, some at_.prompt⟩
  | .error error => ⟨run, .failed, none, none, some error.payload, none⟩

/-- A summary as a JSON value. -/
def toJson (summary : RunSummary) : Json :=
  Json.ofMembers ([("runId", .text summary.run), ("status", .text summary.status.label)]
    ++ Json.optional "nodeId" (summary.node.map .text)
    ++ Json.optional "output" summary.output
    ++ Json.optional "error" summary.error
    ++ Json.optional "prompt" (summary.prompt.map .text))

/-- Read a summary off a document. -/
def decoder : Decoder RunSummary :=
  Wire.record "struct RunSummary"
    (RunSummary.mk <$> Fields.required "runId" Decoder.string
      <*> Fields.required "status" RunStatus.decoder
      <*> Fields.optional "nodeId" Decoder.string
      <*> Fields.optional "output" Decoder.json
      <*> Fields.optional "error" Decoder.json
      <*> Fields.optional "prompt" Decoder.string)

end RunSummary

end Workflow
