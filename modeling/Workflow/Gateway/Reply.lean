import Workflow.EventStream
import Workflow.Json.Printer
import Workflow.Run.Manager
import Workflow.Text.Blank
import Workflow.Text.Encoding

/-!
# Replies of the gateway

The gateway checks graphs, starts, resumes and cancels runs, and lists those that wait for somebody.
A run that is started or resumed is answered by a stream: one frame for each event, named after its
kind, and a closing frame with the summary.
-/

namespace Workflow.Gateway

/-!
## Routes of the gateway

Which resource a request is about.
-/

/-- A request over HTTP. -/
structure Request where
  method : String
  path : String
  contentType : Option String
  body : String
deriving DecidableEq, Repr

/-- What a request is about. -/
inductive Route where
  | health
  | validation
  | runs
  | suspendedRuns
  | resumption (run : String)
  | cancellation (run : String)
deriving DecidableEq, Repr

/-- Why a request is about nothing. -/
inductive Astray where
  | unknownPath
  | wrongMethod
  /-- The name of a run is not text. -/
  | badName
deriving DecidableEq, Repr

/-- The parts of a path between its slashes; what follows a question mark does not belong to it. -/
def segments (path : String) : List String :=
  let plain := path.toList.takeWhile fun c => c ≠ '?' && c ≠ '#'
  (String.ofList plain).splitOn "/"

/-- A route to a run whose name stands in the path. -/
def named (method id : String) (route : String → Route) : Except Astray Route :=
  if id.isEmpty then .error .unknownPath
  else if method ≠ "POST" then .error .wrongMethod
  else
    match Text.Percent.decode? id with
    | some run => .ok (route run)
    | none => .error .badName

/-- A route that is read; asking for its head alone is also reading. -/
def reading (method : String) (route : Route) : Except Astray Route :=
  if method = "GET" || method = "HEAD" then .ok route else .error .wrongMethod

/-- A route that something is sent to. -/
def sending (method : String) (route : Route) : Except Astray Route :=
  if method = "POST" then .ok route else .error .wrongMethod

/-- The route of a request. -/
def Request.route (request : Request) : Except Astray Route :=
  match segments request.path with
  | ["", "api", "health"] => reading request.method .health
  | ["", "api", "graphs", "validate"] => sending request.method .validation
  | ["", "api", "runs"] => sending request.method .runs
  | ["", "api", "runs", "suspended"] => reading request.method .suspendedRuns
  | ["", "api", "runs", id, "resume"] => named request.method id .resumption
  | ["", "api", "runs", id, "cancel"] => named request.method id .cancellation
  | _ => .error .unknownPath

/-- Whether a body is declared to be JSON. -/
def Request.declaresJson (request : Request) : Bool :=
  match request.contentType with
  | none => false
  | some value =>
    let kind := Text.lowerAscii (Text.trimmed (String.ofList (value.toList.takeWhile (· ≠ ';'))))
    kind = "application/json" || (kind.startsWith "application/" && kind.endsWith "+json")

/-! ## Replies -/

open Wire (Decoder Fields)

/-- What a reply carries. -/
inductive Body where
  | empty
  | text (text : String)
  | json (value : Json)
deriving DecidableEq, Repr

/-- The reply to a request: a status with a body, or the stream of a run. -/
inductive Reply where
  | plain (status : Nat) (body : Body)
  | run (task : Task)

/-- The version that the gateway reports. -/
def version : String := "0.1.0"

/-- The status of a failure. -/
def status : Error → Nat
  | .invalidGraph .. | .invalidInput .. => 422
  | .runNotFound _ => 404
  | .json _ => 400
  | _ => 500

/-- The reply to a request that failed. -/
def failure (error : Error) : Reply :=
  .plain (status error) (.json (Json.ofMembers [("error", error.payload)]))

/-- The reply to a request that leads nowhere. -/
def astray : Astray → Reply
  | .unknownPath => .plain 404 .empty
  | .wrongMethod => .plain 405 .empty
  | .badName => .plain 400 (.text "Invalid UTF-8 in a path parameter")

/-- Read the body of a request, or refuse it. -/
def readBody {α : Type} (decoder : Decoder α) (request : Request) : Except Reply α :=
  if !request.declaresJson then
    .error (.plain 415 (.text "Expected request with Content-Type: application/json"))
  else
    match Wire.ofText decoder request.body with
    | .ok value => .ok value
    | .error .unreadable => .error (.plain 400 (.text "The request body is not JSON"))
    | .error fault => .error (.plain 422 (.text fault.message))

/-- A graph that is to be checked. -/
def validationDecoder : Decoder Json :=
  Wire.record "struct ValidateBody" (Fields.required "graph" Decoder.json)

/-- A graph that is to be run, and its inputs. -/
def startDecoder : Decoder (Json × Assoc Json) :=
  Wire.record "struct StartRunBody"
    (Prod.mk <$> Fields.required "graph" Decoder.json
      <*> Fields.withDefault "inputs" (Decoder.assoc Decoder.json) [])

/-- A decision about a run. -/
def resumeDecoder : Decoder (Decision × Option String) :=
  Wire.record "struct ResumeBody"
    (Prod.mk <$> Fields.required "decision" Decision.decoder
      <*> Fields.optional "note" Decoder.string)

/-- The defect of a graph document: it does not load, or may not run. -/
def defect? (document : Json) : Option Graph.Defect :=
  match Graph.ofJson document with
  | .error defect => some defect
  | .ok graph => graph.defect? Schema.refusal?

/-- What is told about a graph that has been checked. -/
def verdict (document : Json) : Reply :=
  match defect? document with
  | none => .plain 200 (.json (Json.ofMembers [("valid", .bool true)]))
  | some defect =>
    .plain 422 (.json (Json.ofMembers [("valid", .bool false), ("reason", .text defect.reason),
      ("nodeId", Json.orNull (defect.node?.map .text))]))

/-- What is told about a suspended run. -/
def listed (suspended : SuspendedRun) : Json :=
  Json.ofMembers [("runId", .text suspended.run), ("nodeId", .text suspended.cursor),
    ("prompt", .text suspended.prompt), ("suspendedAt", suspended.suspendedAt.toJson),
    ("expiresAt", Json.orNull (suspended.expiresAt.map Instant.toJson))]

section

variable {σ : Type} [SuspensionStore σ]

/-- Start a run of a graph. -/
def startRun (manager : Manager σ) (fresh : RunId) (document : Json) (inputs : Assoc Json) :
    Reply × Manager σ :=
  match Graph.ofJson document with
  | .error defect => (failure defect.toError, manager)
  | .ok graph =>
    match manager.submit fresh graph inputs with
    | .error error => (failure error, manager)
    | .ok (task, manager) => (.run task, manager)

/-- Resume a run. -/
def resumeRun (manager : Manager σ) (signal : ResumeSignal) : Reply × Manager σ :=
  match manager.resume signal with
  | (.error error, manager) => (failure error, manager)
  | (.ok task, manager) => (.run task, manager)

/-- Cancel a run.  One that is executing reports its end on its own stream; of one that was
suspended the last event is told here. -/
def cancelRun (manager : Manager σ) (run : RunId) (now : Instant) : Reply × Manager σ :=
  match manager.cancel run with
  | (.error error, manager) => (failure error, manager)
  | (.ok .signalled, manager) => (.plain 202 .empty, manager)
  | (.ok (.discarded event), manager) =>
    (.plain 200 (.json (Notice.toJson ⟨run, event, now⟩)), manager)
  | (.ok .notFound, manager) => (.plain 404 .empty, manager)

/-- Reply to a request about a route. -/
def serve (manager : Manager σ) (fresh : RunId) (now : Instant) (request : Request) :
    Route → Reply × Manager σ
  | .health =>
    (.plain 200 (if request.method = "HEAD" then .empty
      else .json (Json.ofMembers [("status", .text "ok"), ("version", .text version)])), manager)
  | .validation =>
    match readBody validationDecoder request with
    | .error reply => (reply, manager)
    | .ok document => (verdict document, manager)
  | .runs =>
    match readBody startDecoder request with
    | .error reply => (reply, manager)
    | .ok (document, inputs) => startRun manager fresh document inputs
  | .suspendedRuns =>
    match manager.suspendedRuns with
    | .error error => (failure error, manager)
    | .ok runs =>
      (.plain 200 (if request.method = "HEAD" then .empty
        else .json (Json.ofMembers [("runs", .list (runs.map listed))])), manager)
  | .resumption run =>
    match readBody resumeDecoder request with
    | .error reply => (reply, manager)
    | .ok (decision, note) => resumeRun manager ⟨run, decision, note⟩
  | .cancellation run => cancelRun manager run now

/-- Reply to a request; a run that it starts goes by a fresh id. -/
def handle (manager : Manager σ) (fresh : RunId) (now : Instant) (request : Request) :
    Reply × Manager σ :=
  if request.method = "OPTIONS" then (.plain 200 .empty, manager)
  else
    match request.route with
    | .error cause => (astray cause, manager)
    | .ok route => serve manager fresh now request route

end

/-- The frame of an event. -/
def eventFrame (notice : Notice) : EventStream.Frame :=
  ⟨some notice.event.kind.label, notice.render⟩

/-- The closing frame of a stream. -/
def doneFrame (summary : RunSummary) : EventStream.Frame :=
  ⟨some "done", summary.toJson.render⟩

/-- The body of the stream of a leg, so far; the summary comes when the leg has ended. -/
def stream (notices : List Notice) (summary : Option RunSummary) : String :=
  String.join
    ((notices.map eventFrame ++ (summary.map doneFrame).toList).map EventStream.Frame.render)

end Workflow.Gateway
