import Workflow.Json.Basic
import Workflow.Text.Blank

/-!
# What can go wrong

One type for the failures of the whole library.  `Error.kind` is the stable label of a failure,
`Error.message` its wording, and `Error.payload` what an `error` event carries.
-/

namespace Workflow

/-- Why an agent did not answer. -/
inductive AgentFailure where
  /-- The model could not be reached after all retries. -/
  | upstreamUnavailable
  /-- The model refused the request. -/
  | upstreamRejected
  /-- The agent took longer than its time budget. -/
  | timeout
  /-- The model went on asking for tools past the limit of rounds. -/
  | toolRoundsExhausted
  /-- The answer is not JSON, or not of the wanted form. -/
  | malformedOutput
  /-- A tool failed or reported an error. -/
  | toolFailed
deriving DecidableEq, Repr

/-- The label of a failure of an agent. -/
def AgentFailure.label : AgentFailure → String
  | upstreamUnavailable => "upstream_unavailable"
  | upstreamRejected => "upstream_rejected"
  | timeout => "timeout"
  | toolRoundsExhausted => "tool_rounds_exhausted"
  | malformedOutput => "malformed_output"
  | toolFailed => "tool_failed"

/-- A failure. -/
inductive Error where
  /-- The graph is not one that may run; the node at fault is named if there is one. -/
  | invalidGraph (reason : String) (node : Option String)
  | invalidInput (name reason : String)
  | script (message : String)
  | scriptTimeout (millis : Nat)
  /-- An agent gave no answer; `raw` is the model's text where that is of use. -/
  | agent (failure : AgentFailure) (message : String) (raw : Option String)
  /-- The step budget is used up. -/
  | loopSafety (node : String) (iterations : Nat)
  | cancelled
  | rejected (node : String) (note : Option String)
  | runNotFound (run : String)
  | modelRequest (message : String)
  | modelStream (message : String)
  | modelParse (message : String)
  | toolNotFound (name : String)
  | toolExecution (tool message : String)
  | toolTimeout (tool : String) (seconds : Nat)
  | toolServer (message : String)
  | config (message : String)
  | configNotFound (path : String)
  | store (message : String)
  | io (message : String)
  | json (message : String)
deriving DecidableEq, Repr

namespace Error

/-- The stable label of a failure. -/
def kind : Error → String
  | invalidGraph .. => "validation_error"
  | invalidInput .. => "input_error"
  | script .. | scriptTimeout .. => "script_error"
  | agent .. => "invoker_error"
  | loopSafety .. => "loop_safety_violation"
  | cancelled => "cancelled"
  | rejected .. => "approval_rejected"
  | runNotFound .. => "run_not_found"
  | modelRequest .. | modelStream .. | modelParse .. => "llm_error"
  | toolNotFound .. | toolExecution .. | toolTimeout .. | toolServer .. => "tool_error"
  | config .. | configNotFound .. => "config_error"
  | store .. => "database_error"
  | io .. => "io_error"
  | json .. => "json_error"

/-- The wording of a failure. -/
def message : Error → String
  | invalidGraph reason _ => s!"Invalid workflow graph: {reason}"
  | invalidInput name reason => s!"Invalid input '{name}': {reason}"
  | script message => s!"Script failed: {message}"
  | scriptTimeout millis => s!"Script timed out after {millis}ms"
  | agent failure message _ => s!"Invoker error ({failure.label}): {message}"
  | loopSafety node iterations =>
    s!"Loop safety violated at node {node} after {iterations} iterations"
  | cancelled => "Run cancelled"
  | rejected node _ => s!"Approval rejected at node {node}"
  | runNotFound run => s!"Run not found: {run}"
  | modelRequest message => s!"LLM request failed: {message}"
  | modelStream message => s!"LLM streaming error: {message}"
  | modelParse message => s!"LLM response parse error: {message}"
  | toolNotFound name => s!"Tool not found: {name}"
  | toolExecution tool message => s!"Tool execution failed: {tool}: {message}"
  | toolTimeout tool seconds => s!"Tool timeout after {seconds}s: {tool}"
  | toolServer message => s!"MCP error: {message}"
  | config message => s!"Config error: {message}"
  | configNotFound path => s!"Config file not found: {path}"
  | store message => s!"Database error: {message}"
  | io message => s!"I/O error: {message}"
  | json message => s!"JSON error: {message}"

/-- What an event tells about a failure beside its label and wording. -/
def details : Error → List (String × Json)
  | agent failure _ raw =>
    ("invokerKind", .text failure.label) :: Json.optional "raw" (raw.map .text)
  | invalidInput name _ => [("input", .text name)]
  | rejected _ (some note) => [("note", .text note)]
  | _ => []

/-- What an `error` event carries. -/
def payload (error : Error) : Json :=
  Json.ofMembers
    ([("kind", .text error.kind), ("message", .text error.message)] ++ error.details)

/-- The status code in a message of the form `HTTP 503: …`, if it is one of 16 bits. -/
def httpStatus? (message : String) : Option Nat := do
  let rest ← Text.dropHead? "HTTP ".toList message.toList
  let digits := rest.takeWhile Char.isDigit
  if digits.isEmpty then none
  else
    let status := digits.foldl (fun n c => n * 10 + (c.toNat - '0'.toNat)) 0
    if status < 65536 then some status else none

/-- Whether a failure of a model is transient: rate limits, server errors, time-outs, dropped
connections and broken streams are. -/
def retryable : Error → Bool
  | modelRequest message =>
    match httpStatus? message with
    | some status => status = 408 || status = 429 || status ≥ 500
    | none =>
      let lower := Text.lowerAscii message
      Text.contains "timeout" lower || Text.contains "timed out" lower
        || Text.contains "connection" lower
  | modelStream _ => true
  | _ => false

end Error

end Workflow
