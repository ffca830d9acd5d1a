import Workflow.Agent.Structured
import Workflow.Agent.Turn
import Workflow.Config.Basic
import Workflow.Graph.Basic
import Workflow.Json.Printer

/-!
# The conversation of an agent

An agent asks a model, runs the tools that the model asks for, tells it their results and goes on
until the model answers without asking for a tool.  A stream that breaks midway is asked for again
as a whole; failures to open a stream are left to whoever opens it.  Requests for tools that the
agent may not use are answered without running anything.

A `Conversation` is a stage of this exchange, and its `Move` is what may happen next.  All waiting
is done outside: at each stage either an answer arrives, or the run is cancelled, or the time of the
agent is up.
-/

namespace Workflow.Agent

/-- What an agent works with. -/
structure Settings where
  model : ModelConfig
  retry : RetryPolicy
  /-- The rounds of tool calls of an agent that sets no limit itself. -/
  maxRounds : Nat
  /-- Milliseconds that an agent may take. -/
  timeout : Nat

namespace Settings

/-- The settings that a configuration asks for. -/
def ofConfig (engine : EngineConfig) (model : ModelConfig) : Settings :=
  ⟨model, model.retry.getD .standard, engine.maxToolRounds, engine.agentTimeout * 1000⟩

end Settings

/-- What an agent came to. -/
structure Result where
  /-- The answer: its text, or the value that was asked for. -/
  output : Json
  text : String
  rounds : Nat
  read : Nat
  written : Nat
deriving DecidableEq, Repr

/-- The state of a conversation between two questions to the model. -/
structure Transcript where
  tools : List ToolDefinition
  messages : List Message
  rounds : Nat
  read : Nat
  written : Nat
deriving DecidableEq, Repr

/-- Whether a conversation offers a tool. -/
def Transcript.offers (state : Transcript) (name : String) : Bool :=
  state.tools.any fun tool => tool.name = name

/-- Why waiting ended without an answer. -/
inductive Halt where
  | cancelled
  | outOfTime
deriving DecidableEq, Repr

/-- The failure of an agent that was interrupted. -/
def Halt.error (settings : Settings) : Halt → Error
  | cancelled => .cancelled
  | outOfTime => .agent .timeout s!"agent did not finish within {settings.timeout / 1000}s" none

/-- A stage of a conversation. -/
inductive Conversation where
  /-- The definitions of the tools are awaited. -/
  | discovering
  /-- The model is about to be asked. -/
  | ready (state : Transcript)
  /-- The model is being asked, after `attempt` streams that broke. -/
  | asking (state : Transcript) (attempt : Nat)
  /-- A stream broke; its repetition has to wait. -/
  | resting (state : Transcript) (attempt : Nat)
  /-- A tool is running; the results before it, and the requests after it. -/
  | calling (state : Transcript) (results : List Block) (call : Call) (rest : List Call)
  | ended (result : Except Error Result)

namespace Conversation

/-- What can happen at a stage. -/
def Move : Conversation → Type
  | discovering => Option (Except Error (List ToolDefinition))
  | ready _ => Bool
  | asking .. => Except Halt (Except Error ModelStream)
  | resting .. => Except Halt Unit
  | calling .. => Except Halt (Except Error ToolOutput)
  | ended _ => Empty

/-- What a model is told when a JSON value is wanted. -/
def jsonInstruction (schema : Option Json) : String :=
  "Reply with a single JSON value and nothing else. Do not wrap it in prose." ++
    match schema with
    | some schema => "\nThe value must conform to this JSON Schema:\n" ++ schema.render
    | none => ""

/-- The messages that open a conversation. -/
def opening (request : AgentConfig) : List Message :=
  let instruction := match request.outputFormat with
    | .text => []
    | .json schema => [Message.ofText .system (jsonInstruction schema) none]
  instruction ++ [Message.ofText .user request.instructions none]

/-- The stage after the tools are known. -/
def begin (request : AgentConfig) (tools : List ToolDefinition) : Conversation :=
  ready ⟨tools, opening request, 0, 0, 0⟩

/-- The first stage: tools are asked for only if the agent may use any. -/
def start (request : AgentConfig) : Conversation :=
  if request.tools.isEmpty then begin request [] else discovering

/-- The model that an agent asks. -/
def model (settings : Settings) (request : AgentConfig) : ModelConfig :=
  match request.model with
  | some name => settings.model.withModel name
  | none => settings.model

/-- The failure of an agent whose model failed. -/
def upstream (error : Error) : Error :=
  match error with
  | .cancelled => error
  | .agent .. => error
  | error =>
    if error.retryable then .agent .upstreamUnavailable error.message none
    else .agent .upstreamRejected error.message none

/-- The end of a conversation that failed. -/
def fail (error : Error) : Conversation :=
  ended (.error error)

/-- The answer that a text stands for. -/
def readAnswer (request : AgentConfig) (text : String) : Except Error Json :=
  match request.outputFormat with
  | .text => .ok (.text text)
  | .json schema => readStructured text schema

/-- The answer to a request for a tool that is not offered. -/
def refusal (call : Call) : Block :=
  .toolResult call.id s!"tool '{call.name}' is not available to this node" true

/-- The answer to a request, from what the tool came to. -/
def answer (call : Call) : Except Error ToolOutput → Block
  | .ok output => .toolResult call.id output.content output.isError
  | .error error => .toolResult call.id error.message true

/-- Go on with the requests of a turn: run the next tool that is offered, or tell the model the
results. -/
def proceed (state : Transcript) (results : List Block) : List Call → Conversation
  | [] => ready { state with messages := state.messages ++ [⟨.user, results, none⟩] }
  | call :: rest =>
    if state.offers call.name then calling state results call rest
    else proceed state (results ++ [refusal call]) rest

/-- What follows a complete turn. -/
def conclude (settings : Settings) (request : AgentConfig) (state : Transcript) (turn : Turn) :
    Conversation :=
  let state :=
    { state with read := state.read + turn.read, written := state.written + turn.written }
  let limit := request.maxToolRounds.getD settings.maxRounds
  match turn.namedCalls with
  | [] =>
    ended ((readAnswer request turn.text).map fun output =>
      ⟨output, turn.text, state.rounds, state.read, state.written⟩)
  | calls =>
    if limit ≤ state.rounds then
      fail (.agent .toolRoundsExhausted s!"model still requesting tools after {limit} rounds" none)
    else
      let state := { state with
        rounds := state.rounds + 1
        messages := state.messages ++ [turn.toMessage] }
      proceed state [] calls

/-- The stage after something has happened. -/
def step (settings : Settings) (request : AgentConfig) :
    (stage : Conversation) → stage.Move → Conversation
  | discovering, some (.ok tools) => begin request tools
  | discovering, some (.error error) =>
    fail (.agent .toolFailed s!"tool discovery failed: {error.message}" none)
  | discovering, none => fail (Halt.outOfTime.error settings)
  | ready _, true => fail .cancelled
  | ready state, false => asking state 0
  | asking _ _, .error halt => fail (halt.error settings)
  | asking _ _, .ok (.error error) => fail (upstream error)
  | asking state attempt, .ok (.ok stream) =>
    match stream.broken with
    | none => conclude settings request state (Turn.ofDeltas stream.deltas)
    | some error =>
      if error.retryable && attempt < settings.retry.maxRetries then resting state attempt
      else fail (upstream error)
  | resting _ _, .error halt => fail (halt.error settings)
  | resting state attempt, .ok () => asking state (attempt + 1)
  | calling _ _ _ _, .error halt => fail (halt.error settings)
  | calling state results call rest, .ok outcome =>
    proceed state (results ++ [answer call outcome]) rest

end Conversation

end Workflow.Agent
