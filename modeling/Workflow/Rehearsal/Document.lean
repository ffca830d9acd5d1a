import Workflow.Json.Basic
import Workflow.Json.Printer
import Workflow.Rehearsal.Cast
import Workflow.Rehearsal.Provider
import Workflow.Rehearsal.World

/-!
# Rehearsal documents

The turns of models, the tools and the failures of a rehearsal are written down as JSON documents.
Whatever a document leaves out is empty.
-/

namespace Workflow.Rehearsal

/-- The failure of an agent with a label. -/
def agentFailure? (label : String) : Option AgentFailure :=
  [AgentFailure.upstreamUnavailable, .upstreamRejected, .timeout, .toolRoundsExhausted,
   .malformedOutput, .toolFailed].find? (·.label = label)

/-- The failure that a document names. -/
def failureOf (document : Json) : Error :=
  let text := document.textAt
  let message := text "message"
  match text "variant" with
  | "Validation" => .invalidGraph (text "reason") (document.textAt? "nodeId")
  | "Input" => .invalidInput (text "name") (text "reason")
  | "Script" => .script message
  | "ScriptTimeout" => .scriptTimeout (document.natAt "timeoutMs")
  | "Invoker" =>
    .agent ((agentFailure? (text "kind")).getD .toolFailed) message (document.textAt? "raw")
  | "LoopSafety" => .loopSafety (text "nodeId") (document.natAt "iterations")
  | "Cancelled" => .cancelled
  | "ApprovalRejected" => .rejected (text "nodeId") (document.textAt? "note")
  | "RunNotFound" => .runNotFound message
  | "LlmRequest" => .modelRequest message
  | "LlmStream" => .modelStream message
  | "LlmParse" => .modelParse message
  | "ToolNotFound" => .toolNotFound message
  | "ToolExecution" => .toolExecution (text "tool") message
  | "ToolTimeout" => .toolTimeout (text "tool") (document.natAt "timeoutSecs")
  | "Mcp" => .toolServer message
  | "Config" => .config message
  | "ConfigNotFound" => .configNotFound message
  | "Database" => .store message
  | _ => .io message

/-- The failure at a member, if one is named there. -/
def failureAt? (document : Json) (name : String) : Option Error :=
  if document.has name then some (failureOf (document.get name)) else none

/-- The names of the reasons to stop. -/
def stopReasons : List (String × StopReason) :=
  [("EndTurn", .endTurn), ("ToolUse", .toolUse), ("MaxTokens", .maxTokens),
   ("StopSequence", .stopSequence)]

/-- The name of a reason to stop. -/
def stopName (reason : StopReason) : String :=
  ((stopReasons.find? fun entry => entry.2 = reason).map (·.1)).getD ""

/-- A piece of an answer as a document. -/
def deltaDocument : Delta → Json
  | .text chunk => .list [.text "text", .text chunk]
  | .toolStart index id name => .list [.text "toolStart", .nat index, .text id, .text name]
  | .toolInput index chunk => .list [.text "toolInput", .nat index, .text chunk]
  | .stop reason => .list [.text "stop", .text (stopName reason)]
  | .usage read written => .list [.text "usage", .nat read, .nat written]

/-- The piece of an answer that a document describes. -/
def deltaOf (document : Json) : Delta :=
  let number (position : Nat) : Nat := ((document.item position).nat?).getD 0
  match document.itemText 0 with
  | "toolStart" => .toolStart (number 1) (document.itemText 2) (document.itemText 3)
  | "toolInput" => .toolInput (number 1) (document.itemText 2)
  | "stop" =>
    .stop (((stopReasons.find? fun entry => entry.1 = document.itemText 1).map (·.2)).getD .endTurn)
  | "usage" => .usage (number 1) (number 2)
  | _ => .text (document.itemText 1)

/-- The turn of a model that a document describes. -/
def turnOf (document : Json) : Turn where
  delay := document.natAt "delayMs"
  answer :=
    if document.has "text" then .ok (Turn.saying (document.textAt "text"))
    else if document.has "toolCall" then
      let call := document.get "toolCall"
      .ok (Turn.asking (call.textAt "id") (call.textAt "name") (call.get "arguments").render)
    else if document.has "broken" then
      let broken := document.get "broken"
      .ok ⟨[.text (broken.textAt "partial")], failureAt? broken "error"⟩
    else
      match failureAt? document "fail" with
      | some error => .error error
      | none => .ok ⟨(document.itemsAt "deltas").map deltaOf, failureAt? document "error"⟩

/-- The tool that a document describes. -/
def toolOf (document : Json) : Tool where
  server := document.textAt "server"
  tool := document.textAt "tool"
  delay := document.natAt? "delayMs"
  failure := failureAt? document "fail"
  result :=
    match document.get "result" with
    | .text content => .success content
    | value => (Wire.ofValue ToolOutput.decoder value).toOption.getD (.failure "no result")

/-! ## Tool servers -/

open ToolServer

/-- The tool that a server lists. -/
def listedOf (document : Json) : Listed :=
  ⟨document.textAt "name", document.textAt? "description", document.get "inputSchema"⟩

/-- The output that a result of a call stands for.  A result has content or a structure, and content
is a list of texts. -/
def outputOf (document : Json) : Except Failure ToolOutput :=
  let structured := if document.has "structuredContent" then some (document.get "structuredContent")
    else none
  let blocks := (document.itemsAt "content").map fun block =>
    if block.textAt "type" = "text" then block.textAt? "text" else none
  if blocks.any Option.isNone || (blocks.isEmpty && structured.isNone) then .error .unexpected
  else .ok ⟨"\n".intercalate (blocks.filterMap id), structured, document.flagAt "isError"⟩

/-- The levels of log messages, and how they are told on. -/
def logLevels : List (String × String) :=
  [("debug", "Debug"), ("info", "Info"), ("notice", "Notice"), ("warning", "Warning"),
   ("error", "Error"), ("critical", "Critical"), ("alert", "Alert"), ("emergency", "Emergency")]

/-- What a server does when a tool is called. -/
def reactionOf (document : Json) : Reaction :=
  if document.flagAt "echo" then .echo
  else if document.has "rpcError" then
    let refusal := document.get "rpcError"
    let code := match refusal.get "code" with
      | .number (.int code) => code
      | _ => 0
    .refuse code (refusal.textAt "message")
  else if document.flagAt "change" then .change
  else if document.has "log" then
    let log := document.get "log"
    match Assoc.get? logLevels (log.textAt "level"), log.member? "data" with
    | some level, some data => .log level data
    | _, _ => .answer (.error .unexpected)
  else if document.flagAt "exit" then .leave
  else
    match document.textAt? "exitOnce" with
    | some mark => .leaveOnce mark (outputOf document)
    | none => .answer (outputOf document)

/-- The server that a document describes. -/
def serverOf (document : Json) : ServerScript where
  tools := (document.itemsAt "tools").map listedOf
  extra := (document.itemsAt "extra").map listedOf
  reactions := Assoc.mapValues (fun reaction => (reaction.natAt "delayMs", reactionOf reaction))
    (document.membersAt "results")
  keepsQuiet := document.flagAt "listError"
  hangsUp := document.flagAt "noInit"

/-- The servers that a document describes by name: how they are reached, and what they do.  A server
that is not told how to be reached is a program with a script. -/
def serversOf (document : Json) : Servers :=
  .create (document.members.filterMap fun (name, server) =>
    let config := server.get "config"
    let scripted := !config.has "transport"
    let program := Transport.toJson (.program "server" [] [])
    let config := if scripted then .record (Assoc.insert config.members "transport" program)
      else config
    (Wire.ofValue ServerConfig.decoder config).toOption.map fun config =>
      (name, config, if scripted then some (serverOf (server.get "spec")) else none))

/-! ## Providers -/

/-- The bytes that a text or a list of numbers stands for. -/
def bytesOf : Json → List UInt8
  | .text text => Utf8.encode text
  | value => value.items.map fun byte => UInt8.ofNat (byte.nat?.getD 0)

/-- The response that a document describes. -/
def responseOf (document : Json) : Response where
  status := (document.natAt? "status").getD 200
  chunks :=
    if document.has "chunks" then (document.itemsAt "chunks").map bytesOf
    else [bytesOf (document.get "body")]
  cutOff := document.flagAt "truncate"

/-! ## Events, limits and worlds -/

/-- The event that some items of a document describe: its node, its kind and its payload. -/
def eventOf (document : Json) (position : Nat) : Event :=
  ⟨document.itemText position,
    (EventKind.named? (document.itemText (position + 1))).getD .resumed,
    document.item (position + 2)⟩

/-- The policy at a member, if there is one. -/
def policyAt? (document : Json) (name : String) : Option RetryPolicy :=
  if document.has name then (Wire.ofValue RetryPolicy.decoder (document.get name)).toOption
  else none

/-- The limits of the engine that a document sets.  Where it does not set the time of scripts, that
of `standard` holds. -/
def limitsAt (document : Json) (standard : EngineConfig) : EngineConfig :=
  let config := document.get "config"
  match Wire.ofValue EngineConfig.decoder (.record config.members) with
  | .ok limits =>
    if (config.member? "script_timeout_ms").isSome then limits
    else { limits with scriptTimeout := standard.scriptTimeout }
  | .error _ => standard

/-- The world with the models and tools that a document describes. -/
def worldOf (document : Json) (limits : EngineConfig) : World :=
  .create (.ofConfig limits (testModel (policyAt? document "retry"))) ⟨1767225600, 0⟩
    ((document.itemsAt "llm").map turnOf) (.listed ((document.itemsAt "tools").map toolOf))

/-- The limits of scripts that a document sets. -/
def limitsOf (document : Json) : Script.Limits :=
  let standard : Script.Limits := {}
  let or (name : String) (value : Nat) : Nat := (document.natAt? name).getD value
  { operations := or "operations" standard.operations
    callLevels := or "callLevels" standard.callLevels
    stringSize := or "stringSize" standard.stringSize
    listSize := or "arraySize" standard.listSize
    mapSize := or "mapSize" standard.mapSize
    depth := or "exprDepth" standard.depth }

end Workflow.Rehearsal
