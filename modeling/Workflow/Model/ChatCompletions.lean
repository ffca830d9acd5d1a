import Workflow.Agent.Turn
import Workflow.Json.Printer
import Workflow.Model.Exchange

/-!
# The chat completions dialect

How a request is put to a provider of chat completions, and how the data of its event stream are
read.  A message with results of tools becomes one entry for each result; a message in which the
model asks for tools becomes one entry with all its calls.
-/

namespace Workflow.ChatCompletions

open Wire (Decoder Fields)

/-- One entry of the conversation as it is sent. -/
structure Entry where
  role : String
  content : Option String
  /-- The tools that the model asks for. -/
  calls : List Agent.Call
  /-- The call that the entry answers. -/
  answers : Option String
deriving DecidableEq, Repr

namespace Entry

/-- An entry of a text. -/
def plain (role text : String) : Entry :=
  ⟨role, some text, [], none⟩

/-- The result of a call. -/
def result (id content : String) : Entry :=
  ⟨"tool", some content, [], some id⟩

/-- The entry of a model that asks for tools; it has content only if there is text. -/
def asking (text : String) (calls : List Agent.Call) : Entry :=
  ⟨"assistant", if text.isEmpty then none else some text, calls, none⟩

/-- A call at a position as a JSON value. -/
def callJson (call : Agent.Call) (index : Nat) : Json :=
  Json.ofMembers [("index", .nat index), ("id", .text call.id), ("type", .text "function"),
    ("function", Json.ofMembers [("name", .text call.name), ("arguments", .text call.input)])]

/-- The calls of an entry; an entry without any has no such member. -/
def callsJson? (entry : Entry) : Option Json :=
  if entry.calls.isEmpty then none
  else some (.list (entry.calls.zipIdx.map fun (call, index) => callJson call index))

/-- An entry as a JSON value. -/
def toJson (entry : Entry) : Json :=
  Json.ofMembers ([("role", .text entry.role)]
    ++ Json.optional "content" (entry.content.map .text)
    ++ Json.optional "tool_calls" entry.callsJson?
    ++ Json.optional "tool_call_id" (entry.answers.map .text))

end Entry

/-- The results of tools in a message, as entries. -/
def results (message : Message) : List Entry :=
  message.content.filterMap fun
    | .toolResult id content _ => some (Entry.result id content)
    | _ => none

/-- The tools that a message asks for. -/
def calls (message : Message) : List Agent.Call :=
  message.toolUses.map fun (id, name, input) => ⟨id, name, input.render⟩

/-- The entries of a message. -/
def entries (message : Message) : List Entry :=
  match message.role with
  | .system => [.plain "system" message.text]
  | .user | .tool =>
    if (results message).isEmpty then [.plain "user" message.text] else results message
  | .assistant =>
    if (calls message).isEmpty then [.plain "assistant" message.text]
    else [.asking message.text (calls message)]

/-- A tool on offer. -/
def offer (tool : ToolDefinition) : Json :=
  Json.ofMembers [("type", .text "function"),
    ("function", Json.ofMembers [("name", .text tool.name), ("description", .text tool.description),
      ("parameters", tool.inputSchema)])]

/-- The document of a request. -/
def body (request : ModelRequest) : Json :=
  Json.ofMembers ([("model", .text request.model.model),
    ("messages", .list ((request.messages.flatMap entries).map Entry.toJson)),
    ("max_tokens", .nat request.model.maxTokens), ("stream", .bool true),
    ("stream_options", Json.ofMembers [("include_usage", .bool true)])]
    ++ Json.optional "temperature" request.model.temperature?
    ++ Json.optional "tools"
      (if request.tools.isEmpty then none else some (.list (request.tools.map offer))))

/-- Where requests go: the configured address, which may leave out the last part of the path. -/
def url (base : Option String) : String :=
  match base with
  | none => "https://api.openai.com/v1/chat/completions"
  | some base =>
    if base.endsWith "/chat/completions" then base
    else
      String.ofList (base.toList.reverse.dropWhile (· = '/')).reverse ++ "/chat/completions"

/-- The request to a provider. -/
def post (request : ModelRequest) : Post where
  url := url request.model.baseUrl
  headers := ("content-type", "application/json")
    :: (request.model.apiKey.map fun key => ("authorization", s!"Bearer {key}")).toList
    ++ request.model.headers
  body := body request

/-! ## The event stream -/

/-- A piece of a call in the stream. -/
structure CallPart where
  index : Nat
  id : Option String
  /-- The name and the arguments, if there is a function. -/
  function : Option (Option String × Option String)
deriving DecidableEq, Repr

/-- What the stream says about the only choice that is read. -/
structure Choice where
  /-- The text and the calls, if there is any change. -/
  delta : Option (Option String × Option (List CallPart))
  finish : Option String
deriving DecidableEq, Repr

/-- Read a piece of a call off a document. -/
def callPartDecoder : Decoder CallPart :=
  Wire.record "a tool call"
    ((fun index id _ function => ⟨index, id, function⟩)
      <$> Fields.withDefault "index" Decoder.size 0
      <*> Fields.nullable "id" Decoder.string
      <*> Fields.nullable "type" Decoder.string
      <*> Fields.nullable "function" (Wire.record "a function"
        (Prod.mk <$> Fields.nullable "name" Decoder.string
          <*> Fields.nullable "arguments" Decoder.string)))

/-- Read a choice off a document. -/
def choiceDecoder : Decoder Choice :=
  Wire.record "a choice"
    (Choice.mk
      <$> Fields.optional "delta" (Wire.record "a change"
        (Prod.mk <$> Fields.optional "content" Decoder.string
          <*> Fields.optional "tool_calls" (Decoder.list callPartDecoder)))
      <*> Fields.optional "finish_reason" Decoder.string)

/-- Read the choices and the token counts off a document. -/
def chunkDecoder : Decoder (List Choice × Option (Nat × Nat)) :=
  Wire.record "a chunk"
    (Prod.mk <$> Fields.withDefault "choices" (Decoder.list choiceDecoder) []
      <*> Fields.optional "usage" (Wire.record "token counts"
        (Prod.mk <$> Fields.withDefault "prompt_tokens" Decoder.nat64 0
          <*> Fields.withDefault "completion_tokens" Decoder.nat64 0)))

/-- A text unless it is empty. -/
def unlessEmpty (text : Option String) : Option String :=
  text.filter fun text => !text.isEmpty

/-- What a piece of a call comes to.  The name and arguments may come together. -/
def CallPart.deltas (part : CallPart) : List Delta :=
  match part.function with
  | none => []
  | some (name, arguments) =>
    (name.map fun name => Delta.toolStart part.index (part.id.getD "") name).toList
      ++ ((unlessEmpty arguments).map (Delta.toolInput part.index)).toList

/-- The reason for which a model stopped. -/
def stopReason : String → StopReason
  | "tool_calls" | "function_call" => .toolUse
  | "length" => .maxTokens
  | _ => .endTurn

/-- What a choice comes to. -/
def Choice.deltas (choice : Choice) : List Delta :=
  (match choice.delta with
    | none => []
    | some (text, calls) =>
      ((unlessEmpty text).map Delta.text).toList ++ (calls.getD []).flatMap CallPart.deltas)
    ++ (choice.finish.map fun reason => Delta.stop (stopReason reason)).toList

/-- What the data of one frame come to.  Data that are not understood say nothing. -/
def read (data : String) : List Delta :=
  if Text.trimmed data = "[DONE]" then []
  else
    match Wire.ofText chunkDecoder data with
    | .error _ => []
    | .ok (choices, usage) =>
      (choices.take 1).flatMap Choice.deltas
        ++ (usage.map fun (read, written) => Delta.usage read written).toList

end Workflow.ChatCompletions
