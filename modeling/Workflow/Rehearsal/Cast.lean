import Workflow.Agent.Turn
import Workflow.Model.Client

/-!
# Scripted models and tools

A rehearsal runs workflows without any model or tool server: models answer turn by turn from a
script, and tools have results that are known beforehand.  Each answer may take some time.
-/

namespace Workflow.Rehearsal

/-- One answer of a scripted model. -/
structure Turn where
  /-- Milliseconds until the answer. -/
  delay : Nat
  answer : Except Error ModelStream

namespace Turn

/-- A turn that says something. -/
def saying (text : String) : ModelStream :=
  ⟨[.text text, .usage 10 5, .stop .endTurn], none⟩

/-- A text in two pieces, the first of which has at most so many bytes. -/
def cut (bytes : Nat) : List Char → List Char × List Char
  | [] => ([], [])
  | c :: rest =>
    if c.utf8Size ≤ bytes then
      let (head, tail) := cut (bytes - c.utf8Size) rest
      (c :: head, tail)
    else ([], c :: rest)

/-- A turn that asks for a tool; the arguments arrive in two halves. -/
def asking (id name arguments : String) : ModelStream :=
  let (head, tail) := cut (arguments.utf8ByteSize / 2) arguments.toList
  ⟨[.toolStart 0 id name, .toolInput 0 (String.ofList head), .toolInput 0 (String.ofList tail),
    .stop .toolUse], none⟩

/-- What a model answers when its script is at its end. -/
def missing : Turn :=
  ⟨0, .error (.modelRequest "HTTP 400: no scripted response left")⟩

end Turn

/-- A tool whose result is known beforehand. -/
structure Tool where
  server : String
  tool : String
  delay : Option Nat
  /-- The failure that comes in place of the result. -/
  failure : Option Error
  result : ToolOutput

namespace Tool

/-- The name by which models know a tool. -/
def name (tool : Tool) : String :=
  ToolName.qualified tool.server tool.tool

/-- What models are told about a tool. -/
def definition (tool : Tool) : ToolDefinition :=
  ⟨tool.name, s!"mock tool {tool.tool}", Json.ofMembers [("type", .text "object")]⟩

end Tool

/-- The definitions of the tools that specifications ask for. -/
def definitions (tools : List Tool) : List ToolSpec → Except Error (List ToolDefinition)
  | [] => .ok []
  | spec :: rest =>
    let offered := tools.filter fun tool => tool.server = spec.server
    if offered.isEmpty then .error (.toolServer s!"unknown server '{spec.server}'")
    else
      let allowed := offered.filter fun tool => spec.allows tool.tool
      (definitions tools rest).map (allowed.map Tool.definition ++ ·)

/-- What the tool of a qualified name comes to; of several the last stands. -/
def lookUp (tools : List Tool) (name : String) : Except Error ToolOutput :=
  let found := (ToolName.split? name).bind fun (server, tool) =>
    (tools.filter fun t => t.server = server && t.tool = tool).getLast?
  match found with
  | some tool => .ok tool.result
  | none => .error (.toolNotFound name)

/-- How long a call by a name takes, and what it comes to. -/
def call (tools : List Tool) (name : String) : Nat × Except Error ToolOutput :=
  let named := tools.filter fun tool => tool.name = name
  let delay := (named.filterMap Tool.delay).getLast?.getD 0
  match (named.filterMap Tool.failure).getLast? with
  | some error => (delay, .error error)
  | none => (delay, lookUp tools name)

/-- The model that rehearsals ask. -/
def testModel (retry : Option RetryPolicy) : ModelConfig :=
  { provider := "openai", model := "test-model", apiKey := none, baseUrl := none, maxTokens := 4096,
    temperature := 0, headers := [], retry }

/-- A scripted client: the model it stands for, its turns, and how often it has been asked. -/
structure Client where
  model : String
  turns : List Turn
  asked : Nat

namespace Client

/-- Ask a client, which has to answer within some milliseconds. -/
def ask (client : Client) (limit : Nat) : Option (Except Error ModelStream) × Client :=
  let turn := client.turns.headD Turn.missing
  (if turn.delay ≤ limit then some turn.answer else none,
    { client with turns := client.turns.drop 1, asked := client.asked + 1 })

/-- Ask the client at a position. -/
def askAt (clients : List Client) (position limit : Nat) :
    Option (Except Error ModelStream) × List Client :=
  match clients[position]? with
  | some client =>
    let (answer, client) := client.ask limit
    (answer, clients.set position client)
  | none => (none, clients)

/-- The client at a position, as it serves requests. -/
def serve (position : Nat) : ModelClient (List Client) ModelStream :=
  fun _ seconds clients => askAt clients position (seconds * 1000)

/-- Open a stream; the first client is the model, the others are its fallbacks. -/
def openStream (policy : RetryPolicy) (clients : List Client) :
    Except Error ModelStream × List Client :=
  let model := testModel policy
  let fallbacks := clients.tail.zipIdx.map fun (client, position) =>
    (model.withModel client.model, serve (position + 1))
  RetryingClient.chatStream ⟨serve 0, fallbacks, policy⟩ ⟨model, [Message.ofText .user "hi" none], []⟩ clients

end Client

end Workflow.Rehearsal
