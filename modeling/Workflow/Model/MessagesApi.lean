import Workflow.Error
import Workflow.Model.Exchange

/-!
# The messages dialect

How a request is put to a provider of messages, and how the data of its event stream are read.  The
text of system messages travels apart from the others; results of tools travel as turns of the user.
-/

namespace Workflow.MessagesApi

open Wire (Decoder Fields)

/-- One entry of the conversation as it is sent. -/
structure Entry where
  role : String
  content : List Block
deriving DecidableEq, Repr

namespace Entry

/-- The content of an entry: a single text stands for itself. -/
def contentJson : List Block → Json
  | [.text text] => .text text
  | blocks => .list (blocks.map Block.toJson)

/-- An entry as a JSON value. -/
def toJson (entry : Entry) : Json :=
  Json.ofMembers [("role", .text entry.role), ("content", contentJson entry.content)]

end Entry

/-- The entry of a message; a system message has none. -/
def entry? (message : Message) : Option Entry :=
  match message.role with
  | .system => none
  | .assistant => some ⟨"assistant", message.content⟩
  | .user | .tool => some ⟨"user", message.content⟩

/-- The texts of the system messages. -/
def systemTexts (messages : List Message) : List String :=
  (messages.filter fun message => message.role = .system).map Message.text

/-- The text of all system messages, if there are any. -/
def system? (messages : List Message) : Option String :=
  if (systemTexts messages).isEmpty then none
  else some ("\n\n".intercalate (systemTexts messages))

/-- The document of a request. -/
def body (request : ModelRequest) : Json :=
  Json.ofMembers ([("model", .text request.model.model),
    ("max_tokens", .nat request.model.maxTokens),
    ("messages", .list ((request.messages.filterMap entry?).map Entry.toJson)),
    ("stream", .bool true)]
    ++ Json.optional "temperature" request.model.temperature?
    ++ Json.optional "system" ((system? request.messages).map .text)
    ++ Json.optional "tools" (if request.tools.isEmpty then none
      else some (.list (request.tools.map ToolDefinition.toJson))))

/-- The request to a provider, which has to know a key. -/
def post (request : ModelRequest) : Except Error Post :=
  match request.model.apiKey with
  | none => .error (.config "Anthropic API key not set")
  | some key =>
    .ok ⟨request.model.baseUrl.getD "https://api.anthropic.com/v1/messages",
      [("x-api-key", key), ("anthropic-version", "2023-06-01"),
        ("content-type", "application/json")] ++ request.model.headers,
      body request⟩

/-! ## The event stream -/

/-- What one frame says, as far as it matters. -/
inductive Notification where
  | usage (read written : Nat)
  | toolStart (index : Nat) (id name : String)
  | text (chunk : String)
  | toolInput (index : Nat) (chunk : String)
  /-- The message is at its end, with token counts and the reason if they are known. -/
  | finish (usage : Option (Nat × Nat)) (reason : Option String)
  | failure (message : String)
  | nothing
deriving DecidableEq, Repr

/-- Read token counts off a document. -/
def usageDecoder : Decoder (Nat × Nat) :=
  Wire.record "token counts"
    (Prod.mk <$> Fields.withDefault "input_tokens" Decoder.nat64 0
      <*> Fields.withDefault "output_tokens" Decoder.nat64 0)

/-- Read the start of a block off a document: the id and the name of a tool. -/
def blockDecoder : Decoder (Option (String × String)) :=
  Wire.taggedOr "a block" "type"
    [("tool_use", Wire.record "a tool"
      ((fun id name => some (id, name)) <$> Fields.required "id" Decoder.string
        <*> Fields.required "name" Decoder.string))]
    (Wire.bare none)

/-- Read a change of the block at some position off a document. -/
def changeDecoder : Decoder (Nat → Notification) :=
  Wire.taggedOr "a change" "type"
    [("text_delta", Wire.record "a text"
      ((fun chunk _ => .text chunk) <$> Fields.required "text" Decoder.string)),
     ("input_json_delta", Wire.record "an input"
      ((fun chunk index => .toolInput index chunk)
        <$> Fields.required "partial_json" Decoder.string))]
    (Wire.bare fun _ => .nothing)

/-- A frame of which only the kind matters. -/
def silent : Decoder Notification :=
  Wire.record "a frame" (Fields.pure .nothing)

/-- Read a frame off a document. -/
def notificationDecoder : Decoder Notification :=
  Wire.tagged "a frame" "type"
    [("message_start", Wire.record "a start"
      ((fun usage => match usage with
          | some (read, written) => .usage read written
          | none => .nothing)
        <$> Fields.required "message" (Wire.record "a message"
          (Fields.optional "usage" usageDecoder)))),
     ("content_block_start", Wire.record "a block start"
      ((fun index block => match block with
          | some (id, name) => .toolStart index id name
          | none => .nothing)
        <$> Fields.required "index" Decoder.size
        <*> Fields.required "content_block" blockDecoder)),
     ("content_block_delta", Wire.record "a block change"
      ((fun index change => change index)
        <$> Fields.required "index" Decoder.size
        <*> Fields.required "delta" changeDecoder)),
     ("content_block_stop", silent),
     ("message_delta", Wire.record "a message change"
      ((fun reason usage => .finish usage reason)
        <$> Fields.required "delta" (Wire.record "an end"
          (Fields.optional "stop_reason" Decoder.string))
        <*> Fields.optional "usage" usageDecoder)),
     ("message_stop", silent),
     ("ping", silent),
     ("error", Wire.record "a failure"
      (.failure <$> Fields.required "error" (Wire.record "a message"
        (Fields.required "message" Decoder.string))))]

/-- The reason for which a model stopped, if it is one that is known. -/
def stopReason? : String → Option StopReason
  | "end_turn" => some .endTurn
  | "tool_use" => some .toolUse
  | "max_tokens" => some .maxTokens
  | "stop_sequence" => some .stopSequence
  | _ => none

/-- What a frame comes to. -/
def Notification.items : Notification → List (Except Error Delta)
  | usage read written => [.ok (.usage read written)]
  | toolStart index id name => [.ok (.toolStart index id name)]
  | text chunk => [.ok (.text chunk)]
  | toolInput index chunk => [.ok (.toolInput index chunk)]
  | finish counts reason =>
    (counts.map fun (read, written) => .ok (.usage read written)).toList
      ++ ((reason.bind stopReason?).map fun reason => .ok (.stop reason)).toList
  | failure message => [.error (.modelStream message)]
  | nothing => []

/-- What the data of one frame come to.  Data that are not understood say nothing. -/
def read (data : String) : List (Except Error Delta) :=
  match Wire.ofText notificationDecoder data with
  | .error _ => []
  | .ok notification => notification.items

end Workflow.MessagesApi
