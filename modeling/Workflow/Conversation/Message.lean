import Workflow.Clock.Instant
import Workflow.Tool

/-!
# Conversations with a model

A `Message` is a list of content blocks under a role: texts, requests to use a tool and the results
of such requests.
-/

namespace Workflow

open Wire (Decoder Fields)

/-- Who speaks. -/
inductive Role where
  | system
  | user
  | assistant
  | tool
deriving DecidableEq, Repr

namespace Role

/-- The label of a role. -/
def label : Role → String
  | system => "system"
  | user => "user"
  | assistant => "assistant"
  | tool => "tool"

/-- Read a role off a document. -/
def decoder : Decoder Role :=
  Decoder.variant ([system, user, assistant, tool].map fun role => (role.label, role))

end Role

/-- A piece of a message. -/
inductive Block where
  | text (text : String)
  /-- The model asks for a tool. -/
  | toolUse (id name : String) (input : Json)
  /-- The answer to the request with the same id. -/
  | toolResult (id content : String) (isError : Bool)
deriving DecidableEq, Repr

namespace Block

/-- A block as a JSON value. -/
def toJson : Block → Json
  | text value => Json.ofMembers [("type", .text "text"), ("text", .text value)]
  | toolUse id name input =>
    Json.ofMembers [("type", .text "tool_use"), ("id", .text id), ("name", .text name),
      ("input", input)]
  | toolResult id content isError =>
    Json.ofMembers [("type", .text "tool_result"), ("tool_use_id", .text id),
      ("content", .text content), ("is_error", .bool isError)]

/-- Read a block off a document. -/
def decoder : Decoder Block :=
  Wire.tagged "internally tagged enum ContentBlock" "type"
    [("text", Wire.record "struct variant ContentBlock::Text"
        (text <$> Fields.required "text" Decoder.string)),
     ("tool_use", Wire.record "struct variant ContentBlock::ToolUse"
        (toolUse <$> Fields.required "id" Decoder.string
          <*> Fields.required "name" Decoder.string
          <*> Fields.required "input" Decoder.json)),
     ("tool_result", Wire.record "struct variant ContentBlock::ToolResult"
        (toolResult <$> Fields.required "tool_use_id" Decoder.string
          <*> Fields.required "content" Decoder.string
          <*> Fields.required "is_error" Decoder.bool))]

end Block

/-- One message of a conversation. -/
structure Message where
  role : Role
  content : List Block
  time : Option Instant
deriving DecidableEq, Repr

namespace Message

/-- A message of a single text. -/
def ofText (role : Role) (text : String) (time : Option Instant) : Message :=
  ⟨role, [.text text], time⟩

/-- All text of a message. -/
def text (message : Message) : String :=
  String.join (message.content.filterMap fun
    | .text text => some text
    | _ => none)

/-- The tools that a message asks for: id, name and input. -/
def toolUses (message : Message) : List (String × String × Json) :=
  message.content.filterMap fun
    | .toolUse id name input => some (id, name, input)
    | _ => none

/-- A message as a JSON value. -/
def toJson (message : Message) : Json :=
  Json.ofMembers ([("role", .text message.role.label),
    ("content", .list (message.content.map Block.toJson))]
    ++ Json.optional "timestamp" (message.time.map Instant.toJson))

/-- Read a message off a document. -/
def decoder : Decoder Message :=
  Wire.record "struct ChatMessage"
    (Message.mk <$> Fields.required "role" Role.decoder
      <*> Fields.required "content" (Decoder.list Block.decoder)
      <*> Fields.nullable "timestamp" Instant.decoder)

end Message

/-- Why a model stopped. -/
inductive StopReason where
  | endTurn
  | toolUse
  | maxTokens
  | stopSequence
deriving DecidableEq, Repr

/-- A piece of a model's streamed answer. -/
inductive Delta where
  | text (chunk : String)
  /-- The request at a position starts. -/
  | toolStart (index : Nat) (id name : String)
  /-- More of the input of the request at a position. -/
  | toolInput (index : Nat) (chunk : String)
  | stop (reason : StopReason)
  /-- Tokens that were read and written. -/
  | usage (input output : Nat)
deriving DecidableEq, Repr

end Workflow
