import Workflow.Config.Model

/-!
# Configuration

The limits of the engine, the models that agents ask, the tool servers, the gateway and the store
for suspended runs.
-/

namespace Workflow

open Wire (Decoder Fields)

/-- The limits and budgets of the engine. -/
structure EngineConfig where
  /-- Milliseconds that a script may take. -/
  scriptTimeout : Nat
  /-- The greatest number of rounds of any loop. -/
  loopCeiling : Nat
  /-- The greatest number of nodes that a run may visit. -/
  maxSteps : Nat
  /-- The greatest number of rounds of tool calls of an agent. -/
  maxToolRounds : Nat
  /-- Seconds that an agent may take. -/
  agentTimeout : Nat
  /-- How many events are kept for slow readers. -/
  eventBuffer : Nat
deriving DecidableEq, Repr

namespace EngineConfig

/-- The limits that hold unless others are configured. -/
def standard : EngineConfig :=
  ⟨5000, 100, 10000, 8, 120, 256⟩

/-- Limits as a JSON value. -/
def toJson (config : EngineConfig) : Json :=
  Json.ofMembers [("script_timeout_ms", .nat config.scriptTimeout),
    ("loop_ceiling", .nat config.loopCeiling), ("max_steps", .nat config.maxSteps),
    ("max_tool_rounds", .nat config.maxToolRounds),
    ("invoker_timeout_secs", .nat config.agentTimeout),
    ("event_buffer", .nat config.eventBuffer)]

/-- Read limits off a document. -/
def decoder : Decoder EngineConfig :=
  Wire.record "struct EngineConfig"
    (EngineConfig.mk
      <$> Fields.withDefault "script_timeout_ms" Decoder.nat64 standard.scriptTimeout
      <*> Fields.withDefault "loop_ceiling" Decoder.nat32 standard.loopCeiling
      <*> Fields.withDefault "max_steps" Decoder.size standard.maxSteps
      <*> Fields.withDefault "max_tool_rounds" Decoder.nat32 standard.maxToolRounds
      <*> Fields.withDefault "invoker_timeout_secs" Decoder.nat64 standard.agentTimeout
      <*> Fields.withDefault "event_buffer" Decoder.size standard.eventBuffer)

end EngineConfig

/-- How a tool server is reached. -/
inductive Transport where
  | http (url : String)
  /-- A program that talks over its standard streams. -/
  | program (command : String) (arguments : List String) (environment : Assoc String)
deriving DecidableEq, Repr

namespace Transport

/-- A transport as a JSON value. -/
def toJson : Transport → Json
  | http url => Json.ofMembers [("type", .text "http"), ("url", .text url)]
  | program command arguments environment =>
    Json.ofMembers [("type", .text "stdio"), ("command", .text command),
      ("args", .list (arguments.map .text)),
      ("env", .record (environment.mapValues .text))]

/-- Read a transport off a document. -/
def decoder : Decoder Transport :=
  Wire.tagged "internally tagged enum McpTransport" "type"
    [("http", Wire.record "struct variant McpTransport::Http"
        (http <$> Fields.required "url" Decoder.string)),
     ("stdio", Wire.record "struct variant McpTransport::Stdio"
        (program <$> Fields.required "command" Decoder.string
          <*> Fields.withDefault "args" (Decoder.list Decoder.string) []
          <*> Fields.withDefault "env" (Decoder.assoc Decoder.string) []))]

end Transport

/-- A tool server. -/
structure ServerConfig where
  transport : Transport
  autoConnect : Bool
  /-- Seconds that a call of a tool may take. -/
  timeout : Nat
deriving DecidableEq, Repr

namespace ServerConfig

/-- The seconds that a call may take where nothing is configured. -/
def standardTimeout : Nat := 120

/-- A tool server as a JSON value. -/
def toJson (config : ServerConfig) : Json :=
  Json.ofMembers [("transport", config.transport.toJson),
    ("auto_connect", .bool config.autoConnect), ("timeout_secs", .nat config.timeout)]

/-- Read a tool server off a document. -/
def decoder : Decoder ServerConfig :=
  Wire.record "struct McpServerConfig"
    (ServerConfig.mk
      <$> Fields.required "transport" Transport.decoder
      <*> Fields.withDefault "auto_connect" Decoder.bool true
      <*> Fields.withDefault "timeout_secs" Decoder.nat64 standardTimeout)

end ServerConfig

/-- The whole configuration. -/
structure AppConfig where
  engine : EngineConfig
  model : ModelConfig
  fallbacks : List ModelConfig
  /-- The tool servers by name. -/
  servers : Option (Assoc ServerConfig)
  /-- The address that the gateway listens at. -/
  gateway : Option String
  /-- The path of the store for suspended runs. -/
  store : Option String
deriving Repr

namespace AppConfig

/-- Read the tool servers off a document. -/
def serversDecoder : Decoder (Assoc ServerConfig) :=
  Wire.record "struct McpConfig"
    (Fields.withDefault "servers" (Decoder.assoc ServerConfig.decoder) [])

/-- Read the gateway's address off a document. -/
def gatewayDecoder : Decoder String :=
  Wire.record "struct GatewayConfig"
    (Fields.withDefault "bind" Decoder.string "127.0.0.1:18790")

/-- Read the store's path off a document. -/
def storeDecoder : Decoder String :=
  Wire.record "struct StoreConfig" (Fields.required "path" Decoder.string)

/-- A configuration as a JSON value. -/
def toJson (config : AppConfig) : Json :=
  Json.ofMembers [("engine", config.engine.toJson), ("model", config.model.toJson),
    ("fallback_models", .list (config.fallbacks.map ModelConfig.toJson)),
    ("mcp", Json.orNull (config.servers.map fun servers =>
      .record [("servers", .record (servers.mapValues ServerConfig.toJson))])),
    ("gateway", Json.orNull (config.gateway.map fun bind => .record [("bind", .text bind)])),
    ("store", Json.orNull (config.store.map fun path => .record [("path", .text path)]))]

/-- Read a configuration off a document. -/
def decoder : Decoder AppConfig :=
  Wire.record "struct AppConfig"
    (AppConfig.mk
      <$> Fields.withDefault "engine" EngineConfig.decoder EngineConfig.standard
      <*> Fields.required "model" ModelConfig.decoder
      <*> Fields.withDefault "fallback_models" (Decoder.list ModelConfig.decoder) []
      <*> Fields.optional "mcp" serversDecoder
      <*> Fields.optional "gateway" gatewayDecoder
      <*> Fields.optional "store" storeDecoder)

end AppConfig

end Workflow
