import Workflow.Decimal.Notation
import Workflow.Decimal.Reading
import Workflow.Retry

/-!
# The configuration of a model

Which provider serves a model, under which name, and how it is asked.
-/

namespace Workflow

open Wire (Decoder Fields)

/-- A model and how to reach it. -/
structure ModelConfig where
  provider : String
  model : String
  apiKey : Option String
  baseUrl : Option String
  maxTokens : Nat
  temperature : Float32
  /-- Headers that go along with every request. -/
  headers : Assoc String
  retry : Option RetryPolicy
deriving Repr

namespace ModelConfig

/-- The same provider with another model. -/
def withModel (config : ModelConfig) (model : String) : ModelConfig :=
  { config with model }

/-- A number in single precision as a JSON number: the fewest digits that identify it. -/
def singleNumber (x : Float32) : Json :=
  match Decimal.readDouble? (Decimal.plainStyle.writeSingle x).toList with
  | some value => if x.isFinite then .number (.real value) else .null
  | none => .null

/-- The temperature, unless it is left to the provider. -/
def temperature? (config : ModelConfig) : Option Json :=
  if 0 < config.temperature then some (singleNumber config.temperature) else none

/-- A configuration as a JSON value. -/
def toJson (config : ModelConfig) : Json :=
  Json.ofMembers [("provider", .text config.provider), ("model_id", .text config.model),
    ("api_key", Json.orNull (config.apiKey.map .text)),
    ("base_url", Json.orNull (config.baseUrl.map .text)),
    ("max_tokens", .nat config.maxTokens), ("temperature", singleNumber config.temperature),
    ("extra_headers", .record (config.headers.mapValues .text)),
    ("retry", Json.orNull (config.retry.map RetryPolicy.toJson))]

/-- Read a configuration off a document. -/
def decoder : Decoder ModelConfig :=
  Wire.record "struct ModelConfig"
    (ModelConfig.mk
      <$> Fields.withDefault "provider" Decoder.string "openai"
      <*> Fields.required "model_id" Decoder.string
      <*> Fields.optional "api_key" Decoder.string
      <*> Fields.optional "base_url" Decoder.string
      <*> Fields.withDefault "max_tokens" Decoder.nat32 4096
      <*> Fields.withDefault "temperature" Decoder.single 0
      <*> Fields.withDefault "extra_headers" (Decoder.assoc Decoder.string) []
      <*> Fields.optional "retry" RetryPolicy.decoder)

end ModelConfig

end Workflow
