import Workflow.Config.Basic
import Workflow.Model.Client
import Workflow.Model.Dialect
import Workflow.Rehearsal.Cast

/-!
# Scripted providers

A provider at some address that answers one request after the other with responses that are known
beforehand.  Whatever is sent elsewhere reaches nobody.
-/

namespace Workflow.Rehearsal

/-- A scripted provider. -/
structure Provider where
  /-- What the addresses of its resources start with, if it is there at all. -/
  origin : Option String
  responses : List Response
  /-- What it has been sent, the latest first. -/
  posts : List Post

namespace Provider

/-- A provider that nobody reaches. -/
def nowhere : Provider :=
  ⟨none, [], []⟩

/-- What a provider answers when its script is at its end. -/
def missing : Response :=
  ⟨400, [Utf8.encode "no scripted response left"], false⟩

/-- An address as it is told in messages: the path is a slash at least. -/
def displayed (url : String) : String :=
  if (url.splitOn "/").length = 3 then url ++ "/" else url

/-- Send something. -/
def send (provider : Provider) (post : Post) : Except Error Response × Provider :=
  if provider.origin.any (post.url.startsWith ·) then
    (.ok (provider.responses.headD missing),
      { provider with responses := provider.responses.drop 1, posts := post :: provider.posts })
  else
    (.error (.modelRequest s!"error sending request for url ({displayed post.url})"), provider)

/-- Ask a model once. -/
def ask (provider : Provider) (request : ModelRequest) :
    Except Error (List (Except Error Delta)) × Provider :=
  let dialect := Dialect.ofProvider request.model.provider
  match dialect.post request with
  | .error error => (.error error, provider)
  | .ok post =>
    match provider.send post with
    | (.error error, provider) => (.error error, provider)
    | (.ok response, provider) => (dialect.read response, provider)

/-- The client that asks a provider for any model; its answers are there at once. -/
def client : ModelClient Provider (List (Except Error Delta)) :=
  fun request _ provider =>
    let (answer, provider) := provider.ask request
    (some answer, provider)

/-- Ask the model of a configuration, with all attempts and fallbacks. -/
def converse (provider : Provider) (config : AppConfig) (messages : List Message)
    (tools : List ToolDefinition) : Except Error (List (Except Error Delta)) × Provider :=
  (RetryingClient.ofConfig (fun _ => client) config).chatStream
    ⟨config.model, messages, tools⟩ provider

/-- What the model of a configuration answers when its provider is out of reach. -/
def silence (config : AppConfig) : Turn :=
  ⟨0, (nowhere.converse config [] []).1.map ModelStream.ofItems⟩

end Provider

end Workflow.Rehearsal
