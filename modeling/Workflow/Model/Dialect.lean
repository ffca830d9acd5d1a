import Workflow.EventStream
import Workflow.Model.ChatCompletions
import Workflow.Model.MessagesApi

/-!
# Dialects of providers

Each provider speaks one of two dialects.  In both of them an answer is an event stream, and what is
cut off in the middle of it is not told from an answer that has come to its end.
-/

namespace Workflow

/-- How a provider is talked to. -/
inductive Dialect where
  | chatCompletions
  | messages
deriving DecidableEq, Repr

namespace Dialect

/-- The dialect of a provider. -/
def ofProvider (provider : String) : Dialect :=
  if provider = "anthropic" || provider = "claude" then messages else chatCompletions

/-- The request to a provider. -/
def post (dialect : Dialect) (request : ModelRequest) : Except Error Post :=
  match dialect with
  | chatCompletions => .ok (ChatCompletions.post request)
  | messages => MessagesApi.post request

/-- What the data of one frame come to. -/
def items (dialect : Dialect) (data : String) : List (Except Error Delta) :=
  match dialect with
  | chatCompletions => (ChatCompletions.read data).map .ok
  | messages => MessagesApi.read data

/-- What stands for the body of a refusal that was cut off. -/
def unread : Dialect → String
  | chatCompletions => "unknown"
  | messages => "unknown error"

/-- What a response comes to: a refusal, or the pieces of an answer. -/
def read (dialect : Dialect) (response : Response) :
    Except Error (List (Except Error Delta)) :=
  if response.isSuccess then
    .ok ((EventStream.Reader.fresh.feedAll response.chunks).2.flatMap fun frame =>
      dialect.items frame.data)
  else .error (.modelRequest (response.refusal dialect.unread))

end Dialect

/-- The pieces up to the first failure, and that failure. -/
def ModelStream.ofItems : List (Except Error Delta) → ModelStream
  | [] => ⟨[], none⟩
  | .error error :: _ => ⟨[], some error⟩
  | .ok delta :: rest => ⟨delta :: (ofItems rest).deltas, (ofItems rest).broken⟩

end Workflow
