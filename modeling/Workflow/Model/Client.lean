import Workflow.Config.Basic
import Workflow.Model.Exchange
import Workflow.Model.Opening

/-!
# Clients of models

A client opens a stream for a request, if it manages to in the time that it is given.  A retrying
client has one for its model and one for every fallback model.  The messages and tools of a request
go to all of them alike, each with the model that it is for.
-/

namespace Workflow

/-- What a client makes of a request, given so many seconds: nothing if they do not suffice, else a
stream or a failure.  It may change a state. -/
def ModelClient (σ α : Type) : Type :=
  ModelRequest → Nat → σ → Option (Except Error α) × σ

/-- A client that asks again while its model is unavailable, and then falls back to others. -/
structure RetryingClient (σ α : Type) where
  primary : ModelClient σ α
  /-- The fallback models in their order, each with the client that serves it. -/
  fallbacks : List (ModelConfig × ModelClient σ α)
  policy : RetryPolicy

namespace RetryingClient

variable {σ α : Type}

/-- The client for the model and the fallbacks of a configuration. -/
def ofConfig (serve : ModelConfig → ModelClient σ α) (config : AppConfig) : RetryingClient σ α :=
  ⟨serve config.model, config.fallbacks.map fun model => (model, serve model),
    config.model.retry.getD .standard⟩

/-- Who is asked at a position, and for what: the model at zero, its fallbacks after it. -/
def addressee? (client : RetryingClient σ α) (request : ModelRequest) :
    Nat → Option (ModelClient σ α × ModelRequest)
  | 0 => some (client.primary, request)
  | position + 1 =>
    client.fallbacks[position]?.map fun (model, fallback) => (fallback, { request with model })

/-- Make one attempt, at a position. -/
def attempt (client : RetryingClient σ α) (request : ModelRequest) (position : Nat) (state : σ) :
    Option (Except Error α) × σ :=
  match client.addressee? request position with
  | some (asked, request) => asked request client.policy.patience state
  | none => (none, state)

/-- Open a stream, with all attempts and fallbacks. -/
def chatStream (client : RetryingClient σ α) (request : ModelRequest) (state : σ) :
    Except Error α × σ :=
  Opening.follow client.policy client.fallbacks.length (client.attempt request) state

end RetryingClient

end Workflow
