import Workflow.Error
import Workflow.Retry

/-!
# Opening a stream

A model is asked again while it fails for transient reasons, with a rest before each further
attempt.  When it stays unavailable, the fallback models are asked once each, in order.  A request
that a model rejects is never repeated and never handed to a fallback.

An `Opening` is a stage on this way.  What may happen next at a stage is its `Move`, so `step` is
total and there are no moves out of turn.
-/

namespace Workflow

/-- How far the opening of a stream has come. -/
inductive Opening (α : Type) where
  /-- The model is asked for the time after `attempt` earlier ones. -/
  | primary (attempt : Nat)
  /-- Attempt `attempt` failed for a transient reason, and the next one has to wait. -/
  | resting (attempt : Nat)
  /-- The model failed with `last`, and the fallback at a position is asked. -/
  | fallback (position : Nat) (last : Error)
  | ended (result : Except Error α)

namespace Opening

variable {α : Type}

/-- What can happen at a stage: a model answers, or does not answer in time, or a rest is over. -/
def Move : Opening α → Type
  | primary _ => Option (Except Error α)
  | resting _ => Unit
  | fallback .. => Option (Except Error α)
  | ended _ => Empty

/-- The failure of an attempt that took too long. -/
def outOfPatience (policy : RetryPolicy) : Error :=
  .modelRequest s!"timeout after {policy.patience}s waiting for response"

/-- The outcome of an attempt; no answer in time is a failure. -/
def outcome (policy : RetryPolicy) : Option (Except Error α) → Except Error α
  | some result => result
  | none => .error (outOfPatience policy)

/-- The stage at which the fallback at a position is due. -/
def fallBack (fallbacks position : Nat) (last : Error) : Opening α :=
  if position < fallbacks then fallback position last else ended (.error last)

/-- The first stage. -/
def start : Opening α :=
  primary 0

/-- The stage after something has happened, with so many fallback models. -/
def step (policy : RetryPolicy) (fallbacks : Nat) : (stage : Opening α) → stage.Move → Opening α
  | primary attempt, answer =>
    match outcome policy answer with
    | .ok stream => ended (.ok stream)
    | .error error =>
      if !error.retryable then ended (.error error)
      else if attempt < policy.maxRetries then resting attempt
      else fallBack fallbacks 0 error
  | resting attempt, () => primary (attempt + 1)
  | fallback position last, answer =>
    match outcome policy answer with
    | .ok stream => ended (.ok stream)
    | .error _ => fallBack fallbacks (position + 1) last

/-- Go on with the opening of a stream, for so many stages at most, given how models answer and what
asking them changes; the model stands at position zero, its fallbacks after it. -/
def followFor {σ : Type} (policy : RetryPolicy) (fallbacks : Nat)
    (ask : Nat → σ → Option (Except Error α) × σ) :
    Nat → Opening α → σ → Except Error α × σ
  | 0, _, state => (.error (outOfPatience policy), state)
  | fuel + 1, stage, state =>
    match stage with
    | primary attempt =>
      let (answer, state) := ask 0 state
      followFor policy fallbacks ask fuel (step policy fallbacks (primary attempt) answer) state
    | resting attempt =>
      followFor policy fallbacks ask fuel (step policy fallbacks (resting attempt) ()) state
    | fallback position last =>
      let (answer, state) := ask (position + 1) state
      followFor policy fallbacks ask fuel
        (step policy fallbacks (fallback position last) answer) state
    | ended result => (result, state)

/-- Open a stream.  No opening has more stages than attempts, rests and fallbacks together. -/
def follow {σ : Type} (policy : RetryPolicy) (fallbacks : Nat)
    (ask : Nat → σ → Option (Except Error α) × σ) (state : σ) : Except Error α × σ :=
  followFor policy fallbacks ask (2 * policy.maxRetries + fallbacks + 3) start state

end Opening

end Workflow
