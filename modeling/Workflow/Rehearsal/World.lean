import Workflow.Agent.Conversation
import Workflow.Model.Exchange
import Workflow.Rehearsal.Servers
import Workflow.Run.Leg
import Workflow.Script.Runner
import Workflow.Width

/-!
# The world of a rehearsal

A `World` has a clock that moves only when everybody waits, scripted models and tools, and notes
what they are asked.  An `Errand` is a piece of work that has been begun: it is done at some time,
or it is the conversation of an agent.
-/

namespace Workflow.Rehearsal

/-- More stages than any rehearsal goes through. -/
def plenty : Nat := Width.span 62

/-- What runs are rehearsed in. -/
structure World where
  /-- The time in milliseconds. -/
  now : Nat
  /-- The instant at which the calendar stands. -/
  calendar : Instant
  turns : List Turn
  toolbox : Toolbox
  /-- What a model does when its script is at its end. -/
  silence : Turn
  settings : Agent.Settings
  /-- What models have been asked, the latest first. -/
  asked : List ModelRequest
  /-- The tools that have been called by their qualified names, the latest first. -/
  called : List (String × Json)

namespace World

/-- A world with scripted models and tools. -/
def create (settings : Agent.Settings) (calendar : Instant) (turns : List Turn)
    (toolbox : Toolbox) : World :=
  ⟨0, calendar, turns, toolbox, Turn.missing, settings, [], []⟩

/-- Read the calendar; no two readings are alike. -/
def readCalendar (world : World) : Instant × World :=
  let next : Instant :=
    if world.calendar.nanos + 1000 < 1000000000 then
      { world.calendar with nanos := world.calendar.nanos + 1000 }
    else ⟨world.calendar.seconds + 1, 0⟩
  (world.calendar, { world with calendar := next })

/-- Ask a model. -/
def ask (world : World) (request : ModelRequest) : Turn × World :=
  (world.turns.headD world.silence,
    { world with turns := world.turns.drop 1, asked := request :: world.asked })

/-- Ask for the definitions of tools. -/
def define (world : World) (specs : List ToolSpec) :
    Except Error (List ToolDefinition) × World :=
  let (result, toolbox) := world.toolbox.define specs
  (result, { world with toolbox })

/-- Call a tool by its qualified name. -/
def useTool (world : World) (name : String) (arguments : Json) :
    (Nat × Except Error ToolOutput) × World :=
  let (result, toolbox) := world.toolbox.call world.now name arguments
  (result, { world with toolbox, called := (name, arguments) :: world.called })

end World

/-- The conversation of an agent that has to wait. -/
structure Talk where
  request : AgentConfig
  stage : Agent.Conversation
  /-- The stage that follows, and when. -/
  next : Option (Nat × Agent.Conversation)
  /-- When the time of the agent is up. -/
  deadline : Nat

namespace Talk

/-- The beginning of a conversation. -/
def start (world : World) (request : AgentConfig) : Talk :=
  ⟨request, .start request, none, world.now + world.settings.timeout⟩

/-- When something happens next. -/
def wake (talk : Talk) : Nat :=
  match talk.next with
  | some (time, _) => min time talk.deadline
  | none => talk.deadline

/-- The conversation at a stage. -/
def at_ (talk : Talk) (stage : Agent.Conversation) : Talk :=
  { talk with stage, next := none }

/-- The conversation with a stage to come after some time. -/
def later (talk : Talk) (world : World) (delay : Nat) (stage : Agent.Conversation) : Talk :=
  if delay = 0 then talk.at_ stage else { talk with next := some (world.now + delay, stage) }

/-- One stage further, or nothing if the conversation has to wait or has ended.  At the same time
an answer comes before the end of the agent's time. -/
def step? (cancelled : Bool) (talk : Talk) (world : World) : Option (Talk × World) :=
  let settings := world.settings
  let request := talk.request
  let move := Agent.Conversation.step settings request
  let halt (cause : Agent.Halt) : Talk := talk.at_ (.ended (.error (cause.error settings)))
  match talk.next with
  | some (time, stage) =>
    if cancelled then some (halt .cancelled, world)
    else if time ≤ world.now then some (talk.at_ stage, world)
    else if talk.deadline ≤ world.now then some (halt .outOfTime, world)
    else none
  | none =>
    match talk.stage with
    | .discovering =>
      let (result, world) := world.define request.tools
      some (talk.at_ (move .discovering (some result)), world)
    | .ready state => some (talk.at_ (move (.ready state) cancelled), world)
    | .asking state attempt =>
      let model := Agent.Conversation.model settings request
      let (turn, world) := world.ask ⟨model, state.messages, state.tools⟩
      some (talk.later world turn.delay (move (.asking state attempt) (.ok turn.answer)), world)
    | .resting state attempt =>
      let delay := settings.retry.backoff attempt
      some (talk.later world delay (move (.resting state attempt) (.ok ())), world)
    | .calling state results call rest =>
      let ((delay, answer), world) := world.useTool call.name call.arguments
      some (talk.later world delay (move (.calling state results call rest) (.ok answer)), world)
    | .ended _ => none

/-- Go on until the conversation has to wait or has ended, for so many stages at most. -/
def advanceFor (cancelled : Bool) : Nat → Talk → World → Talk × World
  | 0, talk, world => (talk, world)
  | fuel + 1, talk, world =>
    match talk.step? cancelled world with
    | some (talk, world) => advanceFor cancelled fuel talk world
    | none => (talk, world)

/-- Go on until the conversation has to wait or has ended. -/
def advance (cancelled : Bool) (talk : Talk) (world : World) : Talk × World :=
  advanceFor cancelled plenty talk world

/-- Carry a conversation to its end, cancelling it at some time. -/
def finishFor : Nat → Bool → Option Nat → Talk → World → Except Error Agent.Result × World
  | 0, _, _, _, world => (.error .cancelled, world)
  | fuel + 1, cancelled, cancelAt, talk, world =>
    let (talk, world) := talk.advance cancelled world
    match talk.stage with
    | .ended result => (result, world)
    | _ =>
      match cancelAt with
      | some time =>
        if time ≤ talk.wake then
          finishFor fuel true none talk { world with now := max world.now time }
        else finishFor fuel cancelled cancelAt talk { world with now := talk.wake }
      | none => finishFor fuel cancelled none talk { world with now := talk.wake }

/-- Carry a conversation to its end, cancelling it at once or at some time. -/
def finish (cancelled : Bool) (cancelAt : Option Nat) (talk : Talk) (world : World) :
    Except Error Agent.Result × World :=
  finishFor plenty cancelled cancelAt talk world

end Talk

/-- A piece of work that has been begun. -/
inductive Errand where
  | talk (talk : Talk)
  | value (time : Nat) (result : Except Error Json)
  | truth (time : Nat) (result : Except Error Bool)
  | output (time : Nat) (result : Except Error ToolOutput)

namespace Errand

/-- Begin a piece of work.  Scripts take no time. -/
def start (world : World) : Work → Errand × World
  | .agent request => (talk (.start world request), world)
  | .transform script bindings millis =>
    (value world.now (Script.run {} false millis script bindings), world)
  | .choice condition bindings millis | .iteration condition bindings millis _ =>
    (truth world.now (Script.runCondition {} false millis condition bindings), world)
  | .tool server tool arguments =>
    let ((delay, result), world) := world.useTool (ToolName.qualified server tool) arguments
    (output (world.now + delay) result, world)

/-- Go one stage further, or nothing if the work has to wait or is done. -/
def step? (errand : Errand) (world : World) : Option (Errand × World) :=
  match errand with
  | talk t => (t.step? false world).map fun (t, world) => (talk t, world)
  | _ => none

/-- When something happens next. -/
def wake : Errand → Nat
  | talk t => t.wake
  | value time _ | truth time _ | output time _ => time

/-- The result of a piece of work, if it is there. -/
def result? (now : Nat) : Errand → (work : Work) → Option (Except Error work.Result)
  | talk t, .agent _ =>
    match t.stage with
    | .ended result => some (result.map Agent.Result.output)
    | _ => none
  | value time result, .transform .. => if time ≤ now then some result else none
  | truth time result, .choice .. => if time ≤ now then some result else none
  | truth time result, .iteration .. => if time ≤ now then some result else none
  | output time result, .tool .. => if time ≤ now then some result else none
  | _, _ => none

end Errand

end Workflow.Rehearsal
