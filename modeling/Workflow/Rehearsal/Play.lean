import Workflow.Rehearsal.World
import Workflow.Run.Manager

/-!
# Rehearsals of several runs

A `Play` is a manager with its tasks in a rehearsed world.  The tasks take turns: each one goes on
until it has to wait, in the order in which the tasks were begun.  When all of them wait, the clock
moves to the first time at which something happens.  A `Cue` cancels a run at some time or while
some event is reported.
-/

namespace Workflow.Rehearsal

/-- When a run is cancelled. -/
inductive Cue where
  | time (time : Nat) (run : RunId)
  | event (kind : EventKind) (node : String) (run : RunId)
deriving DecidableEq, Repr

/-- A task with the work that it waits for, and what its run has reported, the latest first. -/
structure Job where
  task : Task
  errand : Option Errand
  told : List Event

namespace Job

/-- A task that has not begun. -/
def ofTask (task : Task) : Job :=
  ⟨task, none, []⟩

/-- Whether the leg of a job has ended. -/
def isSettled (job : Job) : Bool :=
  match job.task.stage with
  | .settled _ => true
  | _ => false

end Job

/-- A manager at work in a rehearsed world. -/
structure Play (σ : Type) where
  world : World
  manager : Manager σ
  /-- The tasks in the order in which they were begun. -/
  jobs : List Job
  cues : List Cue
  /-- All events that have been reported, the latest first. -/
  published : List (RunId × Event)

namespace Play

variable {σ : Type} [SuspensionStore σ]

/-- Begin a task. -/
def spawn (play : Play σ) (task : Task) : Play σ :=
  { play with jobs := play.jobs ++ [.ofTask task] }

/-- The job of a token. -/
def job? (play : Play σ) (token : Token) : Option Job :=
  play.jobs.find? fun job => job.task.token = token

/-- Cancel a run if it is executing. -/
def cancelLive (play : Play σ) (run : RunId) : Play σ :=
  if play.manager.isLive run then { play with manager := (play.manager.cancel run).2 } else play

/-- Take down an event, and cancel the run that it is the cue for. -/
def publish (play : Play σ) (run : RunId) (event : Event) : Play σ :=
  let play := { play with published := (run, event) :: play.published }
  play.cues.foldl (fun play cue =>
    match cue with
    | .event kind node target =>
      if kind = event.kind && node = event.node && target = run then play.cancelLive target
      else play
    | .time .. => play) play

/-- Let a task do one step, unless it has to wait or has ended. -/
def step? (play : Play σ) (job : Job) : Option (Play σ × Job) :=
  let moved (errand : Option Errand) (world : World)
      (result : Manager σ × Task × List Event) : Option (Play σ × Job) :=
    let (manager, task, events) := result
    let play := events.foldl (fun play event => play.publish task.run event)
      { play with manager, world }
    some (play, { job with task, errand, told := events.reverse ++ job.told })
  let manager := play.manager
  let world := play.world
  match job.task with
  | ⟨run, token, .submitted graph inputs⟩ =>
    moved none world (manager.advance ⟨run, token, .submitted graph inputs⟩ ())
  | ⟨run, token, .claimed suspended signal⟩ =>
    moved none world (manager.advance ⟨run, token, .claimed suspended signal⟩ ())
  | ⟨run, token, .running plan (.between context next)⟩ =>
    moved none world (manager.advance ⟨run, token, .running plan (.between context next)⟩ ())
  | ⟨run, token, .running plan (.entered context node)⟩ =>
    let (now, world) := world.readCalendar
    moved none world (manager.advance ⟨run, token, .running plan (.entered context node)⟩ now)
  | ⟨run, token, .running plan (.working context node work)⟩ =>
    let task : Task := ⟨run, token, .running plan (.working context node work)⟩
    if manager.isCancelled token then moved none world (manager.advance task none)
    else
      match job.errand with
      | none =>
        let (errand, world) := Errand.start world work
        some ({ play with world }, { job with errand := some errand })
      | some errand =>
        match errand.result? world.now work with
        | some result => moved none world (manager.advance task (some result))
        | none => (errand.step? world).map fun (errand, world) =>
            ({ play with world }, { job with errand := some errand })
  | ⟨run, token, .running plan (.parking suspended)⟩ =>
    moved none world (manager.advance ⟨run, token, .running plan (.parking suspended)⟩ ())
  | ⟨run, token, .running plan (.parked suspended)⟩ =>
    moved none world (manager.advance ⟨run, token, .running plan (.parked suspended)⟩ ())
  | ⟨run, token, .running plan (.ended outcome)⟩ =>
    moved none world (manager.advance ⟨run, token, .running plan (.ended outcome)⟩ ())
  | ⟨_, _, .settled _⟩ => none

/-- Let a task go on until it has to wait or has ended, for so many steps at most. -/
def attendFor : Nat → Play σ → Job → Play σ × Job
  | 0, play, job => (play, job)
  | fuel + 1, play, job =>
    match play.step? job with
    | some (play, job) => attendFor fuel play job
    | none => (play, job)

/-- Let every task go on until it has to wait or has ended. -/
def attend (play : Play σ) : Play σ :=
  let (play, jobs) := play.jobs.foldl (fun (play, jobs) job =>
    let (play, job) := attendFor plenty play job
    (play, jobs ++ [job])) (play, [])
  { play with jobs }

/-- When something happens next. -/
def wake? (play : Play σ) : Option Nat :=
  let errands := play.jobs.filterMap fun job =>
    if job.isSettled then none else job.errand.map Errand.wake
  let cues := play.cues.filterMap fun
    | .time time _ => some time
    | .event .. => none
  (errands ++ cues).min?

/-- Cancel the runs whose time for it has come. -/
def cueTimes (play : Play σ) : Play σ :=
  let due := play.cues.filter fun
    | .time time _ => time ≤ play.world.now
    | .event .. => false
  let play := due.foldl (fun play cue =>
    match cue with
    | .time _ run => play.cancelLive run
    | .event .. => play) play
  { play with cues := play.cues.filter fun cue => !due.contains cue }

/-- Let the clock stand at a time at least. -/
def setClock (play : Play σ) (time : Nat) : Play σ :=
  { play with world := { play.world with now := max play.world.now time } }

/-- Go on until a condition holds, or until some time, or until nothing happens any more; for so
many times at most. -/
def runFor (limit : Option Nat) (done : Play σ → Bool) : Nat → Play σ → Play σ
  | 0, play => play
  | fuel + 1, play =>
    let play := play.attend
    if done play then play
    else
      match play.wake?, limit with
      | none, none => play
      | none, some time => play.setClock time
      | some wake, none => runFor limit done fuel (play.setClock wake).cueTimes
      | some wake, some time =>
        if time ≤ wake then play.setClock time
        else runFor limit done fuel (play.setClock wake).cueTimes

/-- Let some time pass. -/
def sleep (play : Play σ) (millis : Nat) : Play σ :=
  play.runFor (some (play.world.now + millis)) (fun _ => false) plenty

/-- Whether a job has ended or has told of so many events. -/
def hasTold (token : Token) (count : Option Nat) (play : Play σ) : Bool :=
  (play.job? token).any fun job => job.isSettled || count.any (· ≤ job.told.length)

/-- Go on until a job has told of so many events, or has ended. -/
def listen (play : Play σ) (token : Token) (count : Nat) : Play σ :=
  play.runFor none (hasTold token (some count)) plenty

/-- Go on until a job has ended. -/
def finish (play : Play σ) (token : Token) : Play σ :=
  play.runFor none (hasTold token none) plenty

/-- Sweep again and again, with some time in between, for a while. -/
def sweepFor : Nat → Play σ → Nat → Nat → Play σ
  | 0, play, _, _ => play
  | fuel + 1, play, interval, stop =>
    let next := play.world.now + interval
    if next < stop then
      let play := play.sleep interval
      let (now, world) := play.world.readCalendar
      let (_, tasks, manager) := play.manager.sweep now
      sweepFor fuel (tasks.foldl spawn { play with world, manager }) interval stop
    else play.sleep (stop - play.world.now)

end Play

end Workflow.Rehearsal
