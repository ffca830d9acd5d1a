import Workflow.CommandLine.Command
import Workflow.Config.Loading
import Workflow.Config.TomlWriter
import Workflow.Rehearsal.FaultyStore
import Workflow.Rehearsal.Play
import Workflow.Rehearsal.Provider

/-!
# Carrying out commands

A command reads files, writes lines and fails or not.  Runs are carried out without a network:
providers of models are out of reach, and tool servers are reached as far as the surroundings have a
script for them.
-/

namespace Workflow.CommandLine

open Rehearsal

/-- What a command finds around it. -/
structure Surroundings where
  environment : Environment
  /-- The text of a file. -/
  file : String → Option String
  /-- The tool server that a transport leads to. -/
  server : Transport → Option ServerScript
  calendar : Instant
  /-- The id of the next run. -/
  fresh : RunId

/-- What a command comes to: its exit code, the lines that it writes, and why it failed. -/
structure Report where
  code : Nat
  lines : List String
  failure : Option String
deriving DecidableEq, Repr

namespace Report

/-- A command that did its work. -/
def done (lines : List String) : Report :=
  ⟨0, lines, none⟩

/-- A command that failed after it had written some lines. -/
def failed (lines : List String) (failure : String) : Report :=
  ⟨1, lines, some failure⟩

/-- A command line that is not understood. -/
def misuse : Report :=
  ⟨2, [], none⟩

end Report

/-- Load the configuration. -/
def loadConfig (surroundings : Surroundings) (path : String) : Except String AppConfig :=
  match AppConfig.load surroundings.environment surroundings.file path with
  | .ok config => .ok config
  | .error (.configNotFound path) =>
    .error s!"config file {path} not found; create one with at least a [model] section"
  | .error error => .error error.message

/-- Load a graph. -/
def loadGraph (surroundings : Surroundings) (path : String) : Except String Graph :=
  match surroundings.file path with
  | none => .error s!"cannot read graph file {path}"
  | some text =>
    match Graph.ofText text with
    | .ok graph => .ok graph
    | .error defect => .error defect.toError.message

/-- Read one input. -/
def readInput (pair : String) : Except String (String × Json) :=
  match pair.toList.dropWhile (· ≠ '=') with
  | [] => .error s!"input '{pair}' is not in key=value form"
  | _ :: value =>
    let key := Text.trimmed (String.ofList (pair.toList.takeWhile (· ≠ '=')))
    if key.isEmpty then .error s!"input '{pair}' has an empty name"
    else .ok (key, .text (String.ofList value))

/-- Read the inputs of a run; the last value of a repeated name stands. -/
def readInputs (pairs : List String) : Except String (Assoc Json) :=
  (pairs.mapM readInput).map Assoc.ofList

/-- A configuration as it is shown.  The temperature is widened to double precision. -/
def shown (config : AppConfig) : Json :=
  let model (model : ModelConfig) : Json :=
    .record (Assoc.insert model.toJson.members "temperature"
      (.number (.real model.temperature.toFloat)))
  .record (Assoc.insert (Assoc.insert config.toJson.members "model" (model config.model))
    "fallback_models" (.list (config.fallbacks.map model)))

/-- Check a graph. -/
def validate (surroundings : Surroundings) (path : String) : Report :=
  match loadGraph surroundings path with
  | .error failure => .failed [] s!"{path}: {failure}"
  | .ok graph =>
    match graph.defect? Schema.refusal? with
    | some defect => .failed [] s!"{path}: {defect.toError.message}"
    | none => .done [s!"{path}: valid"]

/-- The world that runs are carried out in. -/
def world (surroundings : Surroundings) (config : AppConfig) : World :=
  let servers := Servers.create ((config.servers.getD []).map fun (name, server) =>
    (name, server, surroundings.server server.transport))
  let world := World.create (.ofConfig config.engine config.model) surroundings.calendar []
    (.served servers.connectAll.2)
  { world with silence := Provider.silence config }

/-- The line of an event. -/
def line (surroundings : Surroundings) (run : RunId) (event : Event) : String :=
  Notice.render ⟨run, event, surroundings.calendar⟩

/-- The report on a run that has ended. -/
def conclude (lines : List String) (summary : RunSummary) : Report :=
  match summary.status with
  | .failed =>
    let message := (summary.error.bind fun error => error.textAt? "message").getD "unknown error"
    let node := summary.node.getD "-"
    .failed lines s!"run {summary.run} failed at node {node}: {message}"
  | _ => .done lines

/-- Carry a run through all its approvals, for so many legs at most. -/
def runLegs (surroundings : Surroundings) (decision : Decision) :
    Nat → List String → Play AnyStore → Task → Report
  | 0, lines, _, _ => .done lines
  | fuel + 1, lines, play, task =>
    let play := (play.spawn task).finish task.token
    match play.job? task.token with
    | none => .done lines
    | some job =>
      let lines := lines ++ job.told.reverse.map (line surroundings task.run)
      match job.task.summary? with
      | none => .done lines
      | some summary =>
        match summary.status with
        | .suspended =>
          match play.manager.resume ⟨task.run, decision, none⟩ with
          | (.error error, _) => .failed lines error.message
          | (.ok task, manager) =>
            runLegs surroundings decision fuel lines { play with manager } task
        | _ => conclude lines summary

/-- Execute a graph.  Where nobody decides, approvals are rejected. -/
def run (surroundings : Surroundings) (config : AppConfig) (graph : Graph) (inputs : Assoc Json)
    (decision : Option Decision) : Report :=
  let store : AnyStore := if config.store.isSome then .rows .empty else .memory .empty
  match (Manager.create config.engine store).submit surroundings.fresh graph inputs with
  | .error error => .failed [] error.message
  | .ok (task, manager) =>
    runLegs surroundings (decision.getD .reject) plenty []
      ⟨world surroundings config, manager, [], [], []⟩ task

/-- Carry out a command. -/
def perform (surroundings : Surroundings) (invocation : Invocation) : Report :=
  match invocation.command with
  | .validate graph => validate surroundings graph
  | .completions _ => .done []
  | .config =>
    match loadConfig surroundings invocation.config with
    | .error failure => .failed [] failure
    | .ok config => .done [Toml.render (shown config)]
  | .serve =>
    match loadConfig surroundings invocation.config with
    | .error failure => .failed [] failure
    | .ok _ => .failed [] "there is no network to serve"
  | .run path pairs decision =>
    match loadConfig surroundings invocation.config with
    | .error failure => .failed [] failure
    | .ok config =>
      match loadGraph surroundings path with
      | .error failure => .failed [] failure
      | .ok graph =>
        match readInputs pairs with
        | .error failure => .failed [] failure
        | .ok inputs => run surroundings config graph inputs decision

/-- Carry out a command line. -/
def respond (surroundings : Surroundings) (arguments : List String) : Report :=
  match parse surroundings.environment arguments with
  | .misuse => .misuse
  | .text text => .done [text]
  | .invocation invocation => perform surroundings invocation

end Workflow.CommandLine
