import Workflow.CommandLine.Arguments
import Workflow.Config.Environment
import Workflow.Graph.Basic

/-!
# Commands

What the command line can be asked for, and the texts that explain it.
-/

namespace Workflow.CommandLine

/-- What is to be done. -/
inductive Command where
  /-- Check the graph in a file. -/
  | validate (graph : String)
  /-- Execute the graph in a file, with inputs in the form `key=value` and a decision for every
  approval. -/
  | run (graph : String) (inputs : List String) (decision : Option Decision)
  | serve
  | config
  | completions (shell : String)
deriving DecidableEq, Repr

/-- A command and the file with the configuration. -/
structure Invocation where
  config : String
  command : Command
deriving DecidableEq, Repr

/-- What a command line comes to. -/
inductive Request where
  | invocation (invocation : Invocation)
  /-- A text is asked for. -/
  | text (text : String)
  | misuse
deriving DecidableEq, Repr

/-- The text that names the version. -/
def versionText : String := "stepwise 0.1.0"

/-- The general help; it tells the value of the variable that names the configuration. -/
def helpText (setting : String) : String :=
  "\n".intercalate
    ["Workflow graph execution engine", "", "Usage: stepwise [OPTIONS] <COMMAND>", "", "Commands:",
     "  validate     Check a graph document without running it",
     "  run          Execute a graph and print its events as JSON lines",
     "  serve        Start the HTTP gateway",
     "  config       Show current configuration",
     "  completions  Generate shell completions",
     "  help         Print this message or the help of the given subcommand(s)", "", "Options:",
     "  -c, --config <CONFIG>  Path to config file [env: STEPWISE_CONFIG=" ++ setting
       ++ "] [default: stepwise.toml]",
     "  -h, --help             Print help",
     "  -V, --version          Print version"]

/-- The help of a command, if there is such a command. -/
def helpOf? (command : String) : Option String :=
  let page (about usage : String) (arguments options : List String) : Option String :=
    some ("\n".intercalate ([about, "", "Usage: stepwise " ++ usage, ""]
      ++ (if arguments.isEmpty then [] else "Arguments:" :: arguments ++ [""])
      ++ "Options:" :: options))
  let graph := "  <GRAPH>  Graph JSON file"
  let help := "  -h, --help  Print help"
  match command with
  | "validate" => page "Check a graph document without running it" "validate <GRAPH>" [graph] [help]
  | "run" =>
    page "Execute a graph and print its events as JSON lines" "run [OPTIONS] <GRAPH>" [graph]
      ["  -i, --input <KEY=VALUE>  Run input as key=value (repeatable)",
       "      --approve            Approve every approval gate without asking",
       "      --reject             Reject every approval gate without asking",
       "  -h, --help               Print help"]
  | "serve" => page "Start the HTTP gateway" "serve" [] [help]
  | "config" => page "Show current configuration" "config" [] [help]
  | "completions" =>
    page "Generate shell completions" "completions <SHELL>"
      ["  <SHELL>  Shell to generate completions for [possible values: bash, elvish, fish, "
        ++ "powershell, zsh]"] [help]
  | _ => none

/-- The shells that completions can be generated for. -/
def shells : List String :=
  ["bash", "elvish", "fish", "powershell", "zsh"]

/-- The options of a command. -/
def optionsOf : String → List OptionForm
  | "run" =>
    [⟨"input", some 'i', true, true, true⟩, ⟨"approve", none, false, true, false⟩,
     ⟨"reject", none, false, true, false⟩, .help]
  | _ => [.help]

/-- The options before the command. -/
def leadingOptions : List OptionForm :=
  [⟨"config", some 'c', true, false, false⟩, .help, .version]

/-- The decision that options ask for; they must not contradict each other. -/
def decisionOf (given : Given) : Except Halt (Option Decision) :=
  match given.has "approve", given.has "reject" with
  | true, true => .error .misuse
  | true, false => .ok (some .approve)
  | false, true => .ok (some .reject)
  | false, false => .ok none

/-- The command of a name with what was given to it. -/
def commandOf (name : String) (given : Given) : Except Halt Command :=
  match name, given.words with
  | "validate", [graph] => if graph.isEmpty then .error .misuse else .ok (.validate graph)
  | "run", [graph] =>
    if graph.isEmpty then .error .misuse
    else (decisionOf given).map fun decision => .run graph (given.values "input") decision
  | "serve", [] => .ok .serve
  | "config", [] => .ok .config
  | "completions", [shell] =>
    if shells.contains shell then .ok (.completions shell) else .error .misuse
  | _, _ => .error .misuse

/-- The file with the configuration: the option decides, then the environment. -/
def configOf (environment : Environment) (given : Given) : Except Halt String :=
  match given.values "config", Assoc.get? environment "STEPWISE_CONFIG" with
  | path :: _, _ => .ok path
  | [], some path => if path.isEmpty then .error .misuse else .ok path
  | [], none => .ok "stepwise.toml"

/-- What a command line comes to that names a command. -/
def requestOf (environment : Environment) (leading : Given) (name : String)
    (arguments : List String) : Request :=
  match helpOf? name with
  | none => .misuse
  | some help =>
    match read (optionsOf name) false .nothing arguments with
    | .error .help => .text help
    | .error _ => .misuse
    | .ok (given, _) =>
      match commandOf name given, configOf environment leading with
      | .ok command, .ok config => .invocation ⟨config, command⟩
      | _, _ => .misuse

/-- What a command line comes to. -/
def parse (environment : Environment) (arguments : List String) : Request :=
  let help := helpText ((Assoc.get? environment "STEPWISE_CONFIG").getD "")
  match read leadingOptions true .nothing arguments with
  | .error .help => .text help
  | .error .version => .text versionText
  | .error .misuse => .misuse
  | .ok (_, []) => .misuse
  | .ok (_, ["help"]) => .text help
  | .ok (_, ["help", name]) => ((helpOf? name).map Request.text).getD .misuse
  | .ok (leading, name :: rest) => requestOf environment leading name rest

end Workflow.CommandLine
