import Workflow.Config.Basic
import Workflow.Config.Toml
import Workflow.Error

/-!
# Loading a configuration

References to the environment are put in before the text is read.
-/

namespace Workflow.AppConfig

/-- Read a configuration from its text. -/
def parse (environment : Environment) (text : String) : Except Error AppConfig :=
  match Toml.parse? (environment.expand text) with
  | none => .error (.config "TOML parse error: not well formed")
  | some value =>
    match Wire.ofValue decoder value with
    | .ok config => .ok config
    | .error fault => .error (.config s!"TOML parse error: {fault.message}")

/-- Load a configuration from a file, given how files are read. -/
def load (environment : Environment) (read : String → Option String) (path : String) :
    Except Error AppConfig :=
  match read path with
  | none => .error (.configNotFound path)
  | some text => parse environment text

end Workflow.AppConfig
