import Workflow.Error
import Workflow.Json.Document
import Workflow.Schema.Document
import Workflow.Wire.Fault

/-!
# Structured answers

A model may wrap a JSON answer in a fence of three back-ticks, with or without the name of a
language.  The fence is taken off, the rest is read as JSON and, if a schema is asked for, compared
with it.
-/

namespace Workflow.Agent

/-- Three back-ticks. -/
def fence : List Char := ['`', '`', '`']

/-- The text between a fence marked as JSON and the next fence. -/
def marked? (text : List Char) : Option (List Char) := do
  let (_, after) ← Text.breakOn? (fence ++ "json".toList) text
  let (body, _) ← Text.breakOn? fence after
  return Text.trim body

/-- The text between a fence and the next one.  What stands on the line of the first fence is the
name of a language, unless the text has no further line. -/
def fenced? (text : List Char) : Option (List Char) := do
  let (_, after) ← Text.breakOn? fence text
  let content := match Text.breakOn? ['\n'] after with
    | some (_, rest) => rest
    | none => after
  let (body, _) ← Text.breakOn? fence content
  return Text.trim body

/-- A text without its fence. -/
def unfenced (text : List Char) : List Char :=
  let trimmed := Text.trim text
  ((marked? trimmed).or (fenced? trimmed)).getD trimmed

/-- The failure of an answer that is not of the wanted form. -/
def malformed (message text : String) : Error :=
  .agent .malformedOutput message (some text)

/-- Read a structured answer. -/
def readStructured (text : String) (schema : Option Json) : Except Error Json :=
  match Json.parse? (String.ofList (unfenced text.toList)) with
  | none => .error (malformed s!"answer is not valid JSON: {Wire.unreadableText}" text)
  | some value =>
    match schema with
    | none => .ok value
    | some wanted =>
      match Schema.Document.ofJson? wanted with
      | none => .error (malformed "invalid output schema: not a schema" text)
      | some document =>
        match document.complaints value with
        | [] => .ok value
        | complaints =>
          let told := "; ".intercalate complaints
          .error (malformed s!"answer does not match schema: {told}" text)

end Workflow.Agent
