import Workflow.Context
import Workflow.Json.Printer

/-!
# Templates

A template is text with references to run state between double braces: to the last output, or to
an input by name.  `Template.pieces` cuts a template once and for all into literals and references,
so what is put in for a reference is never looked at again.  Blocks that hold anything else are
literal text.
-/

namespace Workflow.Template

/-- What a template refers to. -/
inductive Reference where
  | input (name : String)
  | lastOutput
deriving DecidableEq, Repr

/-- A part of a template. -/
inductive Piece where
  | literal (text : List Char)
  | reference (target : Reference)
deriving DecidableEq, Repr

/-- Whether a character can start the name of an input. -/
def startsName (c : Char) : Bool :=
  c.isAlpha || c = '_'

/-- Whether a character can stand in the name of an input. -/
def inName (c : Char) : Bool :=
  c.isAlphanum || c = '_' || c = '-'

/-- The name of an input: ASCII letters, digits, underscores and hyphens, a letter or underscore
first. -/
def isName : List Char → Bool
  | [] => false
  | c :: cs => startsName c && (c :: cs).all inName

/-- The reference that an expression without surrounding white space stands for. -/
def reference? (expression : List Char) : Option Reference :=
  if expression = "lastOutput".toList then some .lastOutput
  else
    match Text.dropHead? "input.".toList expression with
    | some name => if isName name then some (.input (String.ofList name)) else none
    | none => none

/-- Whether a character is no brace. -/
def isPlain (c : Char) : Bool :=
  c ≠ '{' && c ≠ '}'

/-- The expression of the block at the start of a text, and what follows the block. -/
def blockAt? : List Char → Option (List Char × List Char)
  | '{' :: '{' :: rest =>
    match rest.dropWhile isPlain with
    | '}' :: '}' :: after => some (rest.takeWhile isPlain, after)
    | _ => none
  | _ => none

theorem length_lt_of_blockAt? {cs expression after : List Char}
    (h : blockAt? cs = some (expression, after)) : after.length < cs.length := by
  unfold blockAt? at h
  split at h
  · rename_i rest
    split at h
    · rename_i tail hdrop
      have hle : (rest.dropWhile isPlain).length ≤ rest.length :=
        (List.dropWhile_sublist isPlain).length_le
      rw [hdrop] at hle
      simp only [Option.some.injEq, Prod.mk.injEq] at h
      rw [← h.2]
      simp only [List.length_cons] at hle ⊢
      omega
    · simp at h
  · simp at h

/-- The piece that a block with an expression stands for. -/
def pieceOf (expression : List Char) : Piece :=
  match reference? (Text.trim expression) with
  | some target => .reference target
  | none => .literal ('{' :: '{' :: expression ++ ['}', '}'])

/-- The pieces of a template, from left to right. -/
def pieces (template : List Char) : List Piece :=
  match _h : template with
  | [] => []
  | c :: rest =>
    match _hb : blockAt? (c :: rest) with
    | some (expression, after) => pieceOf expression :: pieces after
    | none => .literal [c] :: pieces rest
termination_by template.length
decreasing_by
  · have := length_lt_of_blockAt? _hb
    simpa using this
  · simp

/-- The text that stands for a reference. -/
def Reference.render (context : Context) : Reference → String
  | input name => ((Assoc.get? context.inputs name).map Json.display).getD ""
  | lastOutput => (context.lastOutput.map Json.display).getD ""

/-- What there is to say about a reference: an input may be missing. -/
def Reference.warning? (context : Context) : Reference → Option String
  | input name =>
    if (Assoc.get? context.inputs name).isSome then none
    else some s!"unresolved reference 'input.{name}'"
  | lastOutput => none

/-- The text of a piece. -/
def Piece.render (context : Context) : Piece → List Char
  | literal text => text
  | reference target => (target.render context).toList

/-- What there is to say about a piece. -/
def Piece.warning? (context : Context) : Piece → Option String
  | literal _ => none
  | reference target => target.warning? context

/-- A resolved template. -/
structure Resolved where
  text : String
  /-- One entry for each reference to a missing input. -/
  warnings : List String
deriving DecidableEq, Repr

/-- Put the state of a run into a template. -/
def resolve (template : String) (context : Context) : Resolved :=
  let parts := pieces template.toList
  ⟨String.ofList (parts.flatMap (Piece.render context)), parts.filterMap (Piece.warning? context)⟩

mutual

/-- Resolve every string inside a value. -/
def resolveJson (context : Context) : Json → Json
  | .text s => .text (resolve s context).text
  | .list items => .list (resolveItems context items)
  | .record members => .record (resolveMembers context members)
  | value => value

/-- Resolve the items of an array. -/
def resolveItems (context : Context) : List Json → List Json
  | [] => []
  | item :: rest => resolveJson context item :: resolveItems context rest

/-- Resolve the values of an object's members. -/
def resolveMembers (context : Context) : List (String × Json) → List (String × Json)
  | [] => []
  | (name, value) :: rest => (name, resolveJson context value) :: resolveMembers context rest

end

end Workflow.Template
