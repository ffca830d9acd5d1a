import Workflow.Text.Blank

/-!
# Arguments

The words of a command line are options, with or without values, and plain words.  A long option
takes its value after an equals sign or from the next argument, a short one from the rest of its
argument or from the next one.  The next argument is no value if it looks like an option.  After two
dashes everything is a plain word.
-/

namespace Workflow.CommandLine

/-- An option that a command knows. -/
structure OptionForm where
  long : String
  short : Option Char
  /-- Whether a value belongs to it. -/
  valued : Bool
  /-- Whether its value may be empty. -/
  blankable : Bool
  /-- Whether it may be given more than once. -/
  repeatable : Bool
deriving DecidableEq, Repr

namespace OptionForm

/-- The option that asks for help. -/
def help : OptionForm := ⟨"help", some 'h', false, true, false⟩

/-- The option that asks for the version. -/
def version : OptionForm := ⟨"version", some 'V', false, true, false⟩

end OptionForm

/-- Why a command is not carried out. -/
inductive Halt where
  | misuse
  | help
  | version
deriving DecidableEq, Repr

/-- What has been read of a command line: the options with their values, and the plain words. -/
structure Given where
  options : List (String × String)
  words : List String
deriving DecidableEq, Repr

namespace Given

/-- Nothing read yet. -/
def nothing : Given :=
  ⟨[], []⟩

/-- The values of an option, in order. -/
def values (given : Given) (name : String) : List String :=
  (given.options.filter fun entry => entry.1 = name).map (·.2)

/-- Whether an option was given. -/
def has (given : Given) (name : String) : Bool :=
  given.options.any fun entry => entry.1 = name

/-- Take in an option. -/
def take (given : Given) (form : OptionForm) (value : String) : Except Halt Given :=
  if form = .help then .error .help
  else if form = .version then .error .version
  else if !form.repeatable && given.has form.long then .error .misuse
  else if form.valued && !form.blankable && value.isEmpty then .error .misuse
  else .ok { given with options := given.options ++ [(form.long, value)] }

end Given

/-- An argument by its looks. -/
inductive Argument where
  /-- The mark after which everything is a plain word. -/
  | escape
  /-- A long option, with a value if there is an equals sign. -/
  | long (name : String) (value : Option String)
  /-- A short option and the rest of the argument. -/
  | short (letter : Char) (rest : List Char)
  | word (text : String)
deriving DecidableEq, Repr

/-- What an argument looks like. -/
def Argument.of (argument : String) : Argument :=
  match argument.toList with
  | ['-', '-'] => escape
  | '-' :: '-' :: rest =>
    long (String.ofList (rest.takeWhile (· ≠ '=')))
      (match rest.dropWhile (· ≠ '=') with
        | _ :: value => some (String.ofList value)
        | [] => none)
  | '-' :: letter :: rest => short letter rest
  | _ => word argument

/-- The value that stands in the argument of a short option itself. -/
def attached : List Char → Option String
  | [] => none
  | '=' :: value => some (String.ofList value)
  | value => some (String.ofList value)

/-- The option of an argument and the value that stands in it; nothing if the argument is no
option, and misuse if no such option is known. -/
def optionOf (forms : List OptionForm) :
    Argument → Option (Except Halt (OptionForm × Option String))
  | .escape | .word _ => none
  | .long name value =>
    some (match forms.find? fun form => form.long = name with
      | some form => .ok (form, value)
      | none => .error .misuse)
  | .short letter rest =>
    some (match forms.find? fun form => form.short = some letter with
      | some form => .ok (form, attached rest)
      | none => .error .misuse)

/-- Read arguments.  With `leading`, the first plain word ends the reading, and it is returned with
all that follows it. -/
def read (forms : List OptionForm) (leading : Bool) :
    Given → List String → Except Halt (Given × List String)
  | given, [] => .ok (given, [])
  | given, argument :: rest =>
    match optionOf forms (.of argument) with
    | some (.error halt) => .error halt
    | some (.ok (form, value)) =>
      match form.valued, value with
      | false, some _ => if form = .help || form = .version then (given.take form "").map (·, [])
        else .error .misuse
      | false, none =>
        match given.take form "" with
        | .error halt => .error halt
        | .ok given => read forms leading given rest
      | true, some value =>
        match given.take form value with
        | .error halt => .error halt
        | .ok given => read forms leading given rest
      | true, none =>
        match rest with
        | [] => .error .misuse
        | value :: rest =>
          match Argument.of value with
          | .word value =>
            match given.take form value with
            | .error halt => .error halt
            | .ok given => read forms leading given rest
          | _ => .error .misuse
    | none =>
      if Argument.of argument = .escape then
        if leading then .error .misuse else .ok ({ given with words := given.words ++ rest }, [])
      else if leading then .ok (given, argument :: rest)
      else read forms leading { given with words := given.words ++ [argument] } rest

end Workflow.CommandLine
