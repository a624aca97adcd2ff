import Substitute.Text.Basic

/-!
# Options and arguments

A command line is read from the left. Words that open with a hyphen are options: two hyphens and a name, with its value after an equals sign or in the next word, or one hyphen and a run of letters, of which one that takes a value takes the rest of the word or the next word. Two hyphens alone end the options, and a single hyphen is an argument.
-/

namespace Substitute

inductive UsageError where
  | noSuchOption (name : Text)
  | noSuchCommand (name : Text)
  | missingValue (option : Text)
  | unexpectedValue (option : Text)
  | missingArgument (name : Text)
  | invalidArgument (name value : Text)
  | extraArgument (value : Text)
deriving DecidableEq, Repr

def UsageError.message : UsageError → Text
  | .noSuchOption name => "No such option: " ++ name
  | .noSuchCommand name => "No such command: " ++ name
  | .missingValue option => "Option " ++ option ++ " requires an argument"
  | .unexpectedValue option => "Option " ++ option ++ " does not take a value"
  | .missingArgument name => "Missing argument: " ++ name
  | .invalidArgument name value => "Invalid value for " ++ name ++ ": " ++ value
  | .extraArgument value => "Got unexpected extra argument: " ++ value

/-- An option: its long name, the letter it also goes by, and whether it takes a value. -/
structure OptionSpec where
  name : Text
  letter : Option Char := none
  takesValue : Bool := false

/-- The options that were given, in order, and the arguments. -/
structure Words where
  options : List (Text × Text) := []
  arguments : List Text := []
deriving DecidableEq, Repr

namespace Words

def has (w : Words) (name : Text) : Bool :=
  w.options.any fun option => option.1 == name

/-- The value of an option, the last one if it was given more than once. -/
def value? (w : Words) (name : Text) : Option Text :=
  (w.options.reverse.find? fun option => option.1 == name).map Prod.snd

/-- What options read from one word come to: those with their values, and one that awaits its value. -/
abbrev Opened := List (Text × Text) × Option Text

def letters (specs : List OptionSpec) : Text → Except UsageError Opened
  | [] => .ok ([], none)
  | c :: rest =>
    match specs.find? fun spec => spec.letter == some c with
    | none => .error (.noSuchOption ['-', c])
    | some spec =>
      if spec.takesValue then
        .ok (if rest.isEmpty then ([], some spec.name) else ([(spec.name, rest)], none))
      else do
        let (options, awaiting) ← letters specs rest
        return ((spec.name, []) :: options, awaiting)

def long (specs : List OptionSpec) (word : Text) : Except UsageError Opened :=
  let name := word.takeWhile (· != '=')
  let value : Option Text := if word.contains '=' then some (word.drop (name.length + 1)) else none
  match specs.find? fun spec => spec.name == name, value with
  | none, _ => .error (.noSuchOption name)
  | some spec, some value =>
    if spec.takesValue then .ok ([(spec.name, value)], none)
    else .error (.unexpectedValue spec.name)
  | some spec, none =>
    .ok (if spec.takesValue then ([], some spec.name) else ([(spec.name, [])], none))

/-- Reads words while an option may await its value. If arguments do not mix with options, the first argument ends the options. -/
def readFrom (specs : List OptionSpec) (mixed : Bool) (awaiting : Option Text) :
    List Text → Except UsageError Words
  | [] =>
    match awaiting with
    | some name => .error (.missingValue name)
    | none => .ok {}
  | word :: rest =>
    match awaiting with
    | some name => do
      let w ← readFrom specs mixed none rest
      return { w with options := (name, word) :: w.options }
    | none =>
      match word with
      | ['-', '-'] => .ok { arguments := rest }
      | '-' :: c :: more => do
        let (options, awaiting) ←
          if c = '-' then long specs word else letters specs (c :: more)
        let w ← readFrom specs mixed awaiting rest
        return { w with options := options ++ w.options }
      | _ =>
        if mixed then do
          let w ← readFrom specs mixed none rest
          return { w with arguments := word :: w.arguments }
        else .ok { arguments := word :: rest }

def read (specs : List OptionSpec) (words : List Text) : Except UsageError Words :=
  readFrom specs true none words

def readLeading (specs : List OptionSpec) (words : List Text) : Except UsageError Words :=
  readFrom specs false none words

end Words

end Substitute
