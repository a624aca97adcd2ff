import Substitute.CommandLine.Options
import Substitute.Command.Toggle
import Substitute.Text.Case

/-!
# Requests

What a command line asks for: the version, or one of the commands `console`, `parse`, `toggle` and `config`. Without a command it is the console. A request for the version stands before the command, which has to exist but is read no further.
-/

namespace Substitute

inductive ConfigRequest where
  | overview
  | path
  | init
  | effective
deriving DecidableEq, Repr

inductive Request where
  | version
  | console
  | parse (text : Text)
  | toggle (toggle : Toggle) (text : Text) (flag : Option Text) (cursor : Bool)
  | config (what : ConfigRequest)

namespace Request

def leadingOptions : List OptionSpec :=
  [{ name := "--version", letter := some 'v' }, { name := "--verbose" }]

def noMore : List Text → Except UsageError Unit
  | [] => .ok ()
  | value :: _ => .error (.extraArgument value)

def ofConsole (words : List Text) : Except UsageError Request := do
  noMore (← Words.read [] words).arguments
  return .console

def ofParse (words : List Text) : Except UsageError Request := do
  match (← Words.read [] words).arguments with
  | [] => throw (.missingArgument "TEXT")
  | text :: rest => do
    noMore rest
    return .parse text

/-- The words after `toggle`. The toggle is named in letters of any case. -/
def ofToggle (words : List Text) : Except UsageError Request := do
  let w ← Words.read
    [{ name := "--flag", letter := some 'f', takesValue := true },
      { name := "--cursor", letter := some 'c' }] words
  match w.arguments with
  | [] => throw (.missingArgument "OP")
  | name :: rest =>
    match Toggle.ofName? (lowercase name) with
    | none => throw (.invalidArgument "OP" name)
    | some op =>
      match rest with
      | [] => throw (.missingArgument "TEXT")
      | text :: rest => do
        noMore rest
        return .toggle op text (w.value? "--flag") (w.has "--cursor")

/-- The words after `config`. The path comes before writing, and writing before showing. -/
def ofConfig (words : List Text) : Except UsageError Request := do
  let w ← Words.read
    [{ name := "--show", letter := some 's' }, { name := "--path", letter := some 'p' },
      { name := "--init" }] words
  noMore w.arguments
  return .config (
    if w.has "--path" then .path
    else if w.has "--init" then .init
    else if w.has "--show" then .effective
    else .overview)

/-- How the words after a command are read. -/
def commands : List (Text × (List Text → Except UsageError Request)) :=
  [("console", ofConsole), ("parse", ofParse), ("toggle", ofToggle), ("config", ofConfig)]

def ofWords (words : List Text) : Except UsageError Request := do
  let w ← Words.readLeading leadingOptions words
  match w.arguments with
  | [] => return if w.has "--version" then .version else .console
  | name :: rest =>
    match commands.lookup name with
    | none => throw (.noSuchCommand name)
    | some request => if w.has "--version" then return .version else request rest

end Request

end Substitute
