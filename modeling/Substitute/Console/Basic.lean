import Substitute.Console.Pages
import Substitute.Console.Place
import Substitute.Platform
import Substitute.Settings.Source

/-!
# The console

The console acts on lines: a slash opens a console command, and any other line is read as a substitute command. The settings are those the console started with; `/config set` changes the configuration file only, and only to one whose settings are valid.

A console command that fails is reported. Outside a command a failure to print breaks off.
-/

namespace Substitute

structure Console where
  places : Places
  settings : Settings
  file : Option Text
  accepted : List Text := []
  running : Bool := true

inductive CommandError where
  | markup (error : MarkupError)
  | yaml (failure : Yaml.Failure)
  | settings (error : SettingsError)

def CommandError.message : CommandError → Text
  | .markup error => error.message
  | .yaml failure => failure.message
  | .settings error => error.message

/-- What a console command leaves: the console, what it printed, and the failure that ended it. -/
structure CommandRun where
  console : Console
  lines : List Text := []
  error : Option CommandError := none

/-- What a configuration file holds with a typed value stored under a key, unless its settings are invalid. -/
def updatedDocument (p : Platform) (file : Option Text) (key value : Text) :
    Except CommandError Document := do
  let source ← (ConfigSource.ofFile p.yaml file).mapError .yaml
  let typed ← (readTypedValue p.yaml value).mapError .yaml
  let document := source.document.assign key typed
  let _ ← (Settings.ofOverrides p.sets document.config).mapError .settings
  return document

/-- The text of a configuration file with a typed value stored under a key. -/
def updatedFile (p : Platform) (file : Option Text) (key value : Text) :
    Except CommandError Text := do
  let document ← updatedDocument p file key value
  (p.yaml.dump document).mapError .yaml

namespace Console

def saying (c : Console) (printed : Printed) : CommandRun where
  console := c
  lines := printed.lines
  error := printed.failure.map .markup

def failing (c : Console) (error : CommandError) : CommandRun where
  console := c
  error := some error

def showDocument (p : Platform) (c : Console) (d : Document) : CommandRun :=
  match p.yaml.dump d with
  | .ok text => c.saying (.ofRendering (p.screen.framed "Effective configuration" text))
  | .error failure => c.failing (.yaml failure)

/-- Prints the effective configuration or one section of it. -/
def showConfig (p : Platform) (c : Console) (key : Option Text) : CommandRun :=
  let config := c.settings.toConfig
  let document := Document.ofValue (.map config)
  match key with
  | none | some [] => c.showDocument p document
  | some key =>
    match (document.lookup? key).filter (!·.isNull) with
    | none =>
      c.saying (Printed.all
        [p.screen.error ("Unknown section: " ++ key),
          p.screen.styled "dim" ("Available: " ++
            List.intercalate [',', ' '] (config.map fun entry => entry.1.shown))])
    | some value => c.showDocument p (value.named key)

/-- Stores a typed value under a key of the configuration file. -/
def setConfig (p : Platform) (c : Console) (key value : Text) : CommandRun :=
  match updatedFile p c.file key value with
  | .error (.settings (.invalid problems)) =>
    c.saying (p.screen.error (SettingsError.invalid problems).message)
  | .error error => c.failing error
  | .ok text =>
    saying { c with file := some text } (Printed.all
      [p.screen.success ("Set " ++ key ++ " = " ++ value),
        p.screen.styled "dim" "Restart the console to apply key binding changes."])

def config (p : Platform) (c : Console) (l : SlashLine) : CommandRun :=
  if l.subcommand? = some "set".toList then
    match l.args with
    | key :: value :: more => c.setConfig p key (List.intercalate [' '] (value :: more))
    | _ => c.saying (p.screen.error "Usage: /config set <key> <value>")
  else if l.subcommand? = some "path".toList then
    c.saying (.ofRendering (p.screen.unbroken c.places.configFile))
  else c.showConfig p l.args.head?

def help (p : Platform) (c : Console) (l : SlashLine) : CommandRun :=
  match l.subcommand? with
  | none | some [] => c.saying (Pages.help p.screen)
  | some word =>
    let name := word.dropWhile (· == '/')
    match ConsoleCommand.registry.lookup name with
    | none => c.saying (Pages.unknownCommand p.screen name)
    | some spec => c.saying (Pages.commandHelp p.screen spec)

def execute (p : Platform) (c : Console) (command : ConsoleCommand) (l : SlashLine) : CommandRun :=
  match command with
  | .help => c.help p l
  | .quit => { console := { c with running := false } }
  | .config => c.config p l
  | .keys => c.saying (Pages.keys p.screen c.settings)

/-- Carries out a console command and reports its failure. -/
def run (p : Platform) (c : Console) (spec : CommandSpec) (l : SlashLine) : Console × Printed :=
  match ConsoleCommand.ofName? spec.name with
  | none => (c, {})
  | some command =>
    let after := c.execute p command l
    let report := match after.error with
      | none => {}
      | some error => Pages.failure p.screen error.message
    (after.console, Printed.followedBy { lines := after.lines } report)

def handleSlash (p : Platform) (c : Console) (l : SlashLine) : Console × Printed :=
  match ConsoleCommand.registry.dispatch l with
  | .run spec => c.run p spec l
  | .unexpected spec subcommand => (c, Pages.unexpectedSubcommand p.screen spec subcommand)
  | .unknown =>
    (c, Printed.all
      [Pages.unknownCommand p.screen l.command,
        p.screen.styled "dim" "Type /help for available commands."])

def handleLine (p : Platform) (c : Console) (line : Text) : Console × Printed :=
  let line := line.trim
  if line.isEmpty then (c, {})
  else match SlashLine.parse? line with
    | some l => c.handleSlash p l
    | none =>
      match Command.parse? line with
      | none =>
        (c, p.screen.styled "dim" "Not a substitute command. Use /help for a list of commands.")
      | some command =>
        ({ c with accepted := c.accepted ++ [line] }, p.screen.command command line)

end Console

end Substitute
