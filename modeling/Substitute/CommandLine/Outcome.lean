import Substitute.CommandLine.Request
import Substitute.Console.Repl
import Substitute.Text.Quoted

/-!
# Running a request

A run reads the configuration file, may write it, prints, and ends with an exit code: zero for success, one when there is nothing to show or the configuration is invalid, two for a wrong command line. A command line that is refused prints nothing here, since its complaint goes elsewhere.
-/

namespace Substitute

inductive RunError where
  | load (error : LoadError)
  | toggle (error : ToggleError)
  | console (error : ReplError)
  | markup (error : MarkupError)

def RunError.message : RunError → Text
  | .load error => error.message
  | .toggle error => error.message
  | .console error => error.message
  | .markup error => error.message

structure Outcome where
  exitCode : Nat := 0
  output : List Text := []
  file : Option Text
  prompts : List PromptRecord := []
  error : Option RunError := none

/-- Where a run takes place: the places of files, the configuration file, and what is typed at the prompts of a console. -/
structure Surroundings where
  places : Places
  file : Option Text
  prompts : List (List Text) := []

namespace Surroundings

def ending (x : Surroundings) (exitCode : Nat) (printed : Printed) : Outcome :=
  match printed.failure with
  | none => { exitCode, output := printed.lines, file := x.file }
  | some error =>
    { exitCode := 1, output := printed.lines, file := x.file, error := some (.markup error) }

def broken (x : Surroundings) (error : RunError) : Outcome :=
  { exitCode := 1, file := x.file, error := some error }

/-- Goes on with the settings of the configuration file. Invalid ones are reported. -/
def withSettings (p : Platform) (x : Surroundings) (next : Settings → Outcome) : Outcome :=
  match Settings.ofFile p.yaml p.sets x.file with
  | .ok s => next s
  | .error (.settings (.invalid problems)) =>
    x.ending 1 (Printed.all
      [p.screen.styled "red" x.places.configFile,
        .ofRendering (p.screen.literal (SettingsError.invalid problems).message)])
  | .error error => x.broken (.load error)

def parse (p : Platform) (x : Surroundings) (text : Text) : Outcome :=
  match Command.parse? text with
  | none => x.ending 1 (p.screen.styled "red" "Not a substitute command.")
  | some command => x.ending 0 (p.screen.command command [])

/-- Prints a command after one toggle. A flag has to be one of the settings. -/
def toggle (p : Platform) (x : Surroundings) (toggle : Toggle) (text : Text) (flag : Option Text)
    (cursor : Bool) : Outcome :=
  if toggle = .flag && (flag.getD []).isEmpty then
    x.ending 2 (p.screen.styled "red" "The flag operation needs --flag.")
  else x.withSettings p fun s =>
    let named := flag.getD []
    if toggle = .flag && !s.flags.contains named then
      x.ending 2 (p.screen.styled "red" ("Unknown flag " ++ p.screen.escape (quoted named) ++
        "; expected one of: " ++ p.screen.escape (List.intercalate [' '] s.flags)))
    else match Session.apply {} s toggle text flag with
      | .error error => x.broken (.toggle error)
      | .ok none => x.ending 1 (p.screen.styled "red" "Not a substitute command.")
      | .ok (some (revision, _)) =>
        let position := if cursor then [.raw (decimalInt revision.cursor)] else []
        x.ending 0 (Printed.all (.raw revision.text :: position))

/-- Says where the configuration is and what can be done with it. -/
def overview (p : Platform) (x : Surroundings) : Printed :=
  let status : Text := if x.file.isSome then "exists" else "not created, defaults in use"
  Printed.all (
    [("[bold]Subtoggle Configuration[/bold]" : Text), [],
      "Config file: " ++ x.places.configFile ++ " (" ++ status ++ [')'], [],
      "Commands:",
      "  [bold]subtoggle config --show[/bold]   Show effective config",
      "  [bold]subtoggle config --init[/bold]   Write defaults to the config file",
      "  [bold]subtoggle config --path[/bold]   Print config path"].map p.screen.print)

/-- Answers a request about the configuration. A file that exists is not written over. -/
def config (p : Platform) (x : Surroundings) : ConfigRequest → Outcome
  | .path => x.ending 0 (.raw x.places.configFile)
  | .overview => x.ending 0 (x.overview p)
  | .effective => x.withSettings p fun s =>
    match p.yaml.dump (.ofValue (.map s.toConfig)) with
    | .ok text => x.ending 0 (.ofRendering (p.screen.document text))
    | .error failure => x.broken (.load (.yaml failure))
  | .init =>
    if x.file.isSome then
      x.ending 1 (p.screen.print ("[yellow]Config already exists:[/yellow] " ++ x.places.configFile))
    else match p.yaml.dump (.ofValue (.map Settings.initial.toConfig)) with
      | .ok text =>
        ending { x with file := some text } 0
          (p.screen.styled "green" ("Wrote default config to " ++ x.places.configFile))
      | .error failure => x.broken (.load (.yaml failure))

def console (p : Platform) (x : Surroundings) : Outcome :=
  x.withSettings p fun settings =>
    let t := Console.session p { places := x.places, settings, file := x.file } x.prompts
    { exitCode := if t.error.isSome then 1 else 0
      output := t.output
      file := t.console.file
      prompts := t.prompts
      error := t.error.map .console }

def run (p : Platform) (x : Surroundings) (words : List Text) : Outcome :=
  match Request.ofWords words with
  | .error _ => x.ending 2 {}
  | .ok .version => x.ending 0 (p.screen.print ("Subtoggle v" ++ version))
  | .ok .console => x.console p
  | .ok (.parse text) => x.parse p text
  | .ok (.toggle toggle text flag cursor) => x.toggle p toggle text flag cursor
  | .ok (.config what) => x.config p what

end Surroundings

end Substitute
