import Substitute.Console.Command
import Substitute.Console.Print

/-!
# Pages of the console

The texts that greet and help: the banner, the list of commands, the page of one command, and the list of key bindings.
-/

namespace Substitute

def version : Text := "0.3.0"

def CommandSpec.namesShown (spec : CommandSpec) : Text :=
  List.intercalate [',', ' '] ((spec.name :: spec.aliases).map ('/' :: ·))

namespace Pages

variable (screen : Screen)

/-- What the console says when it starts. Composing is mentioned if a key is bound to it. -/
def banner (s : Settings) : Printed :=
  let hint := match s.boundKey? "populate" with
    | some spec =>
      if s.keymapsEnabled then
        [screen.print ("  Type a word and press [bold]" ++ describeKey spec ++
          "[/bold] to compose a substitute command.")]
      else []
    | none => []
  Printed.all
    ([screen.print [], screen.print ("  [bold blue]Subtoggle[/bold blue] v" ++ version),
        screen.print []] ++ hint ++
      [screen.print "  Type [bold]/help[/bold] for commands, [bold]/quit[/bold] to exit.",
        screen.print []])

def farewell : Printed :=
  screen.styled "dim" "Goodbye."

/-- The complaint about a command that does not exist. Its name is not escaped. -/
def unknownCommand (name : Text) : Printed :=
  screen.styled "red" ("Unknown command: /" ++ name)

/-- The complaint about an action that a command does not have. -/
def unexpectedSubcommand (spec : CommandSpec) (subcommand : Text) : Printed :=
  Printed.all
    [screen.error ("Unknown subcommand: /" ++ spec.name ++ ' ' :: subcommand),
      screen.error ("Expected one of: " ++
        List.intercalate [',', ' '] (spec.subcommands.map Prod.fst))]

def failure (message : Text) : Printed :=
  screen.error ("Error: " ++ message)

def help : Printed :=
  let specs := ConsoleCommand.all.map ConsoleCommand.spec
  Printed.all
    [screen.print ("\n  [bold blue]Subtoggle Console[/bold blue] v" ++ version ++ ['\n']),
      .ofRendering (screen.table
        { columns :=
            [specs.map fun spec => .markup spec.namesShown,
              specs.map fun spec => .markup spec.summary] }),
      screen.print
        "\n  Any other line is read as a substitute command, e.g. [cyan]%s/foo/bar/g[/cyan]",
      screen.print ("  [dim]/keys lists the toggle bindings; /help <command> shows one command." ++
        "[/dim]\n")]

def commandHelp (spec : CommandSpec) : Printed :=
  let usage := if spec.usage.isEmpty then []
    else [screen.print ("  [bold]Usage:[/bold] " ++ spec.usage)]
  let actions := if spec.subcommands.isEmpty then []
    else [.ofRendering (screen.table
      { columns :=
          [spec.subcommands.map fun action => .markup ('/' :: spec.name ++ ' ' :: action.1),
            spec.subcommands.map fun action => .markup action.2] })]
  Printed.all
    ([screen.print ("\n  [bold]" ++ spec.namesShown ++ "[/bold]  " ++ spec.summary)] ++
      usage ++ actions ++ [screen.print []])

def keys (s : Settings) : Printed :=
  if !s.keymapsEnabled then
    screen.styled "dim" "Key bindings are disabled (keymaps.enable: false)."
  else
    let compose : List (Text × Text) := match s.boundKey? "populate" with
      | some spec => [(describeKey spec, "Compose from word under cursor or selection")]
      | none => []
    let rows := compose ++ (keyHints s).map fun hint => (hint.key, hint.description)
    .ofRendering (screen.table
      { columns := [rows.map fun row => .markup row.1, rows.map fun row => .markup row.2] })

end Pages

end Substitute
