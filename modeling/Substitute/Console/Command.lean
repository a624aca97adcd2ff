import Substitute.Console.Registry

/-!
# The console commands

The four commands of the console, and how each one declares itself.
-/

namespace Substitute

inductive ConsoleCommand where
  | help
  | quit
  | config
  | keys
deriving DecidableEq, Repr

namespace ConsoleCommand

def all : List ConsoleCommand :=
  [.help, .quit, .config, .keys]

def spec : ConsoleCommand → CommandSpec
  | .help =>
    { name := "help", summary := "Show all commands or help for one", usage := "/help [command]" }
  | .quit =>
    { name := "quit", aliases := ["exit"], summary := "Exit the console", usage := "/quit" }
  | .config =>
    { name := "config", summary := "View or modify configuration"
      usage := "/config [show|set|path] ..."
      subcommands :=
        [("show", "Show effective config (optionally one key, e.g. keymaps or dashboard.symbols)"),
         ("set", "Set a value (e.g., /config set dashboard.enable false)"),
         ("path", "Print the config file path")] }
  | .keys =>
    { name := "keys", summary := "Show key bindings for compose and toggles", usage := "/keys" }

/-- The command that declares itself under the given name. -/
def ofName? (name : Text) : Option ConsoleCommand :=
  all.find? fun command => command.spec.name == name

def registry : Registry :=
  all.foldl (fun r command => (r.register command.spec).1) {}

end ConsoleCommand

end Substitute
