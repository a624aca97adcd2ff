import Substitute.CommandLine.Outcome
import Substitute.Platform.Usual

/-!
# The program

The command line on a real system. The configuration is in the user's configuration directory, and the console reads its lines from standard input.
-/

namespace Substitute

/-- A directory of the user: the one that an environment variable names, or one below the home directory. -/
def userDirectory (named below : String) : IO Text := do
  match ← IO.getEnv named with
  | some directory => return (directory ++ "/subtoggle").toList
  | none => return ((← IO.getEnv "HOME").getD "." ++ below ++ "/subtoggle").toList

def contentOf? (path : Text) : IO (Option Text) := do
  try
    return some (← IO.FS.readFile (String.ofList path)).toList
  catch _ => return none

def store (places : Places) (before after : Option Text) : IO Unit := do
  if before == after then return
  if let some content := after then
    IO.FS.createDirAll (String.ofList places.configDir)
    IO.FS.writeFile (String.ofList places.configFile) (String.ofList content)

def printLines (lines : List Text) : IO Unit :=
  lines.forM fun line => IO.println (String.ofList line)

/-- Reads lines and acts on them until the console quits or the input ends. The error that breaks the session off is the result. -/
partial def serve (input : IO.FS.Stream) (r : Repl) : IO (Option ReplError) := do
  IO.print "subtoggle> "
  (← IO.getStdout).flush
  let typed ← input.getLine
  let line := typed.toList.filter fun c => c != '\n' && c != '\r'
  let turn := r.turn .usual (if typed.isEmpty then [] else [line ++ ['\r']])
  store r.console.places r.console.file turn.repl.console.file
  printLines turn.output
  if turn.goesOn then serve input turn.repl else return turn.error

def converse (x : Surroundings) (settings : Settings) : IO UInt32 := do
  let console : Console := { places := x.places, settings, file := x.file }
  let screen := Platform.usual.screen
  let banner := Pages.banner screen settings
  printLines banner.lines
  match banner.failure, keyBindings settings with
  | none, .ok bindings =>
    match ← serve (← IO.getStdin) { console, bindings } with
    | some error => IO.eprintln (String.ofList error.message); return 1
    | none => printLines (Pages.farewell screen).lines; return 0
  | some error, _ => IO.eprintln (String.ofList error.message); return 1
  | _, .error error => IO.eprintln (String.ofList error.message); return 1

end Substitute

open Substitute in
def main (args : List String) : IO UInt32 := do
  let places := Places.ofDirs (← userDirectory "XDG_CONFIG_HOME" "/.config")
    (← userDirectory "XDG_CACHE_HOME" "/.cache")
  let x : Surroundings := { places, file := ← contentOf? places.configFile }
  let words := args.map String.toList
  let p := Platform.usual
  match Request.ofWords words, Settings.ofFile p.yaml p.sets x.file with
  | .ok .console, .ok settings => converse x settings
  | .error error, _ => IO.eprintln (String.ofList error.message); return 2
  | _, _ =>
    let outcome := x.run p words
    store places x.file outcome.file
    printLines outcome.output
    if let some error := outcome.error then IO.eprintln (String.ofList error.message)
    return outcome.exitCode.toUInt32
