import Substitute.Console.Registry
import Substitute.Settings.Loading

/-!
# Completion

The word before the cursor of a console line is completed: a command name, an action of the command, or a section of the configuration. Substitute commands are left alone.
-/

namespace Substitute

/-- A text that can stand in place of the characters from `start` (counted back from the cursor) up to the cursor. -/
structure Completion where
  text : Text
  start : Int
  note : Text
deriving DecidableEq, Repr

def nameCompletions (r : Registry) (t : Text) : List Completion :=
  (r.commands.filter fun spec => (t.drop 1).isPrefixOf spec.name).map fun spec =>
    { text := '/' :: spec.name, start := -(t.length : Int), note := spec.summary.take 40 }

def configSections (settings : Option Settings) : List Text :=
  match settings with
  | none => []
  | some s => Settings.texts (s.toConfig.map Prod.fst)

/-- The completions of a line, of which only the part before the cursor is given. -/
def completions (r : Registry) (settings : Option Settings) (before : Text) : List Completion :=
  let t := before.trimLeft
  if !(['/'].isPrefixOf t) then []
  else
    let parts := t.words
    let open_ := [' '].isSuffixOf t
    if parts.length ≤ 1 && !open_ then nameCompletions r t
    else
      let name := (parts.headD []).drop 1
      let current := if open_ then [] else parts.getLastD []
      let position := if open_ then parts.length else parts.length - 1
      let start := -(current.length : Int)
      if position = 1 then
        ((r.subcommands name).filter fun sub => (lowercase current).isPrefixOf sub).map fun sub =>
          { text := sub, start, note := [] }
      else if position = 2 && name == "config".toList &&
          ["show".toList, "set".toList].contains (parts.getD 1 []) then
        ((configSections settings).filter fun name => current.isPrefixOf name).map fun name =>
          { text := name, start, note := "section" }
      else []

end Substitute
