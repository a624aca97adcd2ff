import Substitute.Console.Key
import Substitute.Preview.Line

/-!
# Key bindings

Every configured key specification binds an action. Bindings stand in a fixed order, flags in the order of the settings, and a later one wins over an earlier one with the same keys.
-/

namespace Substitute

inductive KeyAction where
  | compose
  | toggle (toggle : Toggle) (flag : Option Text)
  | dashboard
deriving DecidableEq, Repr

structure Binding where
  keys : List Text
  action : KeyAction
deriving DecidableEq, Repr

/-- The names under which keys may be bound, with their actions, in binding order. -/
def keymapActions (s : Settings) : List (Text × KeyAction) :=
  let flags : List (Text × KeyAction) :=
    s.flags.map fun flag => (Settings.flagKeymapName flag, .toggle .flag (some flag))
  let others : List (Text × KeyAction) :=
    [("toggle_replace", .toggle .replace none), ("toggle_range", .toggle .range none),
     ("toggle_separator", .toggle .separator none), ("toggle_dialect", .toggle .dialect none),
     ("toggle_dashboard", .dashboard)]
  ("populate".toList, .compose) :: (flags ++ others)

/-- The bindings of the given names; the first specification that names no keys is an error. -/
def bindingsOf (s : Settings) : List (Text × KeyAction) → Except KeyError (List Binding)
  | [] => .ok []
  | (name, action) :: rest =>
    match s.boundKey? name with
    | none => bindingsOf s rest
    | some spec => do
      let keys ← keysOfSpec spec
      let more ← bindingsOf s rest
      return { keys, action } :: more

/-- All key bindings; none when they are switched off. -/
def keyBindings (s : Settings) : Except KeyError (List Binding) :=
  if s.keymapsEnabled then bindingsOf s (keymapActions s) else .ok []

def boundAction? (bindings : List Binding) (keys : List Text) : Option KeyAction :=
  (bindings.reverse.find? fun binding => binding.keys == keys).map Binding.action

end Substitute
