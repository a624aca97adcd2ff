import Substitute.Text.Basic

/-!
# Keys

A key specification names keys one after the other. A name is a known key, an alias of one, or a single character that stands for itself.
-/

namespace Substitute

inductive KeyError where
  | invalid (name : Text)
  | empty
deriving DecidableEq, Repr

def KeyError.message : KeyError → Text
  | .invalid name => "Invalid key: " ++ name
  | .empty => []

def keyAliases : List (Text × Text) :=
  [("backspace", "c-h"), ("c-space", "c-@"), ("enter", "c-m"), ("tab", "c-i"),
   ("s-c-left", "c-s-left"), ("s-c-right", "c-s-right"), ("s-c-home", "c-s-home"),
   ("s-c-end", "c-s-end"), ("space", " ")]

/-- The keys that move the cursor or edit, each also known with control, shift or both. -/
def movementKeys : List Text :=
  ["left", "right", "up", "down", "home", "end", "insert", "delete", "pageup", "pagedown"]

/-- The characters that make a key together with control. -/
def controlKeys : Text :=
  "@abcdefghijklmnopqrstuvwxyz1234567890\\]^_"

def functionKeys : List Text :=
  (List.range 24).map fun n => 'f' :: decimal (n + 1)

/-- Keys for which no key is pressed. -/
def specialKeys : List Text :=
  ["<any>", "<scroll-up>", "<scroll-down>", "<cursor-position-response>", "<vt100-mouse-event>",
   "<windows-mouse-event>", "<bracketed-paste>", "<sigint>", "<ignore>"]

/-- The names of all keys that are not a single character. -/
def namedKeys : List Text :=
  ["escape".toList, "s-escape".toList, "s-tab".toList] ++
    controlKeys.map (fun c => ['c', '-', c]) ++
    "1234567890".toList.map (fun c => ['c', '-', 's', '-', c]) ++
    movementKeys ++ movementKeys.map ("c-".toList ++ ·) ++ movementKeys.map ("s-".toList ++ ·) ++
    movementKeys.map ("c-s-".toList ++ ·) ++
    functionKeys ++ functionKeys.map ("c-".toList ++ ·) ++ specialKeys

def keyOfName (name : Text) : Except KeyError Text :=
  let key := (keyAliases.lookup name).getD name
  if namedKeys.contains key || key.length = 1 then .ok key else .error (.invalid key)

/-- The keys of a specification, at least one. -/
def keysOfSpec (spec : Text) : Except KeyError (List Text) :=
  match spec.words with
  | [] => .error .empty
  | names => names.mapM keyOfName

end Substitute
