import Substitute.Command.Basic
import Substitute.Command.Toggle
import Substitute.Settings.Basic

/-!
# Preview lines

The panel under the line shows the parts of the command and then one hint for every bound key. A line is a list of styled fragments.
-/

namespace Substitute

abbrev Fragment := Text × Text

abbrev PanelLine := List Fragment

def rangeDescription (range : Text) : Text :=
  if range = wholeBuffer then "Entire file"
  else if range = cursorToEnd then "Current line to end of file"
  else if range = startToCursor then "Start of file to current line"
  else if range = currentLine || range = '.' :: currentLine then "Current line only"
  else "Custom range"

def dialectDescription : Text → Text
  | ['\\', 'v'] => "Very magic: Extended regex syntax"
  | ['\\', 'm'] => "Magic: Standard regex syntax (default)"
  | ['\\', 'M'] => "Nomagic: Minimal regex syntax"
  | ['\\', 'V'] => "Very nomagic: Literal search"
  | _ => "Default magic mode"

/-- What a flag does, for the flags that are well known. -/
def flagDescription? : Text → Option Text
  | ['g'] => some "global"
  | ['c'] => some "confirm"
  | ['i'] => some "case-insensitive"
  | ['I'] => some "case-sensitive"
  | ['n'] => some "count only"
  | ['e'] => some "no error"
  | _ => none

/-- A key specification as a person reads it: a letter after escape is a meta key. -/
def describeKey (spec : Text) : Text :=
  match spec.words with
  | [first, second] => if first = "escape".toList then "M-" ++ second else join [first, second]
  | keys => join keys
where
  /-- Keys held with control stand in capitals. -/
  join (keys : List Text) : Text :=
    List.intercalate [' '] (keys.map fun key =>
      if ['c', '-'].isPrefixOf key then uppercase key else key)

structure KeyHint where
  key : Text
  flag : Option Text
  description : Text

/-- The key bound under a name. An empty specification binds nothing. -/
def Settings.boundKey? (s : Settings) (name : Text) : Option Text :=
  (Labels.get? s.keymaps name).filter fun spec => !spec.isEmpty

/-- The bindings that belong to no flag and are listed in the panel. -/
def actionHints : List (Text × Text) :=
  [("toggle_replace", "Toggle replace term"),
   ("toggle_range", "Cycle range"),
   ("toggle_separator", "Cycle separator"),
   ("toggle_dialect", "Cycle magic mode"),
   ("toggle_dashboard", "Toggle dashboard")]

def flagHintText (flag : Text) : Text :=
  "Toggle '" ++ flag ++ "' flag" ++
    (match flagDescription? flag with
      | some description => " (" ++ description ++ ")"
      | none => [])

/-- The hints for all bound toggles, flags first. -/
def keyHints (s : Settings) : List KeyHint :=
  let flags := s.flags.filterMap fun flag =>
    (s.boundKey? (Settings.flagKeymapName flag)).map fun spec =>
      { key := describeKey spec, flag := some flag, description := flagHintText flag : KeyHint }
  let actions := actionHints.filterMap fun (name, description) =>
    (s.boundKey? name).map fun spec =>
      { key := describeKey spec, flag := none, description : KeyHint }
  flags ++ actions

def Settings.style (s : Settings) (name : Text) : Text :=
  Labels.getD s.dashboard.styles name []

def labelledValue (s : Settings) (label value : Text) : PanelLine :=
  [([], "  "), (s.style "status_label", label), (s.style "status_value", ' ' :: value)]

def explanation (s : Settings) (description : Text) : PanelLine :=
  [([], "    "), (s.style "arrow", "->"), (s.style "inactive_desc", ' ' :: description)]

/-- The mark in front of a hint, and the style of its description. -/
def hintMark (s : Settings) (c : Command) : Option Text → Fragment × Text
  | none => (([], "  "), s.style "inactive_desc")
  | some flag =>
    if flag.occursIn c.flags then
      ((s.style "active_indicator", Labels.getD s.dashboard.symbols "active" "*" ++ [' ']),
        s.style "active_desc")
    else
      ((s.style "inactive_indicator", Labels.getD s.dashboard.symbols "inactive" "-" ++ [' ']),
        s.style "inactive_desc")

def hintLine (s : Settings) (c : Command) (hint : KeyHint) : PanelLine :=
  let (mark, style) := hintMark s c hint.flag
  [([], "  "), mark, (s.style "key", hint.key), ([], "  "), (s.style "arrow", "->"),
    (style, "  " ++ hint.description)]

def orNone (t : Text) : Text :=
  if t.isEmpty then "none" else t

def panelTitle : Text := "  Search & Replace"

def panelLines (s : Settings) (c : Command) : List PanelLine :=
  let range := if c.range.isEmpty then currentLine else c.range
  let activeFlags := (s.flags.filter fun flag => flag.occursIn c.flags).flatten
  [ [(s.style "title", panelTitle)],
    [],
    labelledValue s "Range:" range,
    explanation s (rangeDescription range),
    [],
    labelledValue s "Magic:" (orNone c.dialect),
    explanation s (dialectDescription c.dialect),
    [],
    labelledValue s "Sep:" c.separator ++ ([], [' ']) ::
      labelledValue s "Flags:" (orNone activeFlags),
    [],
    labelledValue s "Search: " c.searchBody,
    labelledValue s "Replace:" c.replace,
    [] ] ++ (keyHints s).map (hintLine s c)

def plainText (lines : List PanelLine) : Text :=
  List.intercalate ['\n'] (lines.map fun line => (line.map Prod.snd).flatten)

end Substitute
