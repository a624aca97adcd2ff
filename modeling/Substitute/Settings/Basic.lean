import Substitute.Command.Basic
import Substitute.Value.Merge
import Substitute.Value.Shown
import Substitute.Text.Case

/-!
# Settings

What a configuration decides: the cycles of the toggles, the parts of a composed command, the keys and the look of the preview. The built-in defaults are themselves a configuration, over which a user's configuration is laid.
-/

namespace Substitute

/-- Names with texts, in order: key bindings, symbols or styles. -/
abbrev Labels := List (Value × Text)

def Labels.get? (labels : Labels) (name : Text) : Option Text :=
  (labels.find? fun label => label.1.sameKey (.text name)).map Prod.snd

def Labels.getD (labels : Labels) (name fallback : Text) : Text :=
  (Labels.get? labels name).getD fallback

def Labels.toEntries (labels : Labels) : Entries :=
  labels.map fun label => (label.1, .text label.2)

def Labels.ofEntries (entries : Entries) : Labels :=
  entries.filterMap fun entry => match entry.2 with
    | .text t => some (entry.1, t)
    | _ => none

structure DashboardSettings where
  enabled : Bool
  symbols : Labels
  styles : Labels

structure Settings where
  separators : List Text
  dialects : List Text
  flags : List Text
  defaultRange : Text
  defaultFlags : Text
  defaultDialect : Text
  echoTimeout : Value
  logLevel : Text
  keymapsEnabled : Bool
  keymaps : Labels
  dashboard : DashboardSettings

namespace Settings

/-- The configuration that holds when the user has none. -/
def defaults : Entries :=
  [ (.text "keymaps", .map
      [ (.text "enable", .bool true),
        (.text "populate", .text "escape r"),
        (.text "toggle_g", .text "escape g"),
        (.text "toggle_c", .text "escape c"),
        (.text "toggle_i", .text "escape i"),
        (.text "toggle_replace", .text "escape d"),
        (.text "toggle_range", .text "escape 5"),
        (.text "toggle_separator", .text "escape /"),
        (.text "toggle_dialect", .text "escape m"),
        (.text "toggle_dashboard", .text "escape h") ]),
    (.text "dashboard", .map
      [ (.text "enable", .bool true),
        (.text "symbols", .map
          [ (.text "active", .text "●"),
            (.text "inactive", .text "○") ]),
        (.text "styles", .map
          [ (.text "title", .text "bold"),
            (.text "key", .text "ansicyan"),
            (.text "arrow", .text "ansibrightblack"),
            (.text "active_desc", .text "ansigreen"),
            (.text "inactive_desc", .text "ansibrightblack"),
            (.text "active_indicator", .text "ansigreen"),
            (.text "inactive_indicator", .text "ansibrightblack"),
            (.text "status_label", .text "ansibrightblack"),
            (.text "status_value", .text "ansiyellow") ]) ]),
    (.text "separators", .list [.text "/", .text "?", .text "#", .text ":", .text "@"]),
    (.text "dialects", .list [.text "\\v", .text "\\m", .text "\\M", .text "\\V", .text ""]),
    (.text "flags", .list [.text "g", .text "c", .text "i"]),
    (.text "default_range", .text ".,$s"),
    (.text "default_flags", .text "gc"),
    (.text "default_dialect", .text "\\V"),
    (.text "echo_timeout", .float (.finite false 7205759403792794 (-56))),
    (.text "log_level", .text "INFO") ]

def actionKeymaps : List Text :=
  ["populate", "toggle_replace", "toggle_range", "toggle_separator", "toggle_dialect",
   "toggle_dashboard"]

def flagKeymapName (flag : Text) : Text :=
  "toggle_" ++ flag

def knownKeymaps (s : Settings) : List Text :=
  actionKeymaps ++ s.flags.map flagKeymapName

def unknownKeymaps (s : Settings) : List Value :=
  (s.keymaps.map Prod.fst).filter fun name =>
    !s.knownKeymaps.any fun known => name.sameKey (.text known)

def textList (items : List Text) : Value :=
  .list (items.map .text)

def toConfig (s : Settings) : Entries :=
  [ (.text "keymaps",
      .map ((.text "enable", .bool s.keymapsEnabled) :: Labels.toEntries s.keymaps)),
    (.text "dashboard", .map
      [ (.text "enable", .bool s.dashboard.enabled),
        (.text "symbols", .map (Labels.toEntries s.dashboard.symbols)),
        (.text "styles", .map (Labels.toEntries s.dashboard.styles)) ]),
    (.text "separators", textList s.separators),
    (.text "dialects", textList s.dialects),
    (.text "flags", textList s.flags),
    (.text "default_range", .text s.defaultRange),
    (.text "default_flags", .text s.defaultFlags),
    (.text "default_dialect", .text s.defaultDialect),
    (.text "echo_timeout", s.echoTimeout),
    (.text "log_level", .text s.logLevel) ]

end Settings

end Substitute
