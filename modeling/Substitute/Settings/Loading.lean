import Substitute.Settings.Validation
import Substitute.Value.Copying

/-!
# Settings from a configuration

A configuration is laid over the defaults. Its shape is checked first, since a value of the wrong kind could not be read at all, and then the values themselves. Unknown keys are ignored.
-/

namespace Substitute

namespace Entries

def getNamed (entries : Entries) (name : Text) : Value :=
  (entries.get? (.text name)).getD .null

/-- The mapping under a name, empty when something else or nothing is there. -/
def getMap (entries : Entries) (name : Text) : Entries :=
  match getNamed entries name with
  | .map inner => inner
  | _ => []

end Entries

namespace Settings

def isText : Value → Bool
  | .text _ => true
  | _ => false

/-- Complaint about a section that is neither a mapping nor null. -/
def sectionProblems (config : Entries) (name : Text) : List Text :=
  match Entries.getNamed config name with
  | .null | .map _ => []
  | _ => [name ++ " must be a mapping"]

/-- Complaints about the symbols or styles of the dashboard. -/
def labelProblems (config : Entries) (name : Text) : Except SettingsError (List Text) :=
  match Entries.getNamed (Entries.getMap config "dashboard") name with
  | .null => .ok []
  | .map entries =>
    SettingsDraft.complaints ((entries.filter fun entry => !isText entry.2).map Prod.fst)
      fun key => "dashboard." ++ name ++ "." ++ key.shown ++ " must be a string"
  | _ => .ok ["dashboard." ++ name ++ " must be a mapping"]

/-- Whether a key of the key bindings is the switch for all of them. -/
def isEnableKey (key : Value) : Bool :=
  key.sameKey (.text "enable")

/-- Complaints about key bindings that are neither texts nor null. -/
def keymapProblems (config : Entries) : Except SettingsError (List Text) :=
  let wrong := (Entries.getMap config "keymaps").filter fun entry =>
    !isEnableKey entry.1 && !isText entry.2 && !entry.2.sameKey .null
  SettingsDraft.complaints (wrong.map Prod.fst) fun key =>
    "keymaps." ++ key.shown ++ " must be a key spec string or null"

/-- Complaint about a cycle that is neither a list nor a text nor null. -/
def cycleProblems (config : Entries) (name : Text) : List Text :=
  match Entries.getNamed config name with
  | .null | .list _ | .text _ => []
  | _ => [name ++ " must be a list or a string of characters"]

def shapeProblems (config : Entries) : Except SettingsError (List Text) := do
  let symbols ← labelProblems config "symbols"
  let styles ← labelProblems config "styles"
  let keymaps ← keymapProblems config
  return sectionProblems config "keymaps" ++ sectionProblems config "dashboard" ++ symbols ++
    styles ++ keymaps ++ cycleProblems config "separators" ++ cycleProblems config "dialects" ++
    cycleProblems config "flags"

/-- The items of a cycle: those of a list, or the characters of a text. -/
def cycleItems (config : Entries) (name : Text) : List Value :=
  match Entries.getNamed config name with
  | .list items => items
  | .text t => t.map fun c => .text [c]
  | _ => []

def texts (items : List Value) : List Text :=
  items.filterMap fun item => match item with
    | .text t => some t
    | _ => none

/-- Whether a section is switched on; it is unless it says otherwise. -/
def isEnabled (entries : Entries) : Bool :=
  ((entries.get? (.text "enable")).getD (.bool true)).isTruthy

/-- The key bindings of a section: every non-empty text but the switch. -/
def keymapLabels (entries : Entries) : Labels :=
  (Labels.ofEntries entries).filter fun label => !isEnableKey label.1 && !label.2.isEmpty

/-- The value under a name as a text, provided that it can be written. -/
def shownNamed (config : Entries) (name : Text) : Except SettingsError Text :=
  let v := Entries.getNamed config name
  if v.isWritable then .ok v.shown else .error .tooManyDigits

/-- Fails when there is something to complain about. -/
def refuse (problems : List Text) : Except SettingsError Unit :=
  if problems.isEmpty then .ok () else .error (.invalid problems)

/-- What is said about key bindings that nothing looks up. -/
def warnings (s : Settings) : Except SettingsError (List Text) :=
  SettingsDraft.complaints s.unknownKeymaps fun name => "Ignoring unknown keymap: " ++ name.shown

/-- The settings of a whole configuration, defaults included. -/
def ofMerged (config : Entries) : Except SettingsError Settings := do
  refuse (← shapeProblems config)
  let separators := cycleItems config "separators"
  let dialects := cycleItems config "dialects"
  let flags := cycleItems config "flags"
  let defaultRange ← shownNamed config "default_range"
  let defaultFlags ← shownNamed config "default_flags"
  let defaultDialect ← shownNamed config "default_dialect"
  let echoTimeout := Entries.getNamed config "echo_timeout"
  let logLevel := uppercase (← shownNamed config "log_level")
  refuse (← SettingsDraft.problems
    { separators := .list separators, dialects := .list dialects, flags := .list flags,
      defaultRange := .text defaultRange, defaultDialect := .text defaultDialect, echoTimeout,
      logLevel := .text logLevel })
  let keymaps := Entries.getMap config "keymaps"
  let dashboard := Entries.getMap config "dashboard"
  let settings : Settings := {
    separators := texts separators
    dialects := texts dialects
    flags := texts flags
    defaultRange, defaultFlags, defaultDialect, echoTimeout, logLevel
    keymapsEnabled := isEnabled keymaps
    keymaps := keymapLabels keymaps
    dashboard :=
      { enabled := isEnabled dashboard
        symbols := Labels.ofEntries (Entries.getMap dashboard "symbols")
        styles := Labels.ofEntries (Entries.getMap dashboard "styles") } }
  let _ ← settings.warnings
  return settings

/-- The settings of a user's configuration whose sets stand in the order they have in its copy. A value that counts as false is an empty one. -/
def ofConfig (overrides : Value) : Except SettingsError Settings :=
  if !overrides.isTruthy then ofMerged defaults
  else match overrides with
    | .map entries => ofMerged (Entries.merge defaults entries)
    | _ => .error (.invalid ["top level must be a mapping"])

/-- The settings of a user's configuration, of which a copy is made first. -/
def ofOverrides (sets : SetOrder) (overrides : Value) : Except SettingsError Settings :=
  if !overrides.isTruthy then ofMerged (Entries.deepMerge sets defaults [])
  else match overrides with
    | .map entries => ofMerged (Entries.deepMerge sets defaults entries)
    | _ => .error (.invalid ["top level must be a mapping"])

def initial : Settings :=
  { separators := ["/", "?", "#", ":", "@"]
    dialects := ["\\v", "\\m", "\\M", "\\V", []]
    flags := ["g", "c", "i"]
    defaultRange := ".,$s"
    defaultFlags := "gc"
    defaultDialect := "\\V"
    echoTimeout := Entries.getNamed defaults "echo_timeout"
    logLevel := "INFO"
    keymapsEnabled := true
    keymaps := keymapLabels (Entries.getMap defaults "keymaps")
    dashboard :=
      { enabled := true
        symbols := Labels.ofEntries (Entries.getMap (Entries.getMap defaults "dashboard") "symbols")
        styles := Labels.ofEntries (Entries.getMap (Entries.getMap defaults "dashboard") "styles") } }

/-- The values that are checked, as they are in the given settings. -/
def toDraft (s : Settings) : SettingsDraft :=
  { separators := textList s.separators, dialects := textList s.dialects,
    flags := textList s.flags, defaultRange := .text s.defaultRange,
    defaultDialect := .text s.defaultDialect, echoTimeout := s.echoTimeout,
    logLevel := .text s.logLevel }

/-- Whether two settings agree. The same number counts as equal to itself even when it is not a number. -/
def same (s t : Settings) : Bool :=
  let timeouts := match s.echoTimeout, t.echoTimeout with
    | .float .nan, .float .nan => true
    | v, w => v.same w
  timeouts && s.separators == t.separators && s.dialects == t.dialects && s.flags == t.flags &&
    s.defaultRange == t.defaultRange && s.defaultFlags == t.defaultFlags &&
    s.defaultDialect == t.defaultDialect && s.logLevel == t.logLevel &&
    s.keymapsEnabled == t.keymapsEnabled && s.dashboard.enabled == t.dashboard.enabled &&
    sameLabels s.keymaps t.keymaps && sameLabels s.dashboard.symbols t.dashboard.symbols &&
    sameLabels s.dashboard.styles t.dashboard.styles
where
  /-- Whether two label lists hold the same texts under the same names, in any order. Names that are no numbers equal nothing, so their texts are compared in order. -/
  sameLabels (l m : Labels) : Bool :=
    let isNumberless := fun label : Value × Text => !label.1.sameKey label.1
    (l.filter isNumberless).map Prod.snd == (m.filter isNumberless).map Prod.snd &&
      (Value.map (Labels.toEntries (l.filter (!isNumberless ·)))).same
        (.map (Labels.toEntries (m.filter (!isNumberless ·))))

/-- Whether the settings come back when their own configuration is loaded. -/
def roundTrips (s : Settings) : Except SettingsError Bool :=
  (ofConfig (.map s.toConfig)).map s.same

end Settings

end Substitute
