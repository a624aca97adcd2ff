import Substitute.Document.Dotted
import Substitute.Settings.Loading
import Substitute.Yaml.Library

/-!
# The configuration file

A configuration file is YAML. One that is missing, that the YAML library refuses or that holds something other than a mapping counts as empty; other failures of the library are not caught. Values typed on a line are read with less of YAML, so that signs keep standing for themselves.
-/

namespace Substitute

/-- The text of a file with every kind of line end read as a line feed. -/
def normalizeLineEnds : Text → Text
  | '\r' :: '\n' :: rest => '\n' :: normalizeLineEnds rest
  | c :: rest => (if c = '\r' then '\n' else c) :: normalizeLineEnds rest
  | [] => []

/-- The content of a configuration file, and whether it was ignored because YAML refused it. -/
structure ConfigSource where
  document : Document
  ignored : Bool := false

def ConfigSource.ofFile (yaml : Yaml.Library) : Option Text → Except Yaml.Failure ConfigSource
  | none => .ok { document := .empty }
  | some t =>
    match yaml.load (normalizeLineEnds t) with
    | .ok document => .ok { document := if document.isMapping then document else .empty }
    | .error (.announced _) => .ok { document := .empty, ignored := true }
    | .error failure => .error failure

/-- How many levels below a key of a configuration are walked through before a value is shown as a whole. -/
def levelsWalked (key : Value) : Nat :=
  if key.sameKey (.text "dashboard") then 2
  else if [("keymaps" : Text), "separators", "dialects", "flags"].any fun name =>
    key.sameKey (.text name) then 1
  else 0

def Document.config (d : Document) : Value :=
  match d.parts.entries? d.root with
  | some entries => .map (entries.map fun e =>
    let key := d.parts.value 0 e.1
    (key, d.parts.value (levelsWalked key) e.2))
  | none => d.value

inductive LoadError where
  | yaml (failure : Yaml.Failure)
  | settings (error : SettingsError)

def LoadError.message : LoadError → Text
  | .yaml failure => failure.message
  | .settings error => error.message

namespace Settings

/-- The settings of a configuration file, or of the defaults when there is none. -/
def ofFile (yaml : Yaml.Library) (sets : SetOrder) (file : Option Text) :
    Except LoadError Settings := do
  let source ← (ConfigSource.ofFile yaml file).mapError .yaml
  (ofOverrides sets source.document.config).mapError .settings

end Settings

/-- Reads a value typed on a line: null, a truth value, a number, or a bracketed collection. Anything else is the text as it was typed. -/
def readTypedValue (yaml : Yaml.Library) (t : Text) : Except Yaml.Failure Document :=
  if t.trim == "null".toList || t.trim == ['~'] then .ok (.ofValue .null)
  else match yaml.load t with
    | .error (.announced _) => .ok (.ofValue (.text t))
    | .error failure => .error failure
    | .ok document =>
      let bracketed := t.trimLeft.head? == some '[' || t.trimLeft.head? == some '\x7b'
      match document.parts.part document.root with
      | .atom (.bool _) | .atom (.int _) | .atom (.float _) => .ok document
      | .list _ | .map _ => .ok (if bracketed then document else .ofValue (.text t))
      | _ => .ok (.ofValue (.text t))

end Substitute
