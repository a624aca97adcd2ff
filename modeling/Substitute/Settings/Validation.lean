import Substitute.Settings.Basic

/-!
# Checking settings

Values that are still to be checked, and every complaint about them. A check may also fail outright, on a value that cannot be walked through, gathered in a set or shown in a complaint.
-/

namespace Substitute

inductive SettingsError where
  | invalid (problems : List Text)
  | unhashable (kind : Text)
  | notIterable (kind : Text)
  | noAttribute (kind name : Text)
  /-- A value that is to be shown holds an integer that is not written. -/
  | tooManyDigits
deriving DecidableEq, Repr

def SettingsError.message : SettingsError → Text
  | .invalid problems => "Invalid configuration:" ++ problems.flatMap ("\n  ".toList ++ ·)
  | .unhashable kind => "unhashable type: '" ++ kind ++ "'"
  | .notIterable kind => "'" ++ kind ++ "' object is not iterable"
  | .noAttribute kind name => "'" ++ kind ++ "' object has no attribute '" ++ name ++ "'"
  | .tooManyDigits => unwritableWording

structure SettingsDraft where
  separators : Value
  dialects : Value
  flags : Value
  defaultRange : Value
  defaultDialect : Value
  echoTimeout : Value
  logLevel : Value

namespace Value

/-- The values met when walking through a value: items, characters, keys or bytes. -/
def elements : Value → Except SettingsError (List Value)
  | list items => .ok items
  | tuple items => .ok items
  | set items => .ok items
  | text t => .ok (t.map fun c => text [c])
  | map entries => .ok (entries.map Prod.fst)
  | bytes bs => .ok (bs.map fun (b : Nat) => int b)
  | v => .error (.notIterable v.kind)

/-- The distinct values among some, provided that all can be gathered in a set. -/
def distinct (items : List Value) : Except SettingsError (List Value) :=
  match items.find? fun item => !item.isHashable with
  | some item => .error (.unhashable item.unhashableKind)
  | none => .ok (items.foldl insertMember [])

def isOneOf (texts : List Text) : Value → Bool
  | text t => texts.contains t
  | _ => false

end Value

namespace SettingsDraft

/-- A complaint, when there is something to complain about. -/
def complain (wrong : Bool) (wording : Text) : List Text :=
  if wrong then [wording] else []

/-- Complaints that show the values they are about, provided that these can be written. -/
def complaints (wrong : List Value) (wording : Value → Text) : Except SettingsError (List Text) :=
  if wrong.all Value.isWritable then .ok (wrong.map wording) else .error .tooManyDigits

def logLevels : List Text := ["DEBUG", "INFO", "WARNING", "ERROR"]

/-- Whether a value is a text that can separate fields. -/
def isSeparator : Value → Bool
  | .text t => isValidSeparator t
  | _ => false

def isDialect (v : Value) : Bool :=
  v.isOneOf ([] :: dialectMarkers)

def separatorProblems (v : Value) : Except SettingsError (List Text) := do
  let items ← v.elements
  let invalid ← complaints (items.filter (!isSeparator ·)) fun item =>
    "separator " ++ item.quoted ++ " must be one non-alphanumeric, non-space character"
  let distinct ← Value.distinct items
  return complain (!v.isTruthy) "separators must not be empty" ++ invalid ++
    complain (distinct.length != items.length) "separators must be unique"

def dialectProblems (v : Value) : Except SettingsError (List Text) := do
  let items ← v.elements
  let unknown ← complaints (items.filter (!isDialect ·)) fun item =>
    "dialect " ++ item.quoted ++ " must be one of " ++ List.intercalate ", " dialectMarkers ++
      " or ''"
  return complain (!v.isTruthy) "dialects must not be empty" ++ unknown

def isSingleChar : Value → Bool
  | .text [_] => true
  | _ => false

def flagProblems (v : Value) : Except SettingsError (List Text) := do
  let items ← v.elements
  let invalid ← complaints (items.filter (!isSingleChar ·)) fun item =>
    "flag " ++ item.quoted ++ " must be a single character"
  return complain (!v.isTruthy) "flags must not be empty" ++ invalid

/-- Complaints about the range a composed command starts with. -/
def rangeProblems : Value → Except SettingsError (List Text)
  | .text t =>
    .ok (complain (!([commandLetter].isSuffixOf t))
      ("default_range " ++ quoted t ++ " must end with the command letter"))
  | v => .error (.noAttribute v.kind "endswith")

/-- Whether a value is a number above zero. A number that is not a number passes, and so does true. -/
def isPositiveNumber : Value → Bool
  | .bool b => b
  | .int n => 0 < n
  | .float x => !x.isNonPositive
  | _ => false

/-- Every complaint about the values, in a fixed order. -/
def problems (d : SettingsDraft) : Except SettingsError (List Text) := do
  let separators ← separatorProblems d.separators
  let dialects ← dialectProblems d.dialects
  let flags ← flagProblems d.flags
  let dialect ← complaints ([d.defaultDialect].filter (!isDialect ·)) fun v =>
    "default_dialect " ++ v.quoted ++ " is not a known dialect"
  let range ← rangeProblems d.defaultRange
  let timeout := complain (!isPositiveNumber d.echoTimeout) "echo_timeout must be a positive number"
  let level ← complaints ([d.logLevel].filter (!Value.isOneOf logLevels ·)) fun v =>
    "log_level " ++ v.quoted ++ " is not a logging level"
  return separators ++ dialects ++ flags ++ dialect ++ range ++ timeout ++ level

end SettingsDraft

end Substitute
