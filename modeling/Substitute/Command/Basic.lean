import Substitute.Command.Field
import Substitute.Text.Alphanumeric

/-!
# Substitute commands

A substitute command is a range with the command letter, and up to three fields after it: search, replace and flags. Any character that is no letter, number, underscore or blank may separate them, which keeps words such as `set` from being read as commands. A search may open with a dialect marker that says how its pattern is read.
-/

namespace Substitute

/-- A substitute command in parts. The search still carries its dialect marker. -/
structure Command where
  range : Text
  separator : Text
  dialect : Text
  search : Text
  replace : Text
  flags : Text
deriving DecidableEq, Repr

inductive FieldError where
  | wrongCount (count : Nat)
deriving DecidableEq, Repr

def FieldError.message : FieldError → Text
  | .wrongCount count => "Expected 1-4 command fields, got " ++ decimal count

/-- The letter that ends every range. -/
def commandLetter : Char := 's'

def isRangeChar (c : Char) : Bool :=
  c.isDigit || c == '%' || c == '.' || c == ',' || c == '$'

def isSeparatorChar (c : Char) : Bool :=
  !isAlphanumeric c && !isBlank c && c != '_'

/-- Whether a text is one character that can separate fields. -/
def isValidSeparator : Text → Bool
  | [c] => isSeparatorChar c
  | _ => false

def dialectMarkers : List Text :=
  [['\\', 'v'], ['\\', 'm'], ['\\', 'M'], ['\\', 'V']]

/-- The marker a search opens with, empty when it opens with none. -/
def detectDialect (search : Text) : Text :=
  (dialectMarkers.find? fun marker => marker.isPrefixOf search).getD []

/-- The range a text opens with, command letter included, and the text after it. -/
def splitRange? (t : Text) : Option (Text × Text) :=
  match t.dropWhile isRangeChar with
  | c :: rest => if c = commandLetter then some (t.takeWhile isRangeChar ++ [c], rest) else none
  | [] => none

/-- Range, separator and the text after the separator, for a text that opens like a command. -/
def splitHead? (t : Text) : Option (Text × Char × Text) :=
  match splitRange? t with
  | some (range, c :: rest) => if isSeparatorChar c then some (range, c, rest) else none
  | _ => none

def isCommandLike (t : Text) : Bool :=
  (splitHead? t).isSome

/-- The fields of a command text, at most four. A range directly before the separator is taken whole, so a separator that also occurs in the range does not cut it. -/
def splitCommand (t separator : Text) : List Text :=
  match splitRange? t with
  | some (range, rest) =>
    if rest.take 1 = separator then range :: Field.split separator (some 2) (rest.drop 1)
    else Field.split separator (some 3) t
  | none => Field.split separator (some 3) t

/-- Fills range, search, replace and flags. A missing replace repeats the search, which leaves the text as it is. -/
def normalizeFields : List Text → Except FieldError (Text × Text × Text × Text)
  | [range] => .ok (range, [], [], [])
  | [range, search] => .ok (range, search, search, [])
  | [range, search, replace] => .ok (range, search, replace, [])
  | [range, search, replace, flags] => .ok (range, search, replace, flags)
  | fields => .error (.wrongCount fields.length)

namespace Command

/-- The command with the given fields, its dialect read off the search. -/
def make (separator range search replace flags : Text) : Command :=
  { range, separator, dialect := detectDialect search, search, replace, flags }

/-- The command made of one to four fields. -/
def ofFields (fields : List Text) (separator : Text) : Except FieldError Command :=
  (normalizeFields fields).map fun (range, search, replace, flags) =>
    make separator range search replace flags

/-- Reads a command. Fields that have not been typed yet are empty. -/
def parse? (t : Text) : Option Command :=
  (splitHead? t).map fun (range, separator, rest) =>
    let fields := Field.split [separator] (some 2) rest
    make [separator] range (fields.headD []) (fields.getD 1 []) (fields.getD 2 [])

def searchBody (c : Command) : Text :=
  c.search.drop c.dialect.length

/-- The characters of the flags, each once, in order of their code points. -/
def flagSet (c : Command) : List Char :=
  (c.flags.mergeSort fun x y => x ≤ y).eraseReps

def fields (c : Command) : List Text :=
  [c.range, c.search, c.replace, c.flags]

def serialize (c : Command) : Text :=
  Field.join c.separator c.fields

def withSearch (c : Command) (search : Text) : Command :=
  { c with search, dialect := detectDialect search }

/-- The cursor position between the replace field and the separator before the flags, when the text is the text of the command. -/
def cursorIn (c : Command) (t : Text) : Int :=
  (t.length : Int) - c.separator.length - c.flags.length

end Command

end Substitute
