import Substitute.Command.Basic

/-!
# Toggles

Reversible changes to a command: switch a flag, clear or restore the replace term, and step the range, the separator or the dialect to the next of a cycle. Each changes one part and leaves the others alone.
-/

namespace Substitute

/-- What a toggle acts on. -/
inductive Toggle where
  | flag
  | replace
  | range
  | separator
  | dialect
deriving DecidableEq, Repr

def Toggle.name : Toggle → Text
  | .flag => "flag"
  | .replace => "replace"
  | .range => "range"
  | .separator => "separator"
  | .dialect => "dialect"

def Toggle.all : List Toggle :=
  [.flag, .replace, .range, .separator, .dialect]

def Toggle.ofName? (name : Text) : Option Toggle :=
  Toggle.all.find? fun toggle => toggle.name == name

def wholeBuffer : Text := ['%', 's']

def cursorToEnd : Text := ['.', ',', '$', 's']

def startToCursor : Text := ['0', ',', '.', 's']

def currentLine : Text := ['s']

/-- The first candidate that does not occur in a text, else the first candidate. -/
def uniqueSeparator? (candidates : List Text) (t : Text) : Option Text :=
  (candidates.find? fun candidate => !candidate.occursIn t).or candidates.head?

/-- The candidates after the given one, once around; all of them when it is no candidate. -/
def candidatesAfter (candidates : List Text) (current : Text) : List Text :=
  match candidates.idxOf? current with
  | some i => candidates.drop (i + 1) ++ candidates.take i
  | none => candidates

namespace Command

/-- Removes a flag that is set; sets it otherwise, keeping the flags of the alphabet in its order. -/
def toggleFlag (c : Command) (flag : Text) (alphabet : List Text) : Command :=
  if flag.occursIn c.flags then { c with flags := Text.eraseAll flag c.flags }
  else { c with flags := (alphabet.filter fun f => f.occursIn c.flags || f == flag).flatten }

/-- Clears the replace term, or restores an empty one. -/
def toggleReplace (c : Command) (restore : Text) : Command :=
  if c.replace.isEmpty then { c with replace := restore } else { c with replace := [] }

/-- Steps the range from the whole buffer over the rest of it to the part before, and around. Any other range becomes the whole buffer. -/
def cycleRange (c : Command) : Command :=
  { c with
    range :=
      if c.range = wholeBuffer then cursorToEnd
      else if c.range = cursorToEnd then startToCursor
      else wholeBuffer }

/-- Steps to the next candidate that occurs neither in the search nor in the replace term; without one the command stays as it is. -/
def cycleSeparator (c : Command) (candidates : List Text) : Command :=
  let free := (candidatesAfter candidates c.separator).find? fun candidate =>
    !candidate.occursIn c.search && !candidate.occursIn c.replace
  match free with
  | some separator => { c with separator }
  | none => c

/-- The dialect after the given one, around the list; the first one when it is not listed. -/
def nextDialect? (dialects : List Text) (current : Text) : Option Text :=
  match dialects.idxOf? current with
  | some i => (dialects[i + 1]?).or dialects.head?
  | none => dialects.head?

/-- Puts the next dialect in front of the search; none when there are no dialects. -/
def cycleDialect? (c : Command) (dialects : List Text) : Option Command :=
  (nextDialect? dialects c.dialect).map fun dialect => c.withSearch (dialect ++ c.searchBody)

end Command

end Substitute
