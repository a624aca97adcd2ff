import Substitute.Console.Key

/-!
# Typed keys

A terminal sends keys as characters: most keys as the character they stand for, control keys as control characters, and keys without a character as a sequence that opens with escape. Keys have the names under which they are bound.
-/

namespace Substitute

/-- Sequences for keys without a character. -/
def keySequences : List (String × String) :=
  [("\x1b[A", "up"), ("\x1b[B", "down"), ("\x1b[C", "right"), ("\x1b[D", "left"),
   ("\x1b[H", "home"), ("\x1b[F", "end"), ("\x1b[Z", "s-tab"),
   ("\x1bOA", "up"), ("\x1bOB", "down"), ("\x1bOC", "right"), ("\x1bOD", "left"),
   ("\x1bOH", "home"), ("\x1bOF", "end"),
   ("\x1b[1~", "home"), ("\x1b[2~", "insert"), ("\x1b[3~", "delete"), ("\x1b[4~", "end"),
   ("\x1b[5~", "pageup"), ("\x1b[6~", "pagedown"),
   ("\x1bOP", "f1"), ("\x1bOQ", "f2"), ("\x1bOR", "f3"), ("\x1bOS", "f4"),
   ("\x1b[11~", "f1"), ("\x1b[12~", "f2"), ("\x1b[13~", "f3"), ("\x1b[14~", "f4"),
   ("\x1b[15~", "f5"), ("\x1b[17~", "f6"), ("\x1b[18~", "f7"), ("\x1b[19~", "f8"),
   ("\x1b[20~", "f9"), ("\x1b[21~", "f10"), ("\x1b[23~", "f11"), ("\x1b[24~", "f12")]

def keyOfChar (c : Char) : Text :=
  if c = '\x1b' then "escape"
  else if c = '\x7f' then "c-h"
  else if c.toNat < 0x20 then ['c', '-', (Char.ofNat (c.toNat + 0x40)).toLower]
  else [c]

/-- The keys in typed characters, after the next `skip` of them. -/
def keysTypedFrom : Nat → Text → List Text
  | _, [] => []
  | skip + 1, _ :: rest => keysTypedFrom skip rest
  | 0, c :: rest =>
    match keySequences.find? fun entry => entry.1.toList.isPrefixOf (c :: rest) with
    | some (sequence, key) => key.toList :: keysTypedFrom (sequence.length - 1) rest
    | none => keyOfChar c :: keysTypedFrom 0 rest

def keysTyped (typed : Text) : List Text :=
  keysTypedFrom 0 typed

end Substitute
