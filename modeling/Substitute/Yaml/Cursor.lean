import Substitute.Value.Shown
import Substitute.Yaml.Library

/-!
# A place in a YAML text

The text still to be read, with the line, the column and the number of characters before it. The end of the text reads as the null character, which no accepted text holds.
-/

namespace Substitute.Yaml

/-- Why a YAML text gives no document, or a document no text. Only `malformed` stands for a text that is no valid YAML; the other causes are scalars that fit their pattern and still stand for nothing, and `unwritable` is an integer of too many digits to be written. -/
inductive Fault where
  | malformed
  | character (code : Nat)
  | integer (base : Nat) (text : Text)
  | tooManyDigits (count : Nat)
  | decimal (text : Text)
  | emptyNumber
  | boolean (text : Text)
  | timestamp
  | calendar (wording : Text)
  | overflow
  | notText
  | unwritable
deriving DecidableEq, Repr

def Fault.message : Fault → Text
  | .malformed => "malformed YAML"
  | .character code =>
    if code < 0x80000000 then "chr() arg not in range(0x110000)"
    else "Python int too large to convert to C int"
  | .integer base text =>
    "invalid literal for int() with base " ++ Substitute.decimal base ++ ": " ++ quoted text
  | .tooManyDigits count =>
    "Exceeds the limit (4300 digits) for integer string conversion: value has " ++
      Substitute.decimal count ++ " digits; use sys.set_int_max_str_digits() to increase the limit"
  | .decimal text => "could not convert string to float: " ++ quoted text
  | .emptyNumber => "string index out of range"
  | .boolean text => quoted text
  | .timestamp => "'NoneType' object has no attribute 'groupdict'"
  | .calendar wording => wording
  | .overflow => "int too large to convert to float"
  | .notText => "expected string or bytes-like object, got 'list'"
  | .unwritable => unwritableWording

def Fault.kind : Fault → Text
  | .malformed => "YAMLError"
  | .character code => if code < 0x80000000 then "ValueError" else "OverflowError"
  | .emptyNumber => "IndexError"
  | .boolean _ => "KeyError"
  | .timestamp => "AttributeError"
  | .overflow => "OverflowError"
  | .notText => "TypeError"
  | .integer _ _ | .tooManyDigits _ | .decimal _ | .calendar _ | .unwritable => "ValueError"

def Fault.toFailure (f : Fault) : Failure :=
  if f = .malformed then .announced f.message else .other f.kind f.message

structure Cursor where
  rest : Text
  index : Nat := 0
  line : Nat := 0
  column : Nat := 0

/-- The character that stands for the end of the text. -/
def endChar : Char := '\x00'

def isBreak (c : Char) : Bool :=
  c == '\n' || c == '\r' || c == '\x85' || c == '\u2028' || c == '\u2029'

def isBreakOrEnd (c : Char) : Bool :=
  isBreak c || c == endChar

def isSpaceBreakOrEnd (c : Char) : Bool :=
  c == ' ' || isBreakOrEnd c

def isGap (c : Char) : Bool :=
  c == '\t' || isSpaceBreakOrEnd c

def isSpaceOrTab (c : Char) : Bool :=
  c == ' ' || c == '\t'

namespace Cursor

def peekAt (c : Cursor) (n : Nat) : Char :=
  (c.rest.drop n).headD endChar

def peek (c : Cursor) : Char :=
  c.rest.headD endChar

/-- The place after the next character. A carriage return before a line feed ends no line by itself, and a byte order mark takes no column. -/
def advance (c : Cursor) : Cursor :=
  match c.rest with
  | [] => c
  | d :: rest =>
    let ends := d == '\n' || d == '\x85' || d == '\u2028' || d == '\u2029' ||
      (d == '\r' && rest.headD endChar != '\n')
    if ends then { rest, index := c.index + 1, line := c.line + 1, column := 0 }
    else if d == '\uFEFF' then { c with rest, index := c.index + 1 }
    else { c with rest, index := c.index + 1, column := c.column + 1 }

def skip : Nat → Cursor → Cursor
  | 0, c => c
  | n + 1, c => skip n c.advance

/-- The characters up to the first that fails a test, and the place after them. -/
def span (c : Cursor) (p : Char → Bool) : Text × Cursor :=
  let taken := c.rest.takeWhile p
  (taken, c.skip taken.length)

def skipWhile (c : Cursor) (p : Char → Bool) : Cursor :=
  (c.span p).2

/-- Reads a line break, if one is next. All but the two separator characters read as a line feed. -/
def lineBreak (c : Cursor) : Text × Cursor :=
  if c.peek == '\r' || c.peek == '\n' || c.peek == '\x85' then
    (['\n'], c.skip (if c.rest.take 2 == ['\r', '\n'] then 2 else 1))
  else if c.peek == '\u2028' || c.peek == '\u2029' then ([c.peek], c.advance)
  else ([], c)

/-- Whether a document marker is next: three hyphens or three points before a gap. -/
def atDocumentMarker (c : Cursor) : Bool :=
  (c.rest.take 3 == ['-', '-', '-'] || c.rest.take 3 == ['.', '.', '.']) && isGap (c.peekAt 3)

/-- Passes spaces, a comment and the line break, and refuses anything else on the line. -/
def restOfLine (c : Cursor) : Except Fault Cursor :=
  let c := c.skipWhile (· == ' ')
  let c := if c.peek == '#' then c.skipWhile (!isBreakOrEnd ·) else c
  if isBreakOrEnd c.peek then .ok c.lineBreak.2 else .error .malformed

end Cursor

end Substitute.Yaml
