import Substitute.Yaml.Cursor
import Substitute.Text.Basic

/-!
# Written scalars

The four ways to write a scalar: plain, in single or double quotes, and as a block. Line breaks fold into spaces except in literal blocks. Every reader takes a bound on its steps, which the length of the text always meets.
-/

namespace Substitute.Yaml

/-! ### Quoted scalars -/

def simpleEscape? : Char → Option Char
  | '0' => some '\x00'
  | 'a' => some '\x07'
  | 'b' => some '\x08'
  | 't' => some '\t'
  | '\t' => some '\t'
  | 'n' => some '\n'
  | 'v' => some '\x0b'
  | 'f' => some '\x0c'
  | 'r' => some '\r'
  | 'e' => some '\x1b'
  | ' ' => some ' '
  | '"' => some '"'
  | '\\' => some '\\'
  | '/' => some '/'
  | 'N' => some '\x85'
  | '_' => some '\xa0'
  | 'L' => some '\u2028'
  | 'P' => some '\u2029'
  | _ => none

/-- How many hexadecimal digits follow a letter after a backslash. -/
def escapeDigits? : Char → Option Nat
  | 'x' => some 2
  | 'u' => some 4
  | 'U' => some 8
  | _ => none

def hexDigit? (c : Char) : Option Nat :=
  if c.isDigit then some (c.toNat - 0x30)
  else if 'a' ≤ c && c ≤ 'f' then some (c.toNat - 0x61 + 10)
  else if 'A' ≤ c && c ≤ 'F' then some (c.toNat - 0x41 + 10)
  else none

def hexValue? (digits : Text) : Option Nat :=
  digits.foldlM (fun n c => (hexDigit? c).map (n * 16 + ·)) 0

/-- The character of a code. No text can hold half of a surrogate pair; the replacement character stands for it. -/
def charOfCode (code : Nat) : Char :=
  if 0xD800 ≤ code ∧ code < 0xE000 then '\uFFFD' else Char.ofNat code

/-- Reads the character that a run of hexadecimal digits names. -/
def numberedEscape (c : Cursor) (count : Nat) : Except Fault (Text × Cursor) :=
  match (if (c.rest.take count).length = count then hexValue? (c.rest.take count) else none) with
  | none => .error .malformed
  | some code =>
    if code < 0x110000 then .ok ([charOfCode code], c.skip count) else .error (.character code)

/-- The line breaks after the first one inside quotes, blanks at line starts dropped. A document marker may not stand there. -/
def quotedBreaks : Nat → Cursor → Except Fault (Text × Cursor)
  | 0, _ => .error .malformed
  | fuel + 1, c =>
    if c.atDocumentMarker then .error .malformed
    else
      let c := c.skipWhile isSpaceOrTab
      if isBreak c.peek then do
        let (mark, c) := c.lineBreak
        let (more, c) ← quotedBreaks fuel c
        return (mark ++ more, c)
      else .ok ([], c)

/-- What a run of breaks inside a scalar folds into: one line feed becomes a space, more become one less. -/
def fold (first more : Text) : Text :=
  if first != ['\n'] then first ++ more else if more.isEmpty then [' '] else more

/-- Reads blanks inside quotes, with the breaks among them folded. -/
def quotedSpaces (fuel : Nat) (c : Cursor) : Except Fault (Text × Cursor) := do
  let (spaces, c) := c.span isSpaceOrTab
  if c.peek == endChar then throw .malformed
  else if isBreak c.peek then
    let (first, c) := c.lineBreak
    let (more, c) ← quotedBreaks fuel c
    return (fold first more, c)
  else return (spaces, c)

/-- A character inside quotes that needs no second look. -/
def isQuotedPlain (c : Char) : Bool :=
  !(c == '\x27' || c == '"' || c == '\\' || isGap c)

/-- Reads inside quotes up to a blank or the closing quote. -/
def quotedWord (double : Bool) : Nat → Cursor → Except Fault (Text × Cursor)
  | 0, _ => .error .malformed
  | fuel + 1, c => do
    let (taken, c) := c.span isQuotedPlain
    let next := c.peek
    if !double && next == '\x27' && c.peekAt 1 == '\x27' then
      let (more, c) ← quotedWord double fuel (c.skip 2)
      return (taken ++ '\x27' :: more, c)
    else if (double && next == '\x27') || (!double && (next == '"' || next == '\\')) then
      let (more, c) ← quotedWord double fuel c.advance
      return (taken ++ next :: more, c)
    else if double && next == '\\' then
      let c := c.advance
      let (escaped, c) ← match simpleEscape? c.peek, escapeDigits? c.peek with
        | some d, _ => pure ([d], c.advance)
        | none, some count => numberedEscape c.advance count
        | none, none =>
          if isBreak c.peek then quotedBreaks fuel c.lineBreak.2 else .error .malformed
      let (more, c) ← quotedWord double fuel c
      return (taken ++ escaped ++ more, c)
    else return (taken, c)

/-- Reads words and blanks inside quotes up to the closing quote. -/
def quotedParts (quote : Char) : Nat → Cursor → Except Fault (Text × Cursor)
  | 0, _ => .error .malformed
  | fuel + 1, c => do
    let (word, c) ← quotedWord (quote == '"') (fuel + 1) c
    if c.peek == quote then return (word, c.advance)
    else
      let (spaces, c) ← quotedSpaces (fuel + 1) c
      let (more, c) ← quotedParts quote fuel c
      return (word ++ spaces ++ more, c)

def quotedScalar (c : Cursor) : Except Fault (Text × Cursor) :=
  quotedParts c.peek (c.rest.length + 2) c.advance

/-! ### Block scalars -/

/-- What becomes of the line breaks at the end of a block. -/
inductive Chomping where
  | strip
  | clip
  | keep
deriving DecidableEq

/-- Reads the marks after the indicator of a block: chomping and indentation, in either order. -/
def blockHeader (c : Cursor) : Except Fault (Chomping × Option Nat × Cursor) := do
  let chomping? := fun (c : Cursor) =>
    if c.peek == '+' then (some Chomping.keep, c.advance)
    else if c.peek == '-' then (some Chomping.strip, c.advance)
    else (none, c)
  let indent? := fun (c : Cursor) =>
    if c.peek.isDigit then (some (c.peek.toNat - 0x30), c.advance) else (none, c)
  let (before, c) := chomping? c
  let (indent, c) := indent? c
  let (after, c) := if before.isNone && indent.isSome then chomping? c else (none, c)
  if indent == some 0 then throw .malformed
  if !isSpaceBreakOrEnd c.peek then throw .malformed
  return ((before.or after).getD .clip, indent, c)

/-- The line breaks before the first line of a block, and the widest indentation among them. -/
def blockIndentation : Nat → Nat → Cursor → Text × Nat × Cursor
  | 0, widest, c => ([], widest, c)
  | fuel + 1, widest, c =>
    if c.peek == ' ' then
      let c := c.advance
      blockIndentation fuel (max widest c.column) c
    else if isBreak c.peek then
      let (mark, c) := c.lineBreak
      let (more, widest, c) := blockIndentation fuel widest c
      (mark ++ more, widest, c)
    else ([], widest, c)

def skipIndent : Nat → Nat → Cursor → Cursor
  | 0, _, c => c
  | fuel + 1, indent, c =>
    if c.column < indent && c.peek == ' ' then skipIndent fuel indent c.advance else c

/-- The line breaks between the lines of a block. -/
def blockBreaks : Nat → Nat → Cursor → Text × Cursor
  | 0, _, c => ([], c)
  | fuel + 1, indent, c =>
    let c := skipIndent (indent + 1) indent c
    if isBreak c.peek then
      let (mark, c) := c.lineBreak
      let (more, c) := blockBreaks fuel indent c
      (mark ++ more, c)
    else ([], c)

/-- Reads the lines of a block, given the breaks before the next line. The answer is the text, the break that ends it, and the breaks after that. -/
def blockLines (folded : Bool) (indent : Nat) : Nat → Text → Cursor → Text × Text × Text × Cursor
  | 0, breaks, c => ([], [], breaks, c)
  | fuel + 1, breaks, c =>
    if c.column == indent && c.peek != endChar then
      let startsDark := !isSpaceOrTab c.peek
      let (line, c) := c.span (!isBreakOrEnd ·)
      let (mark, c) := c.lineBreak
      let (after, c) := blockBreaks (c.rest.length + 1) indent c
      if c.column == indent && c.peek != endChar then
        let joint :=
          if folded && mark == ['\n'] && startsDark && !isSpaceOrTab c.peek then
            if after.isEmpty then [' '] else []
          else mark
        let (more, last, trailing, c) := blockLines folded indent fuel after c
        (breaks ++ line ++ joint ++ more, last, trailing, c)
      else (breaks ++ line, mark, after, c)
    else ([], [], breaks, c)

/-- Reads a block scalar from its indicator, under the indentation of what holds it. -/
def blockScalar (parent : Int) (c : Cursor) : Except Fault (Text × Cursor) := do
  let folded := c.peek == '>'
  let (chomping, increment, c) ← blockHeader c.advance
  let c ← c.restOfLine
  let least := (max (parent + 1) 1).toNat
  let fuel := c.rest.length + 1
  let (indent, breaks, c) := match increment with
    | none =>
      let (breaks, widest, c) := blockIndentation fuel 0 c
      (max least widest, breaks, c)
    | some n =>
      let indent := least + n - 1
      let (breaks, c) := blockBreaks fuel indent c
      (indent, breaks, c)
  let (body, last, trailing, c) := blockLines folded indent fuel breaks c
  let ending := match chomping with
    | .strip => []
    | .clip => last
    | .keep => last ++ trailing
  return (body ++ ending, c)

/-! ### Plain scalars -/

/-- The length of the run of characters that continue a plain scalar. -/
def plainRun (inFlow : Bool) : Text → Nat
  | [] => 0
  | c :: rest =>
    let next := rest.headD endChar
    let stops := isGap c ||
      (c == ':' && (isGap next || (inFlow && [',', '[', ']', '\x7b', '\x7d'].contains next))) ||
      (inFlow && [',', '?', '[', ']', '\x7b', '\x7d'].contains c)
    if stops then 0 else plainRun inFlow rest + 1

/-- The line breaks after the first one in a plain scalar; none when a document marker follows. -/
def plainBreaks : Nat → Cursor → Option Text × Cursor
  | 0, c => (none, c)
  | fuel + 1, c =>
    if c.peek == ' ' then plainBreaks fuel c.advance
    else if isBreak c.peek then
      let (mark, c) := c.lineBreak
      if c.atDocumentMarker then (none, c)
      else
        let (more, c) := plainBreaks fuel c
        (more.map (mark ++ ·), c)
    else (some [], c)

structure PlainGap where
  text : Text
  crossedLine : Bool
  cursor : Cursor

def plainGap (c : Cursor) : PlainGap :=
  let (spaces, c) := c.span (· == ' ')
  if isBreak c.peek then
    let (first, c) := c.lineBreak
    if c.atDocumentMarker then { text := [], crossedLine := true, cursor := c }
    else
      let (more, c) := plainBreaks (c.rest.length + 1) c
      match more with
      | none => { text := [], crossedLine := true, cursor := c }
      | some more => { text := fold first more, crossedLine := true, cursor := c }
  else { text := spaces, crossedLine := false, cursor := c }

/-- A plain scalar: its text, whether a line break came after its last run, and the place after it. -/
structure PlainScalar where
  text : Text
  crossedLine : Bool
  cursor : Cursor

/-- Reads the runs of a plain scalar, each with the gap before it. -/
def plainRuns (inFlow : Bool) (indent : Int) : Nat → Text → Bool → Cursor → PlainScalar
  | 0, _, crossedLine, c => { text := [], crossedLine, cursor := c }
  | fuel + 1, gap, crossedLine, c =>
    let length := plainRun inFlow c.rest
    if c.peek == '#' || length == 0 then { text := [], crossedLine, cursor := c }
    else
      let run := c.rest.take length
      let next := plainGap (c.skip length)
      if next.text.isEmpty || next.cursor.peek == '#' ||
          (!inFlow && next.cursor.column < indent) then
        { text := gap ++ run, crossedLine := next.crossedLine, cursor := next.cursor }
      else
        let more := plainRuns inFlow indent fuel next.text next.crossedLine next.cursor
        { more with text := gap ++ run ++ more.text }

/-- Reads a plain scalar under the indentation of what holds it. -/
def plainScalar (inFlow : Bool) (parent : Int) (c : Cursor) : PlainScalar :=
  plainRuns inFlow (parent + 1) (c.rest.length + 1) [] false c

end Substitute.Yaml
