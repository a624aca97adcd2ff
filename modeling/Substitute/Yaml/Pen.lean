import Substitute.Yaml.Style

/-!
# Writing lines

The pen keeps what has been written and where it stands: the column, whether a blank came last, and whether only indentation stands on the line. Long scalars are broken at single spaces once the line is past its width.
-/

namespace Substitute.Yaml

/-- The width after which a scalar goes on in the next line. -/
def lineWidth : Nat := 80

def indentStep : Nat := 2

/-- What has been written, latest first, and where the pen stands. -/
structure Pen where
  written : Text := []
  column : Nat := 0
  blank : Bool := true
  indenting : Bool := true

namespace Pen

def put (p : Pen) (t : Text) : Pen :=
  { p with written := t.reverse ++ p.written, column := p.column + t.length }

def breakWith (p : Pen) (c : Char) : Pen :=
  { written := c :: p.written, column := 0, blank := true, indenting := true }

def newline (p : Pen) : Pen :=
  p.breakWith '\n'

/-- Writes an indicator, after a space where one is needed. -/
def indicator (p : Pen) (t : Text) (spaced : Bool) (blank indenting : Bool) : Pen :=
  let p' := p.put (if p.blank || !spaced then t else ' ' :: t)
  { p' with blank, indenting := p.indenting && indenting }

/-- Goes to an indentation, on a new line unless the pen is already before it. -/
def indentTo (p : Pen) (indent : Nat) : Pen :=
  let p :=
    if !p.indenting || indent < p.column || (p.column == indent && !p.blank) then p.newline else p
  if p.column < indent then { p.put (List.replicate (indent - p.column) ' ') with blank := true }
  else p

/-- Notes that something other than indentation was written. -/
def inText (p : Pen) : Pen :=
  { p with blank := false, indenting := false }

end Pen

/-- A maximal run of spaces, of line breaks or of other characters. -/
inductive Run where
  | spaces (count : Nat)
  | breaks (t : Text)
  | word (t : Text)

def Run.cons (c : Char) : List Run → List Run
  | .spaces n :: rest => if c == ' ' then .spaces (n + 1) :: rest else start :: .spaces n :: rest
  | .breaks t :: rest => if isWrittenBreak c then .breaks (c :: t) :: rest else start :: .breaks t :: rest
  | .word t :: rest =>
    if c == ' ' || isWrittenBreak c then start :: .word t :: rest else .word (c :: t) :: rest
  | [] => [start]
where
  /-- The run of the character alone. -/
  start : Run := if c == ' ' then .spaces 1 else if isWrittenBreak c then .breaks [c] else .word [c]

def Run.ofText (t : Text) : List Run :=
  t.foldr Run.cons []

namespace Pen

/-- Writes line breaks; the first line feed is doubled, since one alone would fold into a space. -/
def breaks (p : Pen) (t : Text) (indent : Nat) : Pen :=
  let p := if t.head? == some '\n' then p.newline else p
  (t.foldl breakWith p).indentTo indent

def plainRuns (indent : Nat) (split : Bool) : Pen → List Run → Pen
  | p, [] => p
  | p, .spaces n :: rest =>
    if n == 1 && lineWidth < p.column && split then
      plainRuns indent split (p.indentTo indent).inText rest
    else plainRuns indent split (p.put (List.replicate n ' ')) rest
  | p, .breaks t :: rest => plainRuns indent split ((p.breaks t indent).inText) rest
  | p, .word t :: rest => plainRuns indent split (p.put t) rest

def plain (p : Pen) (indent : Nat) (split : Bool) (t : Text) : Pen :=
  if t.isEmpty then p
  else plainRuns indent split ((if p.blank then p else p.put [' ']).inText) (Run.ofText t)

/-- Writes the runs of a single-quoted scalar. A line is broken at no space at either end. -/
def singleRuns (indent : Nat) (split : Bool) : Bool → Pen → List Run → Pen
  | _, p, [] => p
  | first, p, .spaces n :: rest =>
    if n == 1 && lineWidth < p.column && split && !first && !rest.isEmpty then
      singleRuns indent split false (p.indentTo indent) rest
    else singleRuns indent split false (p.put (List.replicate n ' ')) rest
  | _, p, .breaks t :: rest => singleRuns indent split false (p.breaks t indent) rest
  | _, p, .word t :: rest =>
    singleRuns indent split false
      (p.put (t.flatMap fun c => if c == '\x27' then ['\x27', '\x27'] else [c])) rest

def singleQuoted (p : Pen) (indent : Nat) (split : Bool) (t : Text) : Pen :=
  (singleRuns indent split true (p.indicator ['\x27'] true false false) (Run.ofText t)).indicator
    ['\x27'] false false false

def escapeLetter? (c : Char) : Option Char :=
  [('\x00', '0'), ('\x07', 'a'), ('\x08', 'b'), ('\t', 't'), ('\n', 'n'), ('\x0b', 'v'),
   ('\x0c', 'f'), ('\r', 'r'), ('\x1b', 'e'), ('"', '"'), ('\\', '\\'), ('\x85', 'N'),
   ('\xa0', '_'), ('\u2028', 'L'), ('\u2029', 'P')].lookup c

def escaped (c : Char) : Text :=
  match escapeLetter? c with
  | some letter => ['\\', letter]
  | none =>
    let digits := fun (width : Nat) => (hexPadded width c.toNat).map Char.toUpper
    if c.toNat ≤ 0xFF then '\\' :: 'x' :: digits 2
    else if c.toNat ≤ 0xFFFF then '\\' :: 'u' :: digits 4
    else '\\' :: 'U' :: digits 8

/-- A character that stands for itself between double quotes. -/
def isBare (c : Char) : Bool :=
  let n := c.toNat
  !(c == '"' || c == '\\' || n == 0x85 || n == 0x2028 || n == 0x2029 || n == 0xFEFF) &&
    ((0x20 ≤ n && n ≤ 0x7E) || (0xA0 ≤ n && n ≤ 0xD7FF) || (0xE000 ≤ n && n ≤ 0xFFFD))

/-- Breaks a double-quoted line with a backslash; a space that starts the next line needs one too. -/
def doubleBreak (p : Pen) (indent : Nat) (held : Text) (next : Char) : Pen :=
  let p := ((p.put (held.reverse ++ ['\\'])).indentTo indent).inText
  if next == ' ' then p.put ['\\'] else p

/-- Writes the characters of a double-quoted scalar: `held` are those not written yet, latest first. -/
def doubleChars (indent : Nat) (split : Bool) : Bool → Text → Pen → Text → Pen
  | _, held, p, [] => p.put held.reverse
  | first, held, p, c :: rest =>
    let inside := !first && !rest.isEmpty && split
    if isBare c then
      if inside && (c == ' ' || held.isEmpty) && lineWidth < p.column + held.length then
        doubleChars indent split false [c] (p.doubleBreak indent held c) rest
      else doubleChars indent split false (c :: held) p rest
    else
      let p := p.put (held.reverse ++ escaped c)
      if inside && lineWidth + 1 < p.column then
        doubleChars indent split false [] (p.doubleBreak indent [] (rest.headD 'a')) rest
      else doubleChars indent split false [] p rest

def doubleQuoted (p : Pen) (indent : Nat) (split : Bool) (t : Text) : Pen :=
  (doubleChars indent split true [] (p.indicator ['"'] true false false) t).indicator
    ['"'] false false false

/-- Writes the lines of a literal block, each on a line of its own. -/
def literalRuns (indent : Nat) : Pen → List Run → Pen
  | p, [] => p
  | p, .breaks t :: rest =>
    let p := t.foldl breakWith p
    literalRuns indent (if rest.isEmpty then p else p.indentTo indent) rest
  | p, .spaces n :: rest => literalRuns indent (p.put (List.replicate n ' ')) rest
  | p, .word t :: rest => literalRuns indent (p.put t) rest

/-- The marks after the indicator of a literal block. -/
def literalHints (t : Text) : Text :=
  let opening : Text := if (t.head?.map fun c => c == ' ' || isWrittenBreak c).getD false
    then decimal indentStep else []
  let ending : Text := match t.reverse with
    | [] => []
    | [c] => if isWrittenBreak c then ['+'] else ['-']
    | c :: d :: _ => if !isWrittenBreak c then ['-'] else if isWrittenBreak d then ['+'] else []
  opening ++ ending

def literal (p : Pen) (indent : Nat) (t : Text) : Pen :=
  let p := (p.indicator ('|' :: literalHints t) true false false).newline
  let runs := Run.ofText t
  match runs with
  | .breaks _ :: _ => literalRuns indent p runs
  | _ => literalRuns indent (if runs.isEmpty then p else p.indentTo indent) runs

end Pen

end Substitute.Yaml
