import Substitute.Yaml.Tag

/-!
# Styles of written scalars

A scalar is written plain where it reads back as itself, else between single quotes, and between double quotes where it holds characters that only an escape can carry or blanks that folding would lose.
-/

namespace Substitute.Yaml

inductive Style where
  | plain
  | singleQuoted
  | doubleQuoted
  | literal
deriving DecidableEq, Repr

def isWrittenBreak (c : Char) : Bool :=
  c == '\n' || c == '\x85' || c == '\u2028' || c == '\u2029'

def needsEscape (c : Char) : Bool :=
  let n := c.toNat
  let isAscii := c == '\n' || (0x20 ≤ n && n ≤ 0x7E)
  let isWide := n == 0x85 || (0xA0 ≤ n && n ≤ 0xD7FF) || (0xE000 ≤ n && n ≤ 0xFFFD && n != 0xFEFF) ||
    (0x10000 ≤ n && n < 0x10FFFF)
  !(isAscii || isWide)

/-- Whether two neighbouring characters pass a test each. -/
def hasNeighbours (p q : Char → Bool) : Text → Bool
  | c :: d :: rest => (p c && q d) || hasNeighbours p q (d :: rest)
  | _ => false

def isOpeningIndicator (c : Char) : Bool :=
  "#,[]\x7b\x7d&*!|>'\"%@".toList.contains c || c == Char.ofNat 0x60

/-- Whether a text holds something that would not be read as part of a plain scalar. -/
def hasIndicators (t : Text) : Bool :=
  let gapAfterFirst := isGap ((t.drop 1).headD endChar)
  ['-', '-', '-'].isPrefixOf t || ['.', '.', '.'].isPrefixOf t ||
    isOpeningIndicator (t.headD 'a') ||
    ((t.headD 'a' == '?' || t.headD 'a' == '-') && gapAfterFirst) ||
    hasNeighbours (· == ':') isGap t || t.getLast? == some ':' ||
    hasNeighbours isGap (· == '#') t

/-- What the characters of a scalar allow. -/
structure Allowance where
  empty : Bool
  multiline : Bool
  plain : Bool
  singleQuoted : Bool
  literal : Bool

def allowance (t : Text) : Allowance :=
  if t.isEmpty then
    { empty := true, multiline := false, plain := true, singleQuoted := true, literal := false }
  else
    let escapes := t.any needsEscape
    let breaks := t.any isWrittenBreak
    let isEdge := fun (c : Char) => c == ' ' || isWrittenBreak c
    let edges := isEdge (t.headD 'a') || isEdge (t.getLastD 'a')
    let breakSpace := hasNeighbours isWrittenBreak (· == ' ') t
    let spaceBreak := hasNeighbours (· == ' ') isWrittenBreak t
    { empty := false
      multiline := breaks
      plain := !edges && !breakSpace && !spaceBreak && !escapes && !breaks && !hasIndicators t
      singleQuoted := !breakSpace && !spaceBreak && !escapes
      literal := t.getLast? != some ' ' && !spaceBreak && !escapes }

/-- The style of a scalar: `fitting` says whether its text reads back under its tag when plain, `block` asks for a literal block, and a simple key stands on one line. -/
def styleFor (fitting block simpleKey : Bool) (t : Text) : Style :=
  let a := allowance t
  if !block && fitting && a.plain && !(simpleKey && (a.empty || a.multiline)) then .plain
  else if block && a.literal && !simpleKey then .literal
  else if !block && a.singleQuoted && !(simpleKey && a.multiline) then .singleQuoted
  else .doubleQuoted

end Substitute.Yaml
