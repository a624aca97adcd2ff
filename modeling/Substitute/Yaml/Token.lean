import Substitute.Yaml.Scalar

/-!
# YAML tokens

A YAML text as a list of tokens. Indentation opens and closes collections, and a key is recognised only by the colon after it: a place where a key may have started is remembered, and the key token goes in there once the colon is met. A key without a question mark ends on its line, within 1024 characters.
-/

namespace Substitute.Yaml

inductive Directive where
  | version (major : Nat)
  | tagPrefix (handle replacement : Text)
  | other

inductive Token where
  | directive (d : Directive)
  | documentStart
  | documentEnd
  | blockSequenceStart
  | blockMappingStart
  | blockEnd
  | flowSequenceStart
  | flowSequenceEnd
  | flowMappingStart
  | flowMappingEnd
  | blockEntry
  | flowEntry
  | key
  | value
  | alias (name : Text)
  | anchor (name : Text)
  | tag (handle : Option Text) (suffix : Text)
  | scalar (text : Text) (plain : Bool)
  | streamEnd
  /-- The place where the scanner met something wrong. -/
  | stop (fault : Fault)

/-- A place where a key may have started, and how many tokens stand before it. -/
structure KeyStart where
  position : Nat
  required : Bool
  index : Nat
  line : Nat
  column : Nat

/-- The state of the scanner. The tokens stand with the latest first. -/
structure Scanner where
  cursor : Cursor
  tokens : List Token := []
  count : Nat := 0
  flowLevel : Nat := 0
  indent : Int := -1
  indents : List Int := []
  allowKey : Bool := true
  keys : List (Nat × KeyStart) := []
  done : Bool := false

/-! ### Parts of tokens -/

/-- A character of anchors, handles and directive names. -/
def isNameChar (c : Char) : Bool :=
  c.isAlphanum || c == '-' || c == '_'

def isUriChar (c : Char) : Bool :=
  c.isAlphanum || "-;/?:@&=+$,_.!~*'()[]%".toList.contains c

/-- Reads a run of percent escapes: the bytes they name. -/
def uriBytes : Text → Except Fault (List Nat × Nat)
  | '%' :: a :: b :: rest =>
    match hexDigit? a, hexDigit? b with
    | some x, some y => do
      let (bytes, length) ← uriBytes rest
      return ((x * 16 + y) :: bytes, length + 3)
    | _, _ => .error .malformed
  | '%' :: _ => .error .malformed
  | _ => .ok ([], 0)

def decodeUtf8? (bytes : List Nat) : Option Text :=
  (String.fromUTF8? (ByteArray.mk (bytes.map Nat.toUInt8).toArray)).map String.toList

def uriText : Nat → Cursor → Except Fault (Text × Cursor)
  | 0, c => .ok ([], c)
  | fuel + 1, c => do
    let (plain, c) := c.span fun d => isUriChar d && d != '%'
    if c.peek == '%' then
      let (bytes, length) ← uriBytes c.rest
      match decodeUtf8? bytes with
      | none => .error .malformed
      | some decoded =>
        let (more, c) ← uriText fuel (c.skip length)
        return (plain ++ decoded ++ more, c)
    else return (plain, c)

def tagUri (c : Cursor) : Except Fault (Text × Cursor) := do
  let (uri, after) ← uriText (c.rest.length + 1) c
  if after.index == c.index then .error .malformed else return (uri, after)

/-- Reads a tag handle: an exclamation mark, or a name between two. -/
def tagHandle (c : Cursor) : Except Fault (Text × Cursor) :=
  if c.peek != '!' then .error .malformed
  else if c.peekAt 1 == ' ' then .ok (['!'], c.advance)
  else
    let (name, after) := c.advance.span isNameChar
    if after.peek == '!' then .ok ('!' :: name ++ ['!'], after.advance) else .error .malformed

def tagToken (c : Cursor) : Except Fault (Token × Cursor) := do
  let next := c.peekAt 1
  let (token, c) ←
    if next == '<' then do
      let (uri, c) ← tagUri (c.skip 2)
      if c.peek == '>' then pure (Token.tag none uri, c.advance) else throw .malformed
    else if isGap next then pure (Token.tag none ['!'], c.advance)
    else
      let named := ((c.advance).rest.takeWhile (!isSpaceBreakOrEnd ·)).contains '!'
      let (handle, c) ← if named then tagHandle c else pure (['!'], c.advance)
      let (uri, c) ← tagUri c
      pure (Token.tag (some handle) uri, c)
  if isSpaceBreakOrEnd c.peek then return (token, c) else throw .malformed

/-- Reads the name after the mark of an anchor or alias. -/
def anchorName (c : Cursor) : Except Fault (Text × Cursor) :=
  let (name, c) := c.advance.span isNameChar
  let ends := isGap c.peek || "?:,]\x7d%@".toList.contains c.peek || c.peek == Char.ofNat 0x60
  if !name.isEmpty && ends then .ok (name, c) else .error .malformed

def directiveNumber (c : Cursor) : Except Fault (Nat × Cursor) :=
  let (digits, c) := c.span Char.isDigit
  if digits.isEmpty then .error .malformed
  else if maxDigits < digits.length then .error (.tooManyDigits digits.length)
  else .ok (digits.foldl (fun n d => n * 10 + (d.toNat - 0x30)) 0, c)

def directiveToken (c : Cursor) : Except Fault (Token × Cursor) := do
  let (name, c) := c.advance.span isNameChar
  if name.isEmpty || !isSpaceBreakOrEnd c.peek then throw .malformed
  let (directive, c) ←
    if name == "YAML".toList then do
      let (major, c) ← directiveNumber (c.skipWhile (· == ' '))
      if c.peek != '.' then throw .malformed
      let (_, c) ← directiveNumber c.advance
      if !isSpaceBreakOrEnd c.peek then throw .malformed
      pure (Directive.version major, c)
    else if name == "TAG".toList then do
      let (handle, c) ← tagHandle (c.skipWhile (· == ' '))
      if c.peek != ' ' then throw .malformed
      let (replacement, c) ← tagUri (c.skipWhile (· == ' '))
      if !isSpaceBreakOrEnd c.peek then throw .malformed
      pure (Directive.tagPrefix handle replacement, c)
    else pure (Directive.other, c.skipWhile (!isBreakOrEnd ·))
  return (Token.directive directive, ← c.restOfLine)

/-! ### The scanner -/

namespace Scanner

def push (s : Scanner) (t : Token) : Scanner :=
  { s with tokens := t :: s.tokens, count := s.count + 1 }

def insert (s : Scanner) (position : Nat) (t : Token) : Scanner :=
  let after := s.count - position
  { s with tokens := s.tokens.take after ++ t :: s.tokens.drop after, count := s.count + 1 }

def mark (s : Scanner) (t : Token) : Scanner :=
  { s with cursor := s.cursor.advance }.push t

/-- Passes blanks, comments and line breaks before the next token. -/
def skipGaps : Nat → Scanner → Scanner
  | 0, s => s
  | fuel + 1, s =>
    let c := s.cursor
    let c := if c.index == 0 && c.peek == '\uFEFF' then c.advance else c
    let c := c.skipWhile (· == ' ')
    let c := if c.peek == '#' then c.skipWhile (!isBreakOrEnd ·) else c
    if isBreak c.peek then
      skipGaps fuel
        { s with cursor := c.lineBreak.2, allowKey := s.allowKey || s.flowLevel == 0 }
    else { s with cursor := c }

/-- Forgets keys that can no longer be completed, and refuses one that had to be. -/
def dropStaleKeys (s : Scanner) : Except Fault Scanner :=
  let isStale := fun (k : KeyStart) => k.line != s.cursor.line || 1024 < s.cursor.index - k.index
  if s.keys.any fun entry => isStale entry.2 && entry.2.required then .error .malformed
  else .ok { s with keys := s.keys.filter fun entry => !isStale entry.2 }

/-- Forgets the key that may have started on this level, and refuses one that had to be completed. -/
def dropKey (s : Scanner) : Except Fault Scanner :=
  match s.keys.lookup s.flowLevel with
  | none => .ok s
  | some k =>
    if k.required then .error .malformed
    else .ok { s with keys := s.keys.filter (·.1 != s.flowLevel) }

def saveKey (s : Scanner) : Except Fault Scanner := do
  if !s.allowKey then return s
  let required := s.flowLevel == 0 && s.indent == s.cursor.column
  let s ← s.dropKey
  let start : KeyStart :=
    { position := s.count, required, index := s.cursor.index, line := s.cursor.line
      column := s.cursor.column }
  return { s with keys := (s.flowLevel, start) :: s.keys }

/-- Closes the block collections that are indented more than a column. -/
def unwind (column : Int) : Nat → Scanner → Scanner
  | 0, s => s
  | fuel + 1, s =>
    if s.flowLevel == 0 && column < s.indent then
      unwind column fuel ({ s with indent := s.indents.headD (-1), indents := s.indents.drop 1 }.push
        .blockEnd)
    else s

/-- Closes the block collections that are indented more than a column, as many as there are. -/
def unwindTo (s : Scanner) (column : Int) : Scanner :=
  s.unwind column (s.indents.length + 1)

/-- Opens an indentation at a column, if it is a deeper one. -/
def deepen (s : Scanner) (column : Nat) : Scanner × Bool :=
  if s.indent < column then
    ({ s with indent := column, indents := s.indent :: s.indents }, true)
  else (s, false)

/-- Starts a block collection at the cursor where none is open at its column. -/
def openBlock (s : Scanner) (t : Token) : Scanner :=
  let (s, opened) := s.deepen s.cursor.column
  if opened then s.push t else s

/-- Ends all blocks, before a directive, a document marker or the end. -/
def closeAll (s : Scanner) : Except Fault Scanner := do
  let s ← (s.unwindTo (-1)).dropKey
  return { s with allowKey := false }

def keyLike (s : Scanner) (read : Cursor → Except Fault (Token × Cursor)) :
    Except Fault Scanner := do
  let s ← s.saveKey
  let (t, c) ← read s.cursor
  return { s with cursor := c, allowKey := false }.push t

/-- The value indicator: completes the key that started on this level, if there is one. -/
def valueMark (s : Scanner) : Except Fault Scanner := do
  match s.keys.lookup s.flowLevel with
  | some k =>
    let s := { s with keys := s.keys.filter (·.1 != s.flowLevel), allowKey := false }
    let s := s.insert k.position .key
    let (s, opened) := if s.flowLevel == 0 then s.deepen k.column else (s, false)
    let s := if opened then s.insert k.position .blockMappingStart else s
    return s.mark .value
  | none =>
    if s.flowLevel == 0 && !s.allowKey then throw .malformed
    let s := if s.flowLevel == 0 then s.openBlock .blockMappingStart else s
    let s ← s.dropKey
    return { s with allowKey := s.flowLevel == 0 }.mark .value

/-- The indicator of a block entry or of a key. -/
def blockMark (s : Scanner) (opening t : Token) (allowKey : Bool) : Except Fault Scanner := do
  if s.flowLevel == 0 && !s.allowKey then throw .malformed
  let s := if s.flowLevel == 0 then s.openBlock opening else s
  let s ← s.dropKey
  return { s with allowKey }.mark t

/-- Whether the next character can open a plain scalar. -/
def startsPlain (s : Scanner) : Bool :=
  let c := s.cursor.peek
  let next := s.cursor.peekAt 1
  let indicators := "-?:,[]\x7b\x7d#&*!|>'\"%@".toList
  !(isGap c || indicators.contains c || c == Char.ofNat 0x60) ||
    (!isGap next && (c == '-' || (s.flowLevel == 0 && (c == '?' || c == ':'))))

def plain (s : Scanner) : Except Fault Scanner := do
  let s ← s.saveKey
  let read := plainScalar (s.flowLevel != 0) s.indent s.cursor
  return { s with cursor := read.cursor, allowKey := read.crossedLine }.push (.scalar read.text true)

/-- Reads the next token, and whatever blocks end before it. -/
def next (s : Scanner) : Except Fault Scanner := do
  let s := skipGaps (s.cursor.rest.length + 1) s
  let s ← s.dropStaleKeys
  let s := s.unwindTo s.cursor.column
  let c := s.cursor.peek
  let inFlow := s.flowLevel != 0
  let gapNext := isGap (s.cursor.peekAt 1)
  if s.cursor.rest.isEmpty then
    let s ← s.closeAll
    return { s with keys := [], done := true }.push .streamEnd
  else if c == '%' && s.cursor.column == 0 then
    let s ← s.closeAll
    let (t, c) ← directiveToken s.cursor
    return { s with cursor := c }.push t
  else if s.cursor.column == 0 && s.cursor.atDocumentMarker then
    let s ← s.closeAll
    let t := if c == '-' then Token.documentStart else .documentEnd
    return { s with cursor := s.cursor.skip 3 }.push t
  else if c == '[' || c == '\x7b' then
    let s ← s.saveKey
    let t := if c == '[' then Token.flowSequenceStart else .flowMappingStart
    return { s with flowLevel := s.flowLevel + 1, allowKey := true }.mark t
  else if c == ']' || c == '\x7d' then
    let s ← s.dropKey
    if s.flowLevel == 0 then throw .malformed
    let t := if c == ']' then Token.flowSequenceEnd else .flowMappingEnd
    return { s with flowLevel := s.flowLevel - 1, allowKey := false }.mark t
  else if c == ',' then
    let s ← { s with allowKey := true }.dropKey
    return s.mark .flowEntry
  else if c == '-' && gapNext then s.blockMark .blockSequenceStart .blockEntry true
  else if c == '?' && (inFlow || gapNext) then s.blockMark .blockMappingStart .key (!inFlow)
  else if c == ':' && (inFlow || gapNext) then s.valueMark
  else if c == '*' then s.keyLike fun c => (anchorName c).map fun (name, c) => (.alias name, c)
  else if c == '&' then s.keyLike fun c => (anchorName c).map fun (name, c) => (.anchor name, c)
  else if c == '!' then s.keyLike tagToken
  else if (c == '|' || c == '>') && !inFlow then
    let s ← { s with allowKey := true }.dropKey
    let (text, c) ← blockScalar s.indent s.cursor
    return { s with cursor := c }.push (.scalar text false)
  else if c == '\x27' || c == '"' then
    s.keyLike fun c => (quotedScalar c).map fun (text, c) => (.scalar text false, c)
  else if s.startsPlain then s.plain
  else throw .malformed

/-- Reads tokens until the end or the first fault. -/
def run : Nat → Scanner → Scanner
  | 0, s => s.push (.stop .malformed)
  | fuel + 1, s =>
    if s.done then s
    else match s.next with
      | .ok s => run fuel s
      | .error fault => s.push (.stop fault)

end Scanner

/-- The characters that a YAML text may hold. -/
def isAccepted (c : Char) : Bool :=
  let n := c.toNat
  n == 0x9 || n == 0xA || n == 0xD || (0x20 ≤ n && n ≤ 0x7E) || n == 0x85 ||
    (0xA0 ≤ n && n ≤ 0xD7FF) || (0xE000 ≤ n && n ≤ 0xFFFD) || 0x10000 ≤ n

/-- The tokens of a text up to its end, or up to what stops the scanner. -/
def tokens (t : Text) : List Token :=
  if t.all isAccepted then
    (Scanner.run (2 * t.length + 3) { cursor := { rest := t } }).tokens.reverse
  else [.stop .malformed]

end Substitute.Yaml
