import Substitute.Text.Printable

/-!
# Quoted texts

A text inside a message stands between quotes and shows its unprintable characters by number, so that the message is one printable line. Single quotes are used unless the text holds one and holds no double quote.
-/

namespace Substitute

def quotedChar (quote c : Char) : Text :=
  if c = quote || c = '\\' then ['\\', c]
  else if c = '\n' then "\\n"
  else if c = '\r' then "\\r"
  else if c = '\t' then "\\t"
  else if isPrintable c then [c]
  else if c.toNat < 0x100 then "\\x" ++ hexPadded 2 c.toNat
  else if c.toNat < 0x10000 then "\\u" ++ hexPadded 4 c.toNat
  else "\\U" ++ hexPadded 8 c.toNat

def quoteFor (t : Text) : Char :=
  if t.contains '\x27' && !t.contains '"' then '"' else '\x27'

def quoted (t : Text) : Text :=
  let quote := quoteFor t
  quote :: t.flatMap (quotedChar quote) ++ [quote]

def quotedByte (quote : Char) (b : Nat) : Text :=
  let c := Char.ofNat b
  if c = quote || c = '\\' then ['\\', c]
  else if c = '\n' then "\\n"
  else if c = '\r' then "\\r"
  else if c = '\t' then "\\t"
  else if 0x20 ≤ b && b < 0x7F then [c]
  else "\\x" ++ hexPadded 2 b

/-- A run of bytes between quotes, marked by a leading letter. -/
def quotedBytes (bytes : List Nat) : Text :=
  let quote := quoteFor (bytes.map Char.ofNat)
  'b' :: quote :: bytes.flatMap (quotedByte quote) ++ [quote]

end Substitute
