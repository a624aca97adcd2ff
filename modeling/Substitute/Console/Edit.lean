import Substitute.Text.Basic

/-!
# Editing a line

The edits that keys make on a line with a cursor. The cursor is a position in the line.
-/

namespace Substitute

inductive Edit where
  | insert (c : Char)
  | eraseBefore
  | eraseAt
  | killBefore
  | killAfter
  | transpose
  | toStart
  | toEnd
  | left
  | right
deriving DecidableEq, Repr

namespace Edit

def isMove : Edit → Bool
  | .toStart | .toEnd | .left | .right => true
  | _ => false

def ofKey? (key : Text) : Option Edit :=
  match key with
  | [c] => some (.insert c)
  | _ => List.lookup key
    [("c-h".toList, eraseBefore), ("delete".toList, eraseAt), ("c-d".toList, eraseAt),
     ("c-u".toList, killBefore), ("c-k".toList, killAfter), ("c-t".toList, transpose),
     ("c-a".toList, toStart), ("home".toList, toStart), ("c-e".toList, toEnd),
     ("end".toList, toEnd), ("c-b".toList, left), ("left".toList, left),
     ("c-f".toList, right), ("right".toList, right)]

/-- The line with the two characters before a position swapped. -/
def swapBefore (line : Text) (position : Nat) : Text :=
  match (line.take position).reverse with
  | b :: a :: before => before.reverse ++ b :: a :: line.drop position
  | _ => line

/-- Line and cursor after an edit. Swapping moves on over the character at the cursor, and does nothing at the start. -/
def apply (line : Text) (cursor : Nat) : Edit → Text × Nat
  | .insert c => (line.take cursor ++ c :: line.drop cursor, cursor + 1)
  | .eraseBefore =>
    if cursor = 0 then (line, cursor) else (line.eraseIdx (cursor - 1), cursor - 1)
  | .eraseAt => (line.eraseIdx cursor, cursor)
  | .killBefore => (line.drop cursor, 0)
  | .killAfter => (line.take cursor, cursor)
  | .transpose =>
    if cursor = 0 then (line, cursor)
    else
      let position := min (cursor + 1) line.length
      (swapBefore line position, position)
  | .toStart => (line, 0)
  | .toEnd => (line, line.length)
  | .left => (line, cursor - 1)
  | .right => (line, min (cursor + 1) line.length)

end Edit

end Substitute
