import Substitute.Terminal.Width

/-!
# Frames

A frame has rounded corners and a title in its upper border. Inside it each line has a space on either side; lines that are too long are cut off.
-/

namespace Substitute

namespace Frame

/-- A border between two corners, with a text in its middle. -/
def border (width : Nat) (left right : Char) (t : Text) : Text :=
  let spare := width - 2 - t.columns
  left :: List.replicate (spare / 2) '─' ++ t ++ List.replicate (spare - spare / 2) '─' ++ [right]

/-- The lines of a frame of the given width around some lines. -/
def lines (width : Nat) (title : Text) (body : List Text) : List Text :=
  let inside := body.map fun line => ['│', ' '] ++ line.fitColumns (width - 4) ++ [' ', '│']
  border width '╭' '╮' (' ' :: title ++ [' ']) :: inside ++ [border width '╰' '╯' []]

end Frame

end Substitute
