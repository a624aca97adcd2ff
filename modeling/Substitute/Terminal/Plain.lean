import Substitute.Terminal.Frame
import Substitute.Terminal.Table

/-!
# A screen without colours

A screen of fixed width that shows no styles. Lines are printed without the blanks at their ends.
-/

namespace Substitute

def screenWidth : Nat := 160

namespace Screen

def shownLines (lines : List Text) : List Text :=
  lines.map Text.trimRight

def plain : Screen where
  markup t := do
    return shownLines (Layout.lines screenWidth .fold (← Markup.plain t))
  unbroken t := do
    return shownLines (Text.cutAt '\n' (← Markup.plain t))
  literal t :=
    .ok (shownLines (Layout.lines screenWidth .fold (Markup.printable (withEmoji t))))
  escape := Markup.escape
  table t := do
    return shownLines (← t.lines screenWidth)
  framed title document :=
    .ok (shownLines (Frame.lines screenWidth title (Text.cutAt '\n' document)))
  document t :=
    .ok (shownLines ((Text.cutAt '\n' t).map (Text.fitColumns screenWidth)))

end Screen

end Substitute
