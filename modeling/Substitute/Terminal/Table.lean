import Substitute.Number.Rounding
import Substitute.Terminal.Layout
import Substitute.Terminal.Markup

/-!
# Tables

A table has no borders: every cell has two spaces on either side, and a column is as wide as its widest cell. A table that is too wide takes columns from its widest columns, whose words then go on in further lines of the row. The title stands in the middle above the table.
-/

namespace Substitute

def Cell.shown : Cell → Except MarkupError Text
  | .literal t => .ok (Markup.printable t)
  | .markup t => Markup.plain t

namespace Table

def cellPadding : Nat := 2

/-- Characters that end a line when the width of a text is taken. -/
def isLineBreak (c : Char) : Bool :=
  c == '\n' || (0x1C ≤ c.toNat && c.toNat ≤ 0x1E) || c == '\x85' || c == '\u2028' || c == '\u2029'

def naturalWidth (t : Text) : Nat :=
  ((Text.cutAt '\n' (t.map fun c => if isLineBreak c then '\n' else c)).map Text.columns).foldl
    max 0

/-- The width a column would have with nothing beside it. -/
def columnWidth (width : Nat) (cells : List Text) : Nat :=
  if cells.isEmpty then width
  else min width ((cells.map fun t => naturalWidth t + 2 * cellPadding).foldl max 0)

/-- Takes `total` evenly from the `count` widths that equal `widest`, at most `most` from each. -/
def takeEvenly (widest most : Nat) : Nat → Nat → List Nat → List Nat
  | _, _, [] => []
  | total, count, w :: rest =>
    if w = widest && 0 < count then
      let part := min most (roundHalfEven total count)
      (w - part) :: takeEvenly widest most (total - part) (count - 1) rest
    else w :: takeEvenly widest most total count rest

/-- The columns that columns of the given widths take together. -/
def totalWidth (widths : List Nat) : Nat :=
  widths.foldl (· + ·) 0

/-- Narrows the widest columns, to the width of the next narrower ones at a time, until the excess is gone. -/
def narrowed : Nat → Nat → List Nat → List Nat
  | 0, _, widths => widths
  | fuel + 1, width, widths =>
    let excess := totalWidth widths - width
    if excess = 0 then widths
    else
      let widest := widths.foldl max 0
      let next := (widths.filter (· ≠ widest)).foldl max 0
      let most := min excess (widest - next)
      narrowed fuel width (takeEvenly widest most excess (widths.count widest) widths)

/-- The widths of columns with the given cells. -/
def columnWidths (width : Nat) (columns : List (List Text)) : List Nat :=
  let widths := columns.map (columnWidth width)
  narrowed (totalWidth widths) width widths

/-- The lines of a cell, each as wide as its column. -/
def cellLines (width : Nat) (t : Text) : List Text :=
  let inner := width - 2 * cellPadding
  let side := List.replicate cellPadding ' '
  (Layout.lines inner .ellipsis t).map fun line => side ++ line.padColumns inner ++ side

/-- The lines of a row, whose cells are given with the widths of their columns. -/
def rowLines (cells : List (Nat × Text)) : List Text :=
  let blocks := cells.map fun (width, t) => (List.replicate width ' ', cellLines width t)
  let height := (blocks.map fun block => block.2.length).foldl max 0
  (List.range height).map fun i => blocks.flatMap fun (blank, lines) => lines.getD i blank

/-- The lines of a table on a screen of the given width. -/
def lines (width : Nat) (t : Table) : Except MarkupError (List Text) := do
  let columns ← t.columns.mapM fun cells => cells.mapM Cell.shown
  let widths := columnWidths width columns
  let total := totalWidth widths
  let height := (columns.map List.length).foldl max 0
  let rows := (List.range height).flatMap fun i =>
    rowLines (widths.zip (columns.map fun cells => cells.getD i []))
  let title := Markup.printable t.title
  let heading := if title.isEmpty then []
    else (Layout.lines total .fold title).map (Layout.centred total .fold)
  return heading ++ rows

end Table

end Substitute
