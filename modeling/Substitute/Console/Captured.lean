import Substitute.Text.Basic

/-!
# Captured text

What a compose starts from: the selection if there is one, else the word under the cursor. A word is a run of ASCII letters, digits and underscores, or a run of other characters that are not blank.
-/

namespace Substitute

def isIdentifierChar (c : Char) : Bool :=
  c.isAlphanum || c == '_'

/-- The run of characters of one class that a text opens with; empty when it opens with a blank. -/
def leadingWord : Text → Text
  | [] => []
  | c :: rest =>
    if isBlank c then []
    else c :: rest.takeWhile fun d => !isBlank d && isIdentifierChar d == isIdentifierChar c

/-- The word under the cursor. Where words of two classes meet, the one after the cursor counts. -/
def wordAt (t : Text) (cursor : Nat) : Text :=
  let before := (leadingWord (t.take cursor).reverse).reverse
  let after := leadingWord (t.drop cursor)
  match before.getLast?, after.head? with
  | some c, some d => if isIdentifierChar c == isIdentifierChar d then before ++ after else after
  | _, _ => before ++ after

/-- How a selection takes up the text between its ends. -/
inductive SelectionKind where
  | characters
  | lines
  | block
deriving DecidableEq, Repr

def rowColumn (t : Text) (position : Nat) : Nat × Nat :=
  let lines := Text.cutAt '\n' (t.take position)
  (lines.length - 1, (lines.getLastD []).length)

/-- The selected text between two positions. A selection of lines runs from the start of its first line to the end of its last, less the last character of the text when it ends there. -/
def selectedText (t : Text) (kind : SelectionKind) (anchor cursor : Nat) : Text :=
  let low := min anchor cursor
  let high := max anchor cursor
  match kind with
  | .characters => (t.take high).drop low
  | .lines =>
    let start := low - (rowColumn t low).2
    let tail := (t.drop high).takeWhile (· != '\n')
    let stop := if (t.drop high).contains '\n' then high + tail.length else t.length - 1
    let cut := (t.take stop).drop start
    if ['\n'].isSuffixOf cut then cut.dropLast else cut
  | .block =>
    let (fromRow, fromColumn) := rowColumn t low
    let (toRow, toColumn) := rowColumn t high
    let left := min fromColumn toColumn
    let right := max fromColumn toColumn
    let rows := ((Text.cutAt '\n' t).take (toRow + 1)).drop fromRow
    List.intercalate ['\n'] ((rows.filter fun row => left ≤ row.length).map fun row =>
      (row.take right).drop left)

def capturedText (t : Text) (cursor : Nat) (selection : Option (SelectionKind × Nat)) : Text :=
  match selection with
  | some (kind, anchor) => selectedText t kind anchor cursor
  | none => wordAt t cursor

end Substitute
