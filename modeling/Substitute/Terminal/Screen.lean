import Substitute.Text.Basic

/-!
# Screens

A screen prints texts with styles marked up in them, tables and framed documents. Printing may fail; what was printed before stays. How markup is read, laid out and drawn is the screen's own affair.
-/

namespace Substitute

structure MarkupError where
  message : Text
deriving DecidableEq, Repr

/-- A cell is markup or text that stands for itself. -/
inductive Cell where
  | literal (t : Text)
  | markup (t : Text)
deriving DecidableEq, Repr

/-- A table by its columns, which all have the same number of cells. -/
structure Table where
  title : Text := []
  columns : List (List Cell)

/-- The lines that a text is printed as. -/
abbrev Rendering := Except MarkupError (List Text)

structure Screen where
  markup : Text → Rendering
  /-- Prints markup without breaking its lines. -/
  unbroken : Text → Rendering
  /-- Prints a text that stands for itself. -/
  literal : Text → Rendering
  /-- Markup for a text that stands for itself. -/
  escape : Text → Text
  table : Table → Rendering
  /-- Prints a document in a frame with a title. -/
  framed : Text → Text → Rendering
  document : Text → Rendering

/-- Printed lines, and the failure that broke the printing off. -/
structure Printed where
  lines : List Text := []
  failure : Option MarkupError := none
deriving DecidableEq, Repr

namespace Printed

def ofRendering : Rendering → Printed
  | .ok lines => { lines }
  | .error error => { failure := some error }

/-- Prints one thing after another up to the first that fails. -/
def followedBy (p q : Printed) : Printed :=
  match p.failure with
  | none => { q with lines := p.lines ++ q.lines }
  | some _ => p

def all : List Printed → Printed
  | [] => {}
  | p :: rest => p.followedBy (all rest)

end Printed

end Substitute
