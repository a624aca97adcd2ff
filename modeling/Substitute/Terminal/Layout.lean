import Substitute.Terminal.Width

/-!
# Laying out text

A text is laid out in lines of a given number of columns. Lines break before words, and the blanks after a word stay with it. A word that fits on no line is cut over several, or is cut short, as the place asks.
-/

namespace Substitute

/-- What happens to a word that fits on no line. -/
inductive Overflow where
  /-- It goes on over as many lines as it takes. -/
  | fold
  /-- The line is cut short and ends in an ellipsis. -/
  | ellipsis
deriving DecidableEq, Repr

namespace Layout

/-- Puts spaces in place of tabs, which stop at every eighth column; the text starts in the given column. -/
def expandTabsFrom (column : Nat) : Text → Text
  | [] => []
  | c :: rest =>
    if c = '\t' then
      let gap := 8 - column % 8
      List.replicate gap ' ' ++ expandTabsFrom (column + gap) rest
    else c :: expandTabsFrom (column + columnsOf c) rest

/-- Where the reading of words stands: in the blanks before the first word, in a word, or in the blanks after one. -/
inductive WordPlace where
  | before
  | inside
  | after
deriving DecidableEq

/-- The words of a line, each with the blanks that follow it and the first with those before it. Nothing but blanks is no word. `reversed` is what has been read of the next word. -/
def wordsFrom (place : WordPlace) (reversed : Text) : Text → List Text
  | [] => if place = .before then [] else [reversed.reverse]
  | c :: rest =>
    if isBlank c then
      wordsFrom (if place = .before then .before else .after) (c :: reversed) rest
    else if place = .after then reversed.reverse :: wordsFrom .inside [c] rest
    else wordsFrom .inside (c :: reversed) rest

/-- Cuts a word into parts of at most the given columns. `part` is what has been read of the next part, in reverse, and `used` the columns it takes. -/
def choppedFrom (width : Nat) (part : Text) (used : Nat) : Text → List Text
  | [] => [part.reverse]
  | c :: rest =>
    if used + columnsOf c ≤ width then choppedFrom width (c :: part) (used + columnsOf c) rest
    else part.reverse :: choppedFrom width [c] (columnsOf c) rest

/-- Breaks words into lines. `line` is the line so far, and `used` the columns it takes. -/
def brokenFrom (width : Nat) (overflow : Overflow) (line : Text) (used : Nat) :
    List Text → List Text
  | [] => [line]
  | word :: rest =>
    let needed := (Text.trimRight word).columns
    if used + needed ≤ width then
      brokenFrom width overflow (line ++ word) (used + word.columns) rest
    else
      let finished := if line.isEmpty then [] else [line]
      if width < needed && overflow = .fold then
        let parts := choppedFrom width [] 0 word
        let last := parts.getLastD []
        finished ++ parts.dropLast ++ brokenFrom width overflow last last.columns rest
      else finished ++ brokenFrom width overflow word word.columns rest

/-- The line without the blanks at its end that make it longer than the given number of characters. -/
def dropExcessBlanks (width : Nat) (line : Text) : Text :=
  let blanks := line.length - (Text.trimRight line).length
  line.take (line.length - min blanks (line.length - width))

def cropped (width : Nat) (overflow : Overflow) (line : Text) : Text :=
  if line.columns ≤ width then line
  else match overflow with
    | .fold => line.fitColumns width
    | .ellipsis => line.fitColumns (width - 1) ++ ['…']

/-- The lines one line of a text is broken into. -/
def brokenLine (width : Nat) (overflow : Overflow) (line : Text) : List Text :=
  let line := if line.contains '\t' then expandTabsFrom 0 line else line
  match wordsFrom .before [] line with
  | [] => [line]
  | words => brokenFrom width overflow [] 0 words

def lines (width : Nat) (overflow : Overflow) (t : Text) : List Text :=
  ((Text.cutAt '\n' t).flatMap (brokenLine width overflow)).map fun line =>
    cropped width overflow (dropExcessBlanks width line)

/-- The line in the middle of the given columns; an odd space is on the right. -/
def centred (width : Nat) (overflow : Overflow) (line : Text) : Text :=
  let line := cropped width overflow (Text.trimRight line)
  Text.padColumns width (List.replicate ((width - line.columns) / 2) ' ' ++ line)

end Layout

end Substitute
