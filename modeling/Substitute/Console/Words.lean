import Substitute.Text.Case

/-!
# Words of a console line

A line that opens with a slash is a console command: a name and the words after it. Words stand apart by spaces, tabs and line ends. Quotes group characters, blanks included, and may join with what stands next to them; nothing escapes inside them. When a quote is left open, the line is cut at blanks and the quotes are kept.
-/

namespace Substitute

def isWordGap (c : Char) : Bool :=
  c == ' ' || c == '\t' || c == '\r' || c == '\n'

def isGroupQuote (c : Char) : Bool :=
  c == '"' || c == '\x27'

/-- Where the splitter stands: between words, in a word, or inside quotes in a word. -/
inductive WordState where
  | between
  | within (word : Text)
  | grouped (quote : Char) (word : Text)

/-- The words of a text from the given state on; none when a quote is left open. -/
def groupedWords? : WordState → Text → Option (List Text)
  | .between, [] => some []
  | .within word, [] => some [word]
  | .grouped _ _, [] => none
  | .between, c :: rest =>
    if isWordGap c then groupedWords? .between rest
    else if isGroupQuote c then groupedWords? (.grouped c []) rest
    else groupedWords? (.within [c]) rest
  | .within word, c :: rest =>
    if isWordGap c then (groupedWords? .between rest).map (word :: ·)
    else if isGroupQuote c then groupedWords? (.grouped c word) rest
    else groupedWords? (.within (word ++ [c])) rest
  | .grouped quote word, c :: rest =>
    if c = quote then groupedWords? (.within word) rest
    else groupedWords? (.grouped quote (word ++ [c])) rest

def splitWords (t : Text) : List Text :=
  (groupedWords? .between t).getD t.words

/-- A console command: its name in small letters and the words after it. -/
structure SlashLine where
  command : Text
  words : List Text
deriving DecidableEq, Repr

namespace SlashLine

/-- The first word in small letters, which selects an action. -/
def subcommand? (l : SlashLine) : Option Text :=
  l.words.head?.map lowercase

def args (l : SlashLine) : List Text :=
  l.words.drop 1

/-- Reads a console line; none when it opens with no slash or holds no word. -/
def parse? (raw : Text) : Option SlashLine :=
  match raw.trim with
  | '/' :: rest =>
    match splitWords rest with
    | [] => none
    | name :: words => some { command := lowercase name, words }
  | _ => none

end SlashLine

end Substitute
