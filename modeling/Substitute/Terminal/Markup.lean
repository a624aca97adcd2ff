import Substitute.Terminal.Emoji
import Substitute.Terminal.Screen

/-!
# Markup

Printed text is markup: a tag in brackets opens a style, and a tag with a slash closes one. Tags are not printed. A bracket opens a tag only before a small letter, a hash sign, a slash or an at sign, and a tag reaches to the next closing bracket with no opening one between. Of the backslashes before a tag every pair prints one; an odd one makes the tag literal.

`Markup.plain` gives the text that markup prints. It fails only on a closing tag with nothing to close. `Markup.escape` makes the tags of a text literal.
-/

namespace Substitute

namespace MarkupError

/-- A closing tag that no open tag matches. Positions count characters from the start. -/
def unmatched (tag : Text) (position : Nat) : MarkupError where
  message := "closing tag '[" ++ tag ++ "]' at position " ++ decimal position ++
    " doesn't match any open tag"

/-- A closing tag without a name while no tag is open. -/
def nothingOpen (position : Nat) : MarkupError where
  message := "closing tag '[/]' at position " ++ decimal position ++ " has nothing to close"

end MarkupError

namespace Markup

inductive Piece where
  /-- The text between tags. -/
  | literal (t : Text)
  /-- A tag without its brackets, with the position of its bracket and the backslashes before it. -/
  | tag (position slashes : Nat) (body : Text)
deriving DecidableEq, Repr

def isTagStart (c : Char) : Bool :=
  c.isLower || c == '#' || c == '/' || c == '@'

/-- The characters up to the next closing bracket, if no opening one comes before it. -/
def untilBracket? : Text → Option Text
  | [] => none
  | c :: rest =>
    if c = ']' then some []
    else if c = '[' then none
    else (untilBracket? rest).map (c :: ·)

/-- The tag that a text goes on with after an opening bracket. -/
def tagBody? : Text → Option Text
  | [] => none
  | c :: rest => if isTagStart c then (untilBracket? rest).map (c :: ·) else none

def slashRun (n : Nat) : Text :=
  List.replicate n '\\'

/-- The text before a tag as a piece, unless it is empty. -/
def literalPiece (reversed : Text) : List Piece :=
  if reversed.isEmpty then [] else [.literal reversed.reverse]

/-- The pieces of a text from a position on, after the next `skip` characters, with the literal text read so far in reverse and the backslashes that follow it. -/
def piecesFrom (position skip slashes : Nat) (reversed : Text) : Text → List Piece
  | [] => literalPiece (slashRun slashes ++ reversed)
  | c :: rest =>
    match skip with
    | skip + 1 => piecesFrom (position + 1) skip slashes reversed rest
    | 0 =>
      if c = '\\' then piecesFrom (position + 1) 0 (slashes + 1) reversed rest
      else match if c = '[' then tagBody? rest else none with
        | some body =>
          literalPiece reversed ++
            .tag position slashes body :: piecesFrom (position + 1) (body.length + 1) 0 [] rest
        | none => piecesFrom (position + 1) 0 0 (c :: (slashRun slashes ++ reversed)) rest

def pieces (markup : Text) : List Piece :=
  piecesFrom 0 0 0 [] markup

/-- The attributes of a style and the words for each, in the order a style lists them. -/
def attributes : List (Text × List Text) :=
  [("bold", ["b"]), ("dim", ["d"]), ("italic", ["i"]), ("underline", ["u"]), ("blink", []),
   ("blink2", []), ("reverse", ["r"]), ("conceal", ["c"]), ("strike", ["s"]),
   ("underline2", ["uu"]), ("frame", []), ("encircle", []), ("overline", ["o"])]

/-- The name under which a style is opened and closed. Attributes go by their full names in their order; anything else is in small letters. -/
def styleName (t : Text) : Text :=
  let words := t.words.map lowercase
  let spellings := fun (entry : Text × List Text) => entry.1 :: entry.2
  if !words.isEmpty && words.all fun word => attributes.any fun a => (spellings a).contains word then
    let used := attributes.filter fun a => (spellings a).any words.contains
    List.intercalate [' '] (used.map Prod.fst)
  else lowercase t.trim

/-- What follows the slash of a closing tag. -/
def closes? : Text → Option Text
  | '/' :: rest => some (Text.trim (rest.takeWhile (· != '=')))
  | _ => none

/-- The tags that stay open after a tag. The innermost open tag stands first. -/
def afterTag (opened : List Text) (position : Nat) (body : Text) :
    Except MarkupError (List Text) :=
  match closes? body with
  | none => .ok (styleName (body.takeWhile (· != '=')) :: opened)
  | some [] =>
    match opened with
    | [] => .error (.nothingOpen position)
    | _ :: outer => .ok outer
  | some name =>
    if opened.contains (styleName name) then .ok (opened.erase (styleName name))
    else .error (.unmatched body position)

/-- A text with a bracket in place of every bracket that stands after a backslash. -/
def unescapeBrackets : Text → Text
  | '\\' :: '[' :: rest => '[' :: unescapeBrackets rest
  | c :: rest => c :: unescapeBrackets rest
  | [] => []

/-- Characters that would ring, or move backwards or down, and are not printed. -/
def isDropped (c : Char) : Bool :=
  c == '\x07' || c == '\x08' || c == '\x0b' || c == '\x0c' || c == '\r'

/-- The text without the characters that are not printed. -/
def printable (t : Text) : Text :=
  t.filter fun c => !isDropped c

def literalText (t : Text) : Text :=
  printable (withEmoji (unescapeBrackets t))

/-- What pieces print while the given tags are open. -/
def plainFrom (opened : List Text) : List Piece → Except MarkupError Text
  | [] => .ok []
  | .literal t :: rest => do
    return literalText t ++ (← plainFrom opened rest)
  | .tag position slashes body :: rest => do
    let shown := slashRun (slashes / 2)
    if slashes % 2 = 1 then
      return shown ++ literalText ('[' :: body ++ [']']) ++ (← plainFrom opened rest)
    else
      let opened ← afterTag opened position body
      return shown ++ (← plainFrom opened rest)

def plain (markup : Text) : Except MarkupError Text :=
  plainFrom [] (pieces markup)

def escapedPiece : Piece → Text
  | .literal t => t
  | .tag _ slashes body => slashRun (2 * slashes + 1) ++ '[' :: body ++ [']']

/-- Markup that prints the tags of a text. A single backslash at the end is doubled, since a tag may follow. -/
def escape (t : Text) : Text :=
  let escaped := (pieces t).flatMap escapedPiece
  if ['\\'].isSuffixOf escaped && !(['\\', '\\'].isSuffixOf escaped) then escaped ++ ['\\']
  else escaped

end Markup

end Substitute
