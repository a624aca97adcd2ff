import Substitute.Terminal.EmojiNames
import Substitute.Text.Case

/-!
# Emoji codes

In a printed text the name of an emoji between two colons stands for the emoji. The name may say after a hyphen whether the emoji is to look like text or like a picture. A name holds no blank; one that is not known stays as it is, colons included.
-/

namespace Substitute

/-- The text that follows a name in a row of names and emoji. -/
def findNamed (name : Text) : List Text → Option Text
  | known :: glyph :: rest => if known = name then some glyph else findNamed name rest
  | _ => none

def emoji? (name : Text) : Option Text :=
  emojiNames.findSome? fun row => findNamed (lowercase name) (Text.words row.toList)

/-- What may follow the name of an emoji, with the selector it stands for. -/
def emojiVariants : List (Text × Text) :=
  [("-text", ['\ufe0e']), ("-emoji", ['\ufe0f'])]

/-- The characters up to the next colon, if no blank comes before it. -/
def codeName? : Text → Option Text
  | [] => none
  | c :: rest =>
    if c = ':' then some []
    else if isBlank c then none
    else (codeName? rest).map (c :: ·)

/-- What the name between two colons stands for. -/
def emojiOfCode? (name : Text) : Option Text :=
  match emojiVariants.find? fun variant => variant.1.isSuffixOf name with
  | some (suffix, selector) => (emoji? (name.take (name.length - suffix.length))).map (· ++ selector)
  | none => emoji? name

/-- Replaces emoji codes after the next `skip` characters. -/
def replaceCodes : Nat → Text → Text
  | _, [] => []
  | skip + 1, _ :: rest => replaceCodes skip rest
  | 0, c :: rest =>
    match if c = ':' then codeName? rest else none with
    | none => c :: replaceCodes 0 rest
    | some name =>
      let code := ':' :: name ++ [':']
      (emojiOfCode? name).getD code ++ replaceCodes (name.length + 1) rest

def withEmoji (t : Text) : Text :=
  if t.contains ':' then replaceCodes 0 t else t

end Substitute
