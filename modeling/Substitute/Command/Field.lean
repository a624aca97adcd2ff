import Substitute.Text.Basic

/-!
# Fields

The fields of a command stand between separators. A backslash and the character after it form an escape pair, which is copied whole, so an escaped separator never ends a field and fields keep their escapes. A backslash that ends the text pairs with nothing.
-/

namespace Substitute.Field

/-- Cuts a text at the separators outside escape pairs, at most `limit` times; what is left then is the last field as it stands. -/
def split (separator : Text) : Option Nat → Text → List Text
  | some 0, t => [t]
  | _, [] => [[]]
  | limit, '\\' :: c :: rest => Text.extendFirst ['\\', c] (split separator limit rest)
  | limit, c :: rest =>
    if [c] = separator then [] :: split separator (limit.map (· - 1)) rest
    else Text.extendFirst [c] (split separator limit rest)

def join (separator : Text) (fields : List Text) : Text :=
  List.intercalate separator fields

/-- How often a character occurs outside escape pairs. -/
def countUnescaped (separator : Char) : Text → Nat
  | [] => 0
  | '\\' :: _ :: rest => countUnescaped separator rest
  | c :: rest => (if c = separator then 1 else 0) + countUnescaped separator rest

/-- Whether a text ends in a backslash that pairs with nothing. -/
def endsUnpaired : Text → Bool
  | [] => false
  | ['\\'] => true
  | '\\' :: _ :: rest => endsUnpaired rest
  | _ :: rest => endsUnpaired rest

end Substitute.Field
