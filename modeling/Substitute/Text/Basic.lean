/-!
# Texts

A text is the list of its characters, so lengths, cursors and offsets count characters. Here are the operations that know nothing of commands: searching, trimming, and cutting at blanks or at a character.
-/

namespace Substitute

abbrev Text := List Char

instance : Coe String Text := ⟨String.toList⟩

/-- Whether the code point of a character lies in one of the given closed ranges. -/
def inRanges (ranges : List (Nat × Nat)) (c : Char) : Bool :=
  ranges.any fun range => range.1 ≤ c.toNat && c.toNat ≤ range.2

def blankRanges : List (Nat × Nat) :=
  [(0x85, 0x85), (0xA0, 0xA0), (0x1680, 0x1680), (0x2000, 0x200A), (0x2028, 0x2029),
   (0x202F, 0x202F), (0x205F, 0x205F), (0x3000, 0x3000)]

/-- White space of any kind: blanks, line breaks and the four information separators. -/
def isBlank (c : Char) : Bool :=
  if c.toNat < 0x80 then
    (0x9 ≤ c.toNat && c.toNat ≤ 0xD) || (0x1C ≤ c.toNat && c.toNat ≤ 0x20)
  else inRanges blankRanges c

namespace Text

/-- Whether `part` occurs as a run of consecutive characters. The empty text occurs everywhere. -/
def occursIn (part : Text) : Text → Bool
  | [] => part.isEmpty
  | c :: rest => part.isPrefixOf (c :: rest) || occursIn part rest

/-- Drops the next `skip` characters and then every occurrence of `part`, leftmost first. -/
def eraseFrom (part : Text) : Nat → Text → Text
  | _, [] => []
  | skip + 1, _ :: rest => eraseFrom part skip rest
  | 0, c :: rest =>
    if part.isPrefixOf (c :: rest) then eraseFrom part (part.length - 1) rest
    else c :: eraseFrom part 0 rest

/-- The text without the occurrences of `part`; nothing is erased for an empty `part`. -/
def eraseAll (part t : Text) : Text :=
  if part.isEmpty then t else eraseFrom part 0 t

/-- Puts `part` in front of the first of several texts. -/
def extendFirst (part : Text) : List Text → List Text
  | [] => [part]
  | first :: others => (part ++ first) :: others

/-- The parts between the occurrences of a character; always at least one. -/
def cutAt (mark : Char) : Text → List Text
  | [] => [[]]
  | c :: rest =>
    if c = mark then [] :: cutAt mark rest else extendFirst [c] (cutAt mark rest)

def words : Text → List Text
  | [] => []
  | c :: rest =>
    if isBlank c then words rest
    else match rest with
      | [] => [[c]]
      | d :: _ => if isBlank d then [c] :: words rest else extendFirst [c] (words rest)

def trimLeft (t : Text) : Text :=
  t.dropWhile isBlank

def trimRight (t : Text) : Text :=
  (t.reverse.dropWhile isBlank).reverse

def trim (t : Text) : Text :=
  trimRight (trimLeft t)

end Text

def decimal (n : Nat) : Text :=
  Nat.toDigits 10 n

/-- An integer in decimal digits, with a minus sign when it is negative. -/
def decimalInt (n : Int) : Text :=
  if n < 0 then '-' :: decimal n.natAbs else decimal n.natAbs

/-- A natural number in decimal digits, filled up with zeros on the left. -/
def decimalPadded (width n : Nat) : Text :=
  List.replicate (width - (decimal n).length) '0' ++ decimal n

/-- A natural number in lower-case hexadecimal digits, filled up with zeros on the left. -/
def hexPadded (width n : Nat) : Text :=
  let digits := Nat.toDigits 16 n
  List.replicate (width - digits.length) '0' ++ digits

end Substitute
