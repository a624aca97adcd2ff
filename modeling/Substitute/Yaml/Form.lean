import Substitute.Value.Shown
import Substitute.Yaml.Tag

/-!
# Written forms

What is written for a value: texts and brackets, with the tags that do not follow from the text, and with anchors where one collection stands in several places.
-/

namespace Substitute.Yaml

structure ScalarForm where
  tag : Tag
  text : Text

/-- What a mapping or a sequence is written as: a tag shows where it stands for something else. -/
inductive FormKind where
  | plain
  | set
  | tuple
deriving DecidableEq

/-- A value as it is to be written. An anchor marks the first place of something that is met again, and an alias stands for it in the others. -/
inductive Form where
  | scalar (anchor : Option Nat) (s : ScalarForm)
  | sequence (anchor : Option Nat) (kind : FormKind) (items : List Form)
  | mapping (anchor : Option Nat) (kind : FormKind) (entries : List (Form × Form))
  | alias (anchor : Nat)

/-- A decimal as a text that reads back as one; it keeps a point before its exponent. -/
def decimalText (x : Binary64) : Text :=
  match x with
  | .nan => ".nan"
  | .infinite negative => if negative then "-.inf" else ".inf"
  | _ =>
    let t := x.toText
    if t.contains '.' || !t.contains 'e' then t
    else t.flatMap fun c => if c == 'e' then ['.', '0', 'e'] else [c]

def base64Digit (n : Nat) : Char :=
  if n < 26 then Char.ofNat (0x41 + n)
  else if n < 52 then Char.ofNat (0x61 + n - 26)
  else if n < 62 then Char.ofNat (0x30 + n - 52)
  else if n = 62 then '+' else '/'

def encodeBase64 : List Nat → Text
  | a :: b :: c :: rest =>
    base64Digit (a / 4) :: base64Digit (a % 4 * 16 + b / 16) ::
      base64Digit (b % 16 * 4 + c / 64) :: base64Digit (c % 64) :: encodeBase64 rest
  | [a, b] =>
    [base64Digit (a / 4), base64Digit (a % 4 * 16 + b / 16), base64Digit (b % 16 * 4), '=']
  | [a] => [base64Digit (a / 4), base64Digit (a % 4 * 16), '=', '=']
  | [] => []

/-- Lines of at most 76 characters, each with its line feed. -/
def linesOf76 : Nat → Text → Text
  | 0, _ => []
  | fuel + 1, t => if t.isEmpty then [] else t.take 76 ++ '\n' :: linesOf76 fuel (t.drop 76)

/-- The form of a value that is no collection. -/
def ScalarForm.ofValue : Value → ScalarForm
  | .null => { tag := .null, text := "null" }
  | .bool b => { tag := .bool, text := if b then "true" else "false" }
  | .int n => { tag := .int, text := decimalInt n }
  | .float x => { tag := .float, text := decimalText x }
  | .text t => { tag := .text, text := t }
  | .bytes bs =>
    let encoded := encodeBase64 bs
    { tag := .binary, text := linesOf76 (encoded.length + 1) encoded }
  | .date d => { tag := .timestamp, text := d.toText }
  | .moment m => { tag := .timestamp, text := m.toText ' ' }
  | .list _ | .tuple _ | .set _ | .map _ | .again _ => { tag := .null, text := "null" }

end Substitute.Yaml
