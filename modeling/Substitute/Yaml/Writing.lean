import Substitute.Yaml.Pen
import Substitute.Yaml.Reading
import Substitute.Yaml.Sharing

/-!
# Writing YAML

Collections are written as blocks, two columns for each level; a sequence under a key stands at the column of the key. An empty collection is a pair of brackets. A key that does not fit on a line, or that is empty, stands after a question mark.
-/

namespace Substitute.Yaml

inductive FormPlace where
  | root
  | item
  | value
  | key
deriving DecidableEq

def Tag.shortName (t : Tag) : Text :=
  match Tag.named.find? fun entry => entry.2 == t with
  | some entry => '!' :: '!' :: entry.1
  | none => "!!other"

def anchorText (n : Nat) : Text :=
  'i' :: 'd' :: decimalPadded 3 n

/-- Whether a scalar reads back under its tag when it is written plain. -/
def ScalarForm.isFitting (s : ScalarForm) : Bool :=
  Tag.ofPlain s.text == s.tag

/-- Whether a key can stand on a line before its colon. -/
def Form.isSimpleKey : Form → Bool
  | .alias n => (anchorText n).length < 128
  | .scalar anchor s =>
    let a := allowance s.text
    let length := ((anchor.map fun n => (anchorText n).length).getD 0) + s.tag.shortName.length +
      s.text.length
    length < 128 && !a.empty && !a.multiline
  | .sequence _ _ items => items.isEmpty
  | .mapping _ _ entries => entries.isEmpty

/-- The indentation one level further in; the outermost blocks stand at the margin. -/
def deeper (inLine : Bool) : Option Nat → Nat
  | none => if inLine then indentStep else 0
  | some indent => indent + indentStep

def Pen.scalar (p : Pen) (indent : Option Nat) (place : FormPlace) (s : ScalarForm) : Pen :=
  let isKey := place == .key
  let style := styleFor s.isFitting (s.tag == .binary) isKey s.text
  let p := if style != .plain && s.tag != .text then p.indicator s.tag.shortName true false false else p
  let inner := deeper true indent
  match style with
  | .plain => p.plain inner (!isKey) s.text
  | .singleQuoted => p.singleQuoted inner (!isKey) s.text
  | .doubleQuoted => p.doubleQuoted inner (!isKey) s.text
  | .literal => p.literal inner s.text

def Pen.anchor (p : Pen) : Option Nat → Pen
  | none => p
  | some n => p.indicator ('&' :: anchorText n) true false false

/-- Writes the tag of a collection that stands for something else. -/
def Pen.kind (p : Pen) : FormKind → Pen
  | .plain => p
  | .set => p.indicator Tag.set.shortName true false false
  | .tuple => p.indicator "!!python/tuple" true false false

def Pen.brackets (p : Pen) (left right : Char) : Pen :=
  (p.indicator [left] true true false).indicator [right] false false false

mutual

def Pen.form (p : Pen) (indent : Option Nat) (place : FormPlace) : Form → Pen
  | .alias n => p.indicator ('*' :: anchorText n) true false false
  | .scalar anchor s => (p.anchor anchor).scalar indent place s
  | .sequence anchor kind items =>
    let p := (p.anchor anchor).kind kind
    if items.isEmpty then p.brackets '[' ']'
    else
      let atKey := (place == .value || place == .key) && !p.indenting
      Pen.items p (if atKey then indent.getD 0 else deeper false indent) items
  | .mapping anchor kind entries =>
    let p := (p.anchor anchor).kind kind
    if entries.isEmpty then p.brackets '\x7b' '\x7d'
    else Pen.entries p (deeper false indent) entries

/-- Writes the items of a sequence, each after a hyphen. -/
def Pen.items (p : Pen) (indent : Nat) : List Form → Pen
  | [] => p
  | item :: rest =>
    let p := (p.indentTo indent).indicator ['-'] true false true
    Pen.items (Pen.form p (some indent) .item item) indent rest

/-- Writes the entries of a mapping, each with a colon after its key. -/
def Pen.entries (p : Pen) (indent : Nat) : List (Form × Form) → Pen
  | [] => p
  | (key, value) :: rest =>
    let p := p.indentTo indent
    let p :=
      if key.isSimpleKey then
        (Pen.form p (some indent) .key key).indicator [':'] false false false
      else
        let p := Pen.form (p.indicator ['?'] true false true) (some indent) .value key
        (p.indentTo indent).indicator [':'] true false true
    Pen.entries (Pen.form p (some indent) .value value) indent rest

end

/-- Whether a document ends in a plain scalar with nothing around it, which needs a mark for its end. -/
def Form.endsOpen : Form → Bool
  | .scalar _ s => styleFor s.isFitting (s.tag == .binary) false s.text == .plain
  | _ => false

def Form.toText (f : Form) : Text :=
  let p := (Pen.form {} none .root f).indentTo 0
  let p := if f.endsOpen then (p.indicator ['.', '.', '.'] true false false).indentTo 0 else p
  p.written.reverse

/-- The text of a document. An integer of too many digits has none. -/
def write (d : Document) : Except Fault Text :=
  if d.value.isWritable then .ok (Form.ofDocument d).toText else .error .unwritable

/-- YAML as it is read and written here. -/
def library : Library where
  load t := (read t).mapError Fault.toFailure
  dump d := (write d).mapError Fault.toFailure

end Substitute.Yaml
