import Substitute.Document.Basic

/-!
# Dotted keys

A dotted key names a place in nested mappings: `a.b` is what the mapping under `a` holds under `b`. Components may be empty, and a key always has at least one.
-/

namespace Substitute

def keyPath (key : Text) : List Text :=
  Text.cutAt '.' key

namespace Store

/-- What stands at the end of a path; nothing when a component is missing or the path runs through no mapping. -/
def at? (s : Store) : List Text → Ref → Option Ref
  | [], r => some r
  | name :: path, r => (s.get? r name).bind (s.at? path)

def lookup (s : Store) (r : Ref) (key : Text) : Option Ref :=
  s.at? (keyPath key) r

/-- The mapping that a mapping holds under a name. Where there is none, an empty one is put there. -/
def enter (s : Store) (r : Ref) (name : Text) : Ref × Store :=
  match (s.get? r name).filter fun child => (s.entries? child).isSome with
  | some child => (child, s)
  | none => (s.length, put (s ++ [Part.map []]) r name s.length)

/-- Makes the mapping at the end of a path hold something under the last component. -/
def assignAt (value : Ref) : List Text → Ref → Store → Store
  | [], _, s => s
  | [name], r, s => s.put r name value
  | name :: path, r, s =>
    let (child, s) := s.enter r name
    assignAt value path child s

/-- Stores something at a dotted key of a mapping. Missing parents become mappings, and so do parents that are none. -/
def assign (s : Store) (r : Ref) (key : Text) (value : Ref) : Store :=
  assignAt value (keyPath key) r s

end Store

namespace Document

def lookup? (d : Document) (key : Text) : Option Document :=
  (d.parts.lookup d.root key).map fun root => { d with root }

def named (d : Document) (name : Text) : Document where
  parts := d.parts ++ [Part.atom (.text name), Part.map [(d.parts.length, d.root)]]
  root := d.parts.length + 1

def isNull (d : Document) : Bool :=
  match d.parts.part d.root with
  | .atom .null => true
  | _ => false

/-- Stores a document at a dotted key. -/
def assign (d : Document) (key : Text) (typed : Document) : Document :=
  let (value, parts) := d.parts.adopt typed
  { d with parts := parts.assign d.root key value }

end Document

end Substitute
