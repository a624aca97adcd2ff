import Substitute.Value.Basic

/-!
# Documents

What the program reads, changes and writes consists of parts that refer to one another by their places in a store. A part may stand in several places, and a collection may hold itself; a change to it shows wherever it stands.
-/

namespace Substitute

/-- The place of a part in a store. -/
abbrev Ref := Nat

/-- A value that is no collection, or a collection of parts. -/
inductive Part where
  | atom (v : Value)
  | list (items : List Ref)
  | tuple (items : List Ref)
  | set (members : List Ref)
  | map (entries : List (Ref × Ref))

abbrev Store := List Part

/-- The parts of something, and the one that stands for the whole. -/
structure Document where
  parts : Store
  root : Ref

namespace Part

/-- The places that a part refers to, each key before its value. -/
def refs : Part → List Ref
  | atom _ => []
  | list items | tuple items | set items => items
  | map entries => entries.flatMap fun e => [e.1, e.2]

def isCollection : Part → Bool
  | atom _ => false
  | _ => true

def mapRefs (f : Ref → Ref) : Part → Part
  | atom v => atom v
  | list items => list (items.map f)
  | tuple items => tuple (items.map f)
  | set members => set (members.map f)
  | map entries => map (entries.map fun e => (f e.1, f e.2))

/-- The value of a part, given the values at the places it refers to. -/
def filled (f : Ref → Value) : Part → Value
  | atom v => v
  | list items => .list (items.map f)
  | tuple items => .tuple (items.map f)
  | set members => .set (members.map f)
  | map entries => .map (entries.map fun e => (f e.1, f e.2))

/-- What stands for a part inside itself. No set holds itself. -/
def ringed : Part → Value
  | atom v => v
  | list _ => .again .list
  | tuple _ => .again .tuple
  | set _ => .set []
  | map _ => .again .map

end Part

namespace Store

/-- The part at a place; places outside the store hold null. -/
def part (s : Store) (r : Ref) : Part :=
  s.getD r (Part.atom .null)

def entries? (s : Store) (r : Ref) : Option (List (Ref × Ref)) :=
  match s.part r with
  | .map entries => some entries
  | _ => none

def isNamed (s : Store) (name : Text) (r : Ref) : Bool :=
  match s.part r with
  | .atom v => v.sameKey (.text name)
  | _ => false

def get? (s : Store) (r : Ref) (name : Text) : Option Ref :=
  (s.entries? r).bind fun entries =>
    (entries.find? fun e => s.isNamed name e.1).map Prod.snd

/-- Makes a mapping hold something under a name: in place when the name is there, else at the end. -/
def put (s : Store) (r : Ref) (name : Text) (value : Ref) : Store :=
  match s.entries? r with
  | none => s
  | some entries =>
    if entries.any fun e => s.isNamed name e.1 then
      s.set r (.map (entries.map fun e => if s.isNamed name e.1 then (e.1, value) else e))
    else (s ++ [Part.atom (.text name)]).set r (.map (entries ++ [(s.length, value)]))

/-- Takes the parts of a document into a store. -/
def adopt (s : Store) (d : Document) : Ref × Store :=
  (d.root + s.length, s ++ d.parts.map (Part.mapRefs (· + s.length)))

def add (s : Store) (p : Part) : Ref × Store :=
  (s.length, s ++ [p])

mutual

/-- Takes a value into a store, every collection of it as a part of its own. -/
def addValue (s : Store) : Value → Ref × Store
  | .list items => let (refs, s) := addValues s items; add s (.list refs)
  | .tuple items => let (refs, s) := addValues s items; add s (.tuple refs)
  | .set members => let (refs, s) := addValues s members; add s (.set refs)
  | .map entries => let (refs, s) := addEntries s entries; add s (.map refs)
  | v => add s (.atom v)

def addValues (s : Store) : List Value → List Ref × Store
  | [] => ([], s)
  | v :: rest =>
    let (ref, s) := addValue s v
    let (refs, s) := addValues s rest
    (ref :: refs, s)

def addEntries (s : Store) : List (Value × Value) → List (Ref × Ref) × Store
  | [] => ([], s)
  | (k, v) :: rest =>
    let (key, s) := addValue s k
    let (value, s) := addValue s v
    let (refs, s) := addEntries s rest
    ((key, value) :: refs, s)

end

/-- The value at a place. A collection met again below itself is not entered again; what lies less than `fresh` levels below the place counts as met for the first time. -/
def unfold (s : Store) : Nat → Nat → List Ref → Ref → Value
  | 0, _, _, _ => .null
  | fuel + 1, fresh, around, r =>
    if around.contains r then (s.part r).ringed
    else (s.part r).filled (s.unfold fuel (fresh - 1) (if fresh = 0 then r :: around else []))

/-- The value at a place, with as much fuel as its parts can take. -/
def value (s : Store) (fresh : Nat) (r : Ref) : Value :=
  s.unfold (fresh + s.length + 1) fresh [] r

end Store

namespace Document

def ofValue (v : Value) : Document :=
  let (root, parts) := Store.addValue [] v
  { parts, root }

def value (d : Document) : Value :=
  d.parts.value 0 d.root

def empty : Document :=
  { parts := [.map []], root := 0 }

def isMapping (d : Document) : Bool :=
  (d.parts.entries? d.root).isSome

end Document

end Substitute
