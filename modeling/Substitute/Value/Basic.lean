import Substitute.Number.Binary64

/-!
# Configuration values

The values a configuration can hold. A mapping is a list of entries in the order they were first written, with at most one entry for a key; keys are equal when they are equal as numbers, so `1`, `1.0` and `true` are one key. The members of a set stand in the order in which a walk through it meets them.
-/

namespace Substitute

structure Date where
  year : Nat
  month : Nat
  day : Nat
deriving DecidableEq, Repr

/-- A time of day on a date, with the offset from universal time in minutes when it is known. -/
structure Moment where
  date : Date
  hour : Nat
  minute : Nat
  second : Nat
  microsecond : Nat
  offset : Option Int
deriving DecidableEq, Repr

/-- A collection that can hold itself. -/
inductive Ring where
  | list
  | tuple
  | map
deriving DecidableEq, Repr

inductive Value where
  | null
  | bool (b : Bool)
  | int (n : Int)
  | float (x : Binary64)
  | text (t : Text)
  | bytes (bs : List Nat)
  | date (d : Date)
  | moment (m : Moment)
  | list (items : List Value)
  | tuple (items : List Value)
  | set (items : List Value)
  | map (entries : List (Value × Value))
  /-- A collection met again on the way through what it holds. -/
  | again (ring : Ring)

abbrev Entries := List (Value × Value)

instance : Inhabited Value := ⟨.null⟩

namespace Date

def isLeap (year : Nat) : Bool :=
  year % 4 == 0 && (year % 100 != 0 || year % 400 == 0)

def daysIn (year month : Nat) : Nat :=
  if month == 2 then if isLeap year then 29 else 28
  else if [4, 6, 9, 11].contains month then 30
  else 31

/-- The number of days before a date since the first day of year one. -/
def ordinal (d : Date) : Nat :=
  let years := d.year - 1
  years * 365 + years / 4 - years / 100 + years / 400 +
    (List.range (d.month - 1)).foldl (fun days m => days + daysIn d.year (m + 1)) 0 + d.day

end Date

namespace Moment

/-- Microseconds since the first day of year one, universal time where the offset is known. -/
def instant (m : Moment) : Int :=
  ((((m.date.ordinal * 24 + m.hour) * 60 + m.minute : Nat) - m.offset.getD 0) * 60 + m.second) *
    1000000 + m.microsecond

/-- Whether two moments are the same; a known offset never equals an unknown one. -/
def same (m n : Moment) : Bool :=
  m.offset.isSome == n.offset.isSome && m.instant == n.instant

end Moment

namespace Value

/-- The integer a value counts as among numbers. -/
def asInt? : Value → Option Int
  | bool b => some (if b then 1 else 0)
  | int n => some n
  | _ => none

mutual

/-- Whether two values are the same key. Numbers compare by value, tuples item by item, and other collections are no keys. -/
def sameKey : Value → Value → Bool
  | null, null => true
  | text s, text t => s == t
  | bytes s, bytes t => s == t
  | date d, date e => d == e
  | moment m, moment n => m.same n
  | tuple vs, tuple ws => sameKeys vs ws
  | float x, float y => x.numEq y
  | float x, v => match v.asInt? with | some n => x.eqInt n | none => false
  | v, float x => match v.asInt? with | some n => x.eqInt n | none => false
  | v, w => match v.asInt?, w.asInt? with | some m, some n => m == n | _, _ => false

def sameKeys : List Value → List Value → Bool
  | [], [] => true
  | v :: vs, w :: ws => sameKey v w && sameKeys vs ws
  | _, _ => false

end

/-- Whether a value counts as true: empty collections, zeros and null do not. -/
def isTruthy : Value → Bool
  | null => false
  | bool b => b
  | int n => n != 0
  | float x => !x.isZero
  | text t => !t.isEmpty
  | bytes bs => !bs.isEmpty
  | date _ => true
  | moment _ => true
  | list items => !items.isEmpty
  | tuple items => !items.isEmpty
  | set items => !items.isEmpty
  | map entries => !entries.isEmpty
  | again _ => true

def kind : Value → Text
  | null => "NoneType"
  | bool _ => "bool"
  | int _ => "int"
  | float _ => "float"
  | text _ => "str"
  | bytes _ => "bytes"
  | date _ => "datetime.date"
  | moment _ => "datetime.datetime"
  | list _ | again .list => "list"
  | tuple _ | again .tuple => "tuple"
  | set _ => "set"
  | map _ | again .map => "dict"

mutual

def isHashable : Value → Bool
  | list _ | set _ | map _ | again _ => false
  | tuple items => areHashable items
  | _ => true

def areHashable : List Value → Bool
  | [] => true
  | v :: rest => isHashable v && areHashable rest

end

mutual

/-- The kind of the part of a value that keeps it from being a key. -/
def unhashableKind : Value → Text
  | tuple items => unhashableKindAmong items
  | v => v.kind

def unhashableKindAmong : List Value → Text
  | [] => []
  | v :: rest => if v.isHashable then unhashableKindAmong rest else unhashableKind v

end

end Value

namespace Entries

def get? (entries : Entries) (key : Value) : Option Value :=
  (entries.find? fun entry => entry.1.sameKey key).map Prod.snd

/-- Stores a value under a key: in place when the key is there, else at the end. -/
def put : Entries → Value → Value → Entries
  | [], key, value => [(key, value)]
  | (k, v) :: rest, key, value =>
    if k.sameKey key then (k, value) :: rest else (k, v) :: put rest key value

/-- Builds a mapping entry by entry; a repeated key keeps its place and takes the last value. -/
def ofList (pairs : List (Value × Value)) : Entries :=
  pairs.foldl (fun entries pair => put entries pair.1 pair.2) []

end Entries

namespace Value

def insertMember (members : List Value) (v : Value) : List Value :=
  if members.any (·.sameKey v) then members else members ++ [v]

mutual

/-- Whether two values are equal. The order of a mapping or a set does not matter, and not a number differs from itself. -/
def same : Value → Value → Bool
  | list xs, list ys => sameItems xs ys
  | tuple xs, tuple ys => sameItems xs ys
  | set xs, set ys => xs.length == ys.length && xs.all fun x => ys.any (·.sameKey x)
  | map es, map fs => es.length == fs.length && sameEntries es fs
  | v, w => v.sameKey w

def sameItems : List Value → List Value → Bool
  | [], [] => true
  | x :: xs, y :: ys => same x y && sameItems xs ys
  | _, _ => false

/-- Whether each entry has an equal value under its key in the second mapping. -/
def sameEntries : List (Value × Value) → Entries → Bool
  | [], _ => true
  | (k, v) :: rest, fs =>
    (match fs.get? k with
      | some w => same v w
      | none => false) && sameEntries rest fs

end

end Value

end Substitute
