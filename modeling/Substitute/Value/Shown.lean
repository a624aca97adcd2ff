import Substitute.Value.Basic
import Substitute.Number.Shortest
import Substitute.Text.Quoted

/-!
# Values in messages

How a value reads inside a message. Shown on its own a text stands bare; inside a collection, or where a message quotes it, it stands between quotes. An integer with too many digits is not written at all.
-/

namespace Substitute

/-- The longest integer that is read or written in base ten, in digits. -/
def maxDigits : Nat := 4300

/-- The wording of an attempt to write a longer one. -/
def unwritableWording : Text :=
  "Exceeds the limit (4300 digits) for integer string conversion; use sys.set_int_max_str_digits() to increase the limit"

namespace Date

def toText (d : Date) : Text :=
  decimalPadded 4 d.year ++ '-' :: decimalPadded 2 d.month ++ '-' :: decimalPadded 2 d.day

def quoted (d : Date) : Text :=
  "datetime.date(" ++ decimal d.year ++ ", " ++ decimal d.month ++ ", " ++ decimal d.day ++ ")"

end Date

namespace Moment

/-- The offset from universal time as sign, hours and minutes. -/
def offsetText (minutes : Int) : Text :=
  (if minutes < 0 then '-' else '+') :: decimalPadded 2 (minutes.natAbs / 60) ++
    ':' :: decimalPadded 2 (minutes.natAbs % 60)

/-- Date and time of day with the given character between them. -/
def toText (between : Char) (m : Moment) : Text :=
  m.date.toText ++ between :: decimalPadded 2 m.hour ++ ':' :: decimalPadded 2 m.minute ++
    ':' :: decimalPadded 2 m.second ++
    (if m.microsecond = 0 then [] else '.' :: decimalPadded 6 m.microsecond) ++
    (match m.offset with
      | none => []
      | some minutes => offsetText minutes)

/-- A span of minutes as whole days and the seconds left over, which are never negative. -/
def spanQuoted (minutes : Int) : Text :=
  let days := Int.fdiv minutes 1440
  let seconds := Int.fmod minutes 1440 * 60
  let parts : List Text :=
    (if days = 0 then [] else ["days=" ++ decimalInt days]) ++
    (if seconds = 0 then [] else ["seconds=" ++ decimalInt seconds])
  "datetime.timedelta(" ++ (if parts.isEmpty then ("0" : Text) else List.intercalate ", " parts) ++ ")"

def offsetQuoted (minutes : Int) : Text :=
  if minutes = 0 then "datetime.timezone.utc"
  else "datetime.timezone(" ++ spanQuoted minutes ++ ")"

/-- The moment as a constructor call; zero seconds and microseconds at the end are left out. -/
def quoted (m : Moment) : Text :=
  let fields : List Nat := [m.date.year, m.date.month, m.date.day, m.hour, m.minute]
  let fine : List Nat :=
    if m.microsecond ≠ 0 then [m.second, m.microsecond]
    else if m.second ≠ 0 then [m.second]
    else []
  let zone : List Text := match m.offset with
    | none => []
    | some minutes => ["tzinfo=" ++ offsetQuoted minutes]
  "datetime.datetime(" ++ List.intercalate ", " ((fields ++ fine).map decimal ++ zone) ++ ")"

end Moment

namespace Value

mutual

/-- Whether no integer in a value has too many digits to be written. -/
def isWritable : Value → Bool
  | int n => (decimal n.natAbs).length ≤ maxDigits
  | list items => areWritable items
  | tuple items => areWritable items
  | set items => areWritable items
  | map entries => areEntriesWritable entries
  | _ => true

def areWritable : List Value → Bool
  | [] => true
  | v :: rest => isWritable v && areWritable rest

def areEntriesWritable : List (Value × Value) → Bool
  | [] => true
  | (k, v) :: rest => isWritable k && isWritable v && areEntriesWritable rest

end

mutual

def quoted : Value → Text
  | null => "None"
  | bool b => if b then "True" else "False"
  | int n => decimalInt n
  | float x => x.toText
  | text t => Substitute.quoted t
  | bytes bs => quotedBytes bs
  | date d => d.quoted
  | moment m => m.quoted
  | list items => '[' :: List.intercalate ", " (quotedItems items) ++ "]"
  | tuple [item] => '(' :: quoted item ++ ",)"
  | tuple items => '(' :: List.intercalate ", " (quotedItems items) ++ ")"
  | set items =>
    if items.isEmpty then "set()"
    else '\x7b' :: List.intercalate ", " (quotedItems items) ++ ['\x7d']
  | map entries => '\x7b' :: List.intercalate ", " (quotedEntries entries) ++ ['\x7d']
  | again .list => "[...]"
  | again .tuple => "(...)"
  | again .map => ['\x7b', '.', '.', '.', '\x7d']

def quotedItems : List Value → List Text
  | [] => []
  | v :: rest => quoted v :: quotedItems rest

def quotedEntries : List (Value × Value) → List Text
  | [] => []
  | (k, v) :: rest => (quoted k ++ ": " ++ quoted v) :: quotedEntries rest

end

def shown : Value → Text
  | text t => t
  | date d => d.toText
  | moment m => m.toText ' '
  | v => v.quoted

end Value

end Substitute
