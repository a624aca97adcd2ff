import Substitute.Value.Merge

/-!
# Copies

A copy of a value has the same entries and items in the same order. The members of a set are gathered anew in the copy, and may come out in another order there. Mappings are laid over one another as copies: `Entries.merge` says what comes of it, and `Entries.deepMerge` says it with the order of members that the copies leave.
-/

namespace Substitute

/-- The order in which a walk meets the members of a set that was gathered from a list. -/
structure SetOrder where
  order : List Value → List Value
  perm : ∀ members, (order members).Perm members

mutual

def Value.copied (sets : SetOrder) : Value → Value
  | .list items => .list (copiedItems sets items)
  | .tuple items => .tuple (copiedItems sets items)
  | .set members => .set (sets.order members)
  | .map entries => .map (copiedEntries sets entries)
  | v => v

def copiedItems (sets : SetOrder) : List Value → List Value
  | [] => []
  | v :: rest => v.copied sets :: copiedItems sets rest

def copiedEntries (sets : SetOrder) : List (Value × Value) → Entries
  | [] => []
  | (k, v) :: rest => (k, v.copied sets) :: copiedEntries sets rest

end

mutual

/-- The copy of a value, laid over what was there before. -/
def Value.copiedOver (sets : SetOrder) (below : Option Value) : Value → Value
  | .map entries =>
    match below with
    | some (.map base) => .map (Entries.mergeOnto sets (copiedEntries sets base) entries)
    | _ => .map (copiedEntries sets entries)
  | v => v.copied sets

/-- The entries of a copy with copies of the given entries laid over them. -/
def Entries.mergeOnto (sets : SetOrder) (copy : Entries) : List (Value × Value) → Entries
  | [] => copy
  | (k, v) :: rest =>
    Entries.mergeOnto sets (copy.put k (Value.copiedOver sets (copy.get? k) v)) rest

end

/-- A copy of a mapping with a copy of another laid over it. -/
def Entries.deepMerge (sets : SetOrder) (base entries : Entries) : Entries :=
  Entries.mergeOnto sets (copiedEntries sets base) entries

end Substitute
