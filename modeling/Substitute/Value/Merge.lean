import Substitute.Value.Basic

/-!
# Laying one mapping over another

Where both sides hold a mapping under a key, the two are merged; anything else is replaced. The keys of the lower mapping keep their places and new keys follow in the order of the upper one.
-/

namespace Substitute

mutual

/-- The value that results when the second value is laid over what was there before. -/
def Value.over (below : Option Value) : Value → Value
  | .map entries =>
    match below with
    | some (.map base) => .map (Entries.merge base entries)
    | _ => .map entries
  | v => v

/-- The entries of `base` with the given entries laid over them. -/
def Entries.merge (base : Entries) : List (Value × Value) → Entries
  | [] => base
  | (k, v) :: rest => Entries.merge (base.put k (Value.over (base.get? k) v)) rest

end

end Substitute
