import Substitute.Value.Basic

/-!
# When two values are one

Values that are equal as keys or as mappings can still be told apart: `1` from `true`, one order of entries from another. Whether two values are one and the same is decided part by part.
-/

namespace Substitute.Value

mutual

def identical : Value → Value → Bool
  | null, null => true
  | bool a, bool b => a == b
  | int m, int n => m == n
  | float x, float y => x == y
  | text s, text t => s == t
  | bytes s, bytes t => s == t
  | date d, date e => d == e
  | moment m, moment n => m == n
  | list xs, list ys => identicalItems xs ys
  | tuple xs, tuple ys => identicalItems xs ys
  | set xs, set ys => identicalItems xs ys
  | map es, map fs => identicalEntries es fs
  | again r, again q => r == q
  | _, _ => false

def identicalItems : List Value → List Value → Bool
  | [], [] => true
  | x :: xs, y :: ys => identical x y && identicalItems xs ys
  | _, _ => false

/-- Whether two mappings have the same entries in the same order. -/
def identicalEntries : List (Value × Value) → List (Value × Value) → Bool
  | [], [] => true
  | (k, v) :: es, (l, w) :: fs => identical k l && identical v w && identicalEntries es fs
  | _, _ => false

end

mutual

@[simp] theorem identical_iff : (v w : Value) → identical v w = true ↔ v = w
  | null, w | bool _, w | int _, w | float _, w | text _, w | bytes _, w | date _, w
  | moment _, w | again _, w => by
    cases w <;> simp [identical]
  | list xs, w => by
    cases w <;> simp [identical, identicalItems_iff xs]
  | tuple xs, w => by
    cases w <;> simp [identical, identicalItems_iff xs]
  | set xs, w => by
    cases w <;> simp [identical, identicalItems_iff xs]
  | map es, w => by
    cases w <;> simp [identical, identicalEntries_iff es]

@[simp] theorem identicalItems_iff : (xs ys : List Value) → identicalItems xs ys = true ↔ xs = ys
  | [], ys => by
    cases ys <;> simp [identicalItems]
  | x :: xs, ys => by
    cases ys <;> simp [identicalItems, identical_iff x, identicalItems_iff xs]

@[simp] theorem identicalEntries_iff :
    (es fs : List (Value × Value)) → identicalEntries es fs = true ↔ es = fs
  | [], fs => by
    cases fs <;> simp [identicalEntries]
  | (k, v) :: es, fs => by
    cases fs <;>
      simp [identicalEntries, identical_iff k, identical_iff v, identicalEntries_iff es,
        Prod.ext_iff]

end

instance : DecidableEq Value := fun v w => decidable_of_iff _ (identical_iff v w)

end Substitute.Value
