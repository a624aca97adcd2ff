import Mathlib.Data.Multiset.Basic
import Substitute.Proofs.Value.Absorbing
import Substitute.Value.Copying

/-!
# Values up to the order of sets

A set has its members in no order, but a walk through it meets them in one, and a copy of the set may have them in another. Values that differ in no more than that have the same unordered value. A value and its copies have, and laying mappings over one another comes to the same for them.
-/

namespace Substitute

namespace Value

mutual

/-- The value with the members of every set in an order that depends on the members only. -/
noncomputable def unordered : Value → Value
  | list items => list (unorderedItems items)
  | tuple items => tuple (unorderedItems items)
  | set members => set (Multiset.ofList (unorderedItems members)).toList
  | map entries => map (unorderedEntries entries)
  | v => v

noncomputable def unorderedItems : List Value → List Value
  | [] => []
  | v :: rest => v.unordered :: unorderedItems rest

noncomputable def unorderedEntries : List (Value × Value) → Entries
  | [] => []
  | (k, v) :: rest => (k, v.unordered) :: unorderedEntries rest

end

theorem unorderedItems_eq (items : List Value) : unorderedItems items = items.map unordered := by
  induction items with
  | nil => rfl
  | cons v rest ih => rw [unorderedItems, ih, List.map_cons]

theorem unorderedEntries_eq (entries : Entries) :
    unorderedEntries entries = entries.map fun e => (e.1, e.2.unordered) := by
  induction entries with
  | nil => rfl
  | cons e rest ih => rw [unorderedEntries, ih, List.map_cons]

theorem unordered_set_congr {members others : List Value}
    (hperm : (members.map unordered).Perm (others.map unordered)) :
    (set members).unordered = (set others).unordered := by
  rw [unordered, unordered, unorderedItems_eq, unorderedItems_eq, Multiset.coe_eq_coe.mpr hperm]

theorem unordered_eq_map_iff {v : Value} {entries : Entries} :
    v.unordered = map entries ↔ ∃ es, v = map es ∧ unorderedEntries es = entries := by
  cases v <;> simp [unordered]

/-! ### Copies -/

mutual

@[simp] theorem unordered_copied (sets : SetOrder) : (v : Value) → (v.copied sets).unordered = v.unordered
  | list items => by rw [copied, unordered, unordered, unorderedItems_copied sets items]
  | tuple items => by rw [copied, unordered, unordered, unorderedItems_copied sets items]
  | set members => unordered_set_congr ((sets.perm members).map unordered)
  | map entries => by rw [copied, unordered, unordered, unorderedEntries_copied sets entries]
  | null | bool _ | int _ | float _ | text _ | bytes _ | date _ | moment _ | again _ => rfl

@[simp] theorem unorderedItems_copied (sets : SetOrder) :
    (items : List Value) → unorderedItems (copiedItems sets items) = unorderedItems items
  | [] => rfl
  | v :: rest => by
    rw [copiedItems, unorderedItems, unorderedItems, unordered_copied sets v,
      unorderedItems_copied sets rest]

@[simp] theorem unorderedEntries_copied (sets : SetOrder) :
    (entries : List (Value × Value)) →
      unorderedEntries (copiedEntries sets entries) = unorderedEntries entries
  | [] => rfl
  | (k, v) :: rest => by
    rw [copiedEntries, unorderedEntries, unorderedEntries, unordered_copied sets v,
      unorderedEntries_copied sets rest]

end

end Value

/-! ### Laying copies over one another -/

namespace Entries

open Value (unordered unorderedEntries)

@[simp] theorem get?_unorderedEntries (entries : Entries) (key : Value) :
    get? (unorderedEntries entries) key = (entries.get? key).map unordered := by
  rw [Value.unorderedEntries_eq]
  simp only [get?, List.find?_map, Option.map_map]
  rfl

@[simp] theorem unorderedEntries_put (entries : Entries) (key value : Value) :
    unorderedEntries (entries.put key value) = put (unorderedEntries entries) key value.unordered := by
  induction entries with
  | nil => rfl
  | cons e rest ih =>
    simp only [put, unorderedEntries]
    split
    · rfl
    · rw [unorderedEntries, ih]

end Entries

namespace Value

mutual

private theorem unordered_copiedOver (sets : SetOrder) (below : Option Value) :
    (v : Value) → (Value.copiedOver sets below v).unordered =
      Value.over (below.map unordered) v.unordered
  | map entries => by
    match below with
    | some (.map base) =>
      show Value.map (unorderedEntries (Entries.mergeOnto sets (copiedEntries sets base) entries)) = _
      rw [unorderedEntries_mergeOnto sets _ entries, unorderedEntries_copied]
      rfl
    | none | some .null | some (.bool _) | some (.int _) | some (.float _) | some (.text _)
    | some (.bytes _) | some (.date _) | some (.moment _) | some (.list _) | some (.tuple _)
    | some (.set _) | some (.again _) => exact unordered_copied sets (map entries)
  | list items => unordered_copied sets (list items)
  | tuple items => unordered_copied sets (tuple items)
  | set members => unordered_copied sets (set members)
  | null | bool _ | int _ | float _ | text _ | bytes _ | date _ | moment _ | again _ => rfl

theorem unorderedEntries_mergeOnto (sets : SetOrder) (copy : Entries) :
    (entries : List (Value × Value)) → unorderedEntries (Entries.mergeOnto sets copy entries) =
      Entries.merge (unorderedEntries copy) (unorderedEntries entries)
  | [] => rfl
  | (k, v) :: rest => by
    rw [Entries.mergeOnto, unorderedEntries_mergeOnto sets _ rest, Entries.unorderedEntries_put,
      unordered_copiedOver sets _ v, ← Entries.get?_unorderedEntries]
    rfl

end

variable {P Q : Value → Prop} {v : Value} {base entries : Entries} (sets : SetOrder)

theorem Keyed.unordered (h : v.Keyed P) : v.unordered.Keyed P := by
  induction h with
  | leaf hleaf =>
    refine .leaf fun entries hmap => ?_
    obtain ⟨es, rfl, -⟩ := unordered_eq_map_iff.mp hmap
    exact hleaf es rfl
  | @map entries keys distinct inside ih =>
    rw [Value.unordered, unorderedEntries_eq]
    exact .map (List.forall_mem_map.mpr keys) (List.pairwise_map.mpr distinct)
      (List.forall_mem_map.mpr ih)

theorem unordered_deepMerge (base entries : Entries) :
    (map (Entries.deepMerge sets base entries)).unordered =
      Value.over (some (map base).unordered) (map entries).unordered := by
  show map (unorderedEntries (Entries.mergeOnto sets (copiedEntries sets base) entries)) = _
  rw [unorderedEntries_mergeOnto, unorderedEntries_copied]
  rfl

/-- Laying a merged mapping over the lower one again changes nothing but the order in sets. -/
theorem Comparable.deepMerge_lower_again (h : Comparable P Q) (hbase : (map base).Keyed P)
    (hentries : (map entries).Keyed Q) :
    (map (Entries.deepMerge sets base (Entries.deepMerge sets base entries))).unordered =
      (map (Entries.deepMerge sets base entries)).unordered := by
  rw [unordered_deepMerge, unordered_deepMerge,
    h.over_lower_again hbase.unordered hentries.unordered]

/-- Laying the upper mapping over a merged one again changes nothing but the order in sets. -/
theorem Comparable.deepMerge_upper_again (h : Comparable P P) (hbase : (map base).Keyed P)
    (hentries : (map entries).Keyed P) :
    (map (Entries.deepMerge sets (Entries.deepMerge sets base entries) entries)).unordered =
      (map (Entries.deepMerge sets base entries)).unordered := by
  rw [unordered_deepMerge, unordered_deepMerge,
    h.over_upper_again hbase.unordered hentries.unordered]

end Value

end Substitute
