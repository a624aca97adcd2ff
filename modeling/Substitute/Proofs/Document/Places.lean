import Mathlib.Data.List.GetD
import Mathlib.Data.List.Nodup
import Mathlib.Data.List.Range
import Substitute.Proofs.Document.Unfolding

/-!
# Where the parts of a document stand

A part may stand in several places of a document, and a mapping may hold itself. In the document of a plain value neither happens: every part but the whole stands in one place, and parts stand behind what they refer to.
-/

namespace Substitute.Store

variable {s t u : Store} {r x x' y value : Ref}

def IsMapping (s : Store) (r : Ref) : Prop :=
  ∃ entries, s.part r = .map entries

/-- A store whose parts refer to its own places only. -/
def Closed (s : Store) : Prop :=
  ∀ x, ∀ y ∈ (s.part x).refs, y < s.length

/-- No mapping at or below one place is at or below another. -/
def Apart (s : Store) (r other : Ref) : Prop :=
  ∀ m, s.IsMapping m → s.Reaches r m → ¬ s.Reaches other m

/-- No mapping at or below a place holds itself, however deep. -/
def Unringed (s : Store) (r : Ref) : Prop :=
  ∀ m, s.Reaches r m → s.IsMapping m → ∀ x, s.Reaches m x → m ∉ (s.part x).refs

/-- Every mapping below a place stands in one place only. -/
structure Unshared (s : Store) (r : Ref) : Prop where
  parent {m x y : Ref} (hmap : s.IsMapping m) (hx : s.Reaches r x) (hy : s.Reaches r y)
    (hmx : m ∈ (s.part x).refs) (hmy : m ∈ (s.part y).refs) : x = y
  once {m x : Ref} (hmap : s.IsMapping m) (hx : s.Reaches r x) : (s.part x).refs.count m ≤ 1

theorem Unringed.below (h : s.Unringed r) (hx : x ∈ (s.part r).refs) : s.Unringed x :=
  fun m hm => h m (hm.head hx)

theorem Unshared.below (h : s.Unshared r) (hx : x ∈ (s.part r).refs) : s.Unshared x where
  parent hmap hy hz := h.parent hmap (hy.head hx) (hz.head hx)
  once hmap hy := h.once hmap (hy.head hx)

theorem Unringed.not_reaches (h : s.Unringed r) (hmap : s.IsMapping r) (hx : x ∈ (s.part r).refs) :
    ¬ s.Reaches x r := by
  intro hreaches
  obtain rfl | ⟨y, hy, hr⟩ := hreaches.cases_tail
  · exact h r .refl hmap r .refl hx
  · exact h r .refl hmap y (hy.head hx) hr

theorem reaches_of_empty (hempty : s.part r = .map []) (h : s.Reaches r x) : x = r := by
  obtain rfl | ⟨y, hy, -⟩ := h.cases_head
  · rfl
  · rw [hempty] at hy
    exact absurd hy List.not_mem_nil

theorem Closed.reaches_lt (hclosed : s.Closed) (hr : r < s.length) (h : s.Reaches r x) :
    x < s.length := by
  induction h with
  | refl => exact hr
  | tail _ hx _ => exact hclosed _ _ hx

theorem part_append_of_lt (h : x < s.length) (more : Store) : part (s ++ more) x = s.part x := by
  rw [part, part, List.getD_eq_getElem?_getD, List.getD_eq_getElem?_getD,
    List.getElem?_append_left h]

theorem part_concat_self (s : Store) (p : Part) : part (s ++ [p]) s.length = p := by
  rw [part, List.getD_eq_getElem?_getD, List.getElem?_concat_length]
  rfl

theorem part_concat_of_lt (h : s.length < x) (p : Part) : part (s ++ [p]) x = .atom .null := by
  refine part_of_length_le ?_
  rw [List.length_append]
  exact h

theorem IsMapping.lt (h : s.IsMapping r) : r < s.length := by
  obtain ⟨entries, hpart⟩ := h
  refine lt_of_isCollection ?_
  rw [hpart]
  rfl

/-! ### Stores whose parts stand behind what they refer to -/

/-- Every part refers to places before its own, and no place is referred to twice. -/
def IsForest (s : Store) : Prop :=
  (∀ x < s.length, ∀ y ∈ (s.part x).refs, y < x) ∧ (s.flatMap Part.refs).Nodup

private theorem exists_getElem (hy : y ∈ (s.part x).refs) : ∃ hlt : x < s.length, s.part x = s[x] := by
  by_cases hlt : x < s.length
  · exact ⟨hlt, List.getD_eq_getElem s _ hlt⟩
  · rw [part_of_length_le (Nat.le_of_not_lt hlt)] at hy
    exact absurd hy List.not_mem_nil

private theorem mem_flatMap_refs (hy : y ∈ (s.part x).refs) : y ∈ s.flatMap Part.refs := by
  obtain ⟨hlt, hpart⟩ := exists_getElem hy
  rw [hpart] at hy
  exact List.mem_flatMap.mpr ⟨_, List.getElem_mem hlt, hy⟩

theorem IsForest.lt (h : s.IsForest) (hy : y ∈ (s.part x).refs) : y < x :=
  h.1 x (exists_getElem hy).1 y hy

theorem IsForest.closed (h : s.IsForest) : s.Closed :=
  fun _ _ hy => Nat.lt_trans (h.lt hy) (exists_getElem hy).1

theorem IsForest.unringed (h : s.IsForest) (r : Ref) : s.Unringed r := by
  intro m _ _ x hx hm
  have hle : x ≤ m := by
    clear hm
    induction hx with
    | refl => exact Nat.le_refl m
    | tail _ hy ih => exact Nat.le_of_lt (Nat.lt_of_lt_of_le (h.lt hy) ih)
  exact Nat.lt_irrefl m (Nat.lt_of_lt_of_le (h.lt hm) hle)

theorem IsForest.parent (h : s.IsForest) (hx : y ∈ (s.part x).refs) (hx' : y ∈ (s.part x').refs) :
    x = x' := by
  obtain ⟨hlt, hpart⟩ := exists_getElem hx
  obtain ⟨hlt', hpart'⟩ := exists_getElem hx'
  rw [hpart] at hx
  rw [hpart'] at hx'
  have hdisjoint := List.pairwise_iff_getElem.mp (List.nodup_flatMap.mp h.2).2
  obtain hless | hsame | hless := Nat.lt_trichotomy x x'
  · exact absurd hx' (hdisjoint x x' hlt hlt' hless hx)
  · exact hsame
  · exact absurd hx (hdisjoint x' x hlt' hlt hless hx')

theorem IsForest.unshared (h : s.IsForest) (r : Ref) : s.Unshared r where
  parent _ _ _ hx hy := h.parent hx hy
  once {m x} _ _ := by
    by_cases hmem : m ∈ (s.part x).refs
    · obtain ⟨hlt, hpart⟩ := exists_getElem hmem
      rw [hpart]
      exact List.nodup_iff_count_le_one.mp ((List.nodup_flatMap.mp h.2).1 _ (List.getElem_mem hlt)) m
    · exact Nat.le_trans (Nat.le_of_eq (List.count_eq_zero.mpr hmem)) (Nat.zero_le 1)

theorem IsForest.apart (h : s.IsForest) (hne : r ≠ value) (hr : r ∉ s.flatMap Part.refs)
    (hvalue : value ∉ s.flatMap Part.refs) : s.Apart r value := by
  intro m hmap hm hm'
  clear hmap
  induction hm with
  | refl =>
    obtain heq | ⟨y, -, hy⟩ := hm'.cases_tail
    · exact hne heq
    · exact hr (mem_flatMap_refs hy)
  | tail _ hmem ih =>
    obtain rfl | ⟨y, hy, hmem'⟩ := hm'.cases_tail
    · exact hvalue (mem_flatMap_refs hmem)
    · obtain rfl := h.parent hmem hmem'
      exact ih hy

/-! ### The parts of a value -/

/-- What a store has become by parts that were added behind it. Each of them stands in one place among them, but for some that stand in none yet. -/
structure Planted (s t : Store) (tops : List Ref) : Prop where
  added : ∃ new : Store, t = s ++ new ∧
    (tops ++ new.flatMap Part.refs).Perm (List.range' s.length new.length)
  behind : ∀ x, s.length ≤ x → ∀ y ∈ (t.part x).refs, y < x

theorem Planted.nil (s : Store) : s.Planted s [] where
  added := ⟨[], by simp, .refl _⟩
  behind x hx y hy := by
    rw [part_of_length_le hx] at hy
    exact absurd hy List.not_mem_nil

theorem Planted.append {tops tops' : List Ref} (h : s.Planted t tops) (h' : t.Planted u tops') :
    s.Planted u (tops ++ tops') := by
  obtain ⟨new, rfl, honce⟩ := h.added
  obtain ⟨more, rfl, honce'⟩ := h'.added
  refine ⟨⟨new ++ more, List.append_assoc .., ?_⟩, fun x hx y hy => ?_⟩
  · rw [List.length_append] at honce'
    rw [List.flatMap_append, List.length_append, ← List.range'_append_1]
    refine List.Perm.trans ?_ (honce.append honce')
    simp only [List.append_assoc]
    exact (List.perm_append_comm_assoc ..).append_left tops
  · by_cases hlt : x < (s ++ new).length
    · rw [part_append_of_lt hlt] at hy
      exact h.behind x hx y hy
    · exact h'.behind x (Nat.le_of_not_lt hlt) y hy

theorem Planted.add {p : Part} (h : s.Planted t p.refs) : s.Planted (t.add p).2 [(t.add p).1] := by
  obtain ⟨new, rfl, honce⟩ := h.added
  have hlength : (s ++ new).length = s.length + new.length := List.length_append
  refine ⟨⟨new ++ [p], List.append_assoc .., ?_⟩, fun x hx y hy => ?_⟩
  · rw [List.flatMap_append, List.flatMap_singleton, List.length_append, List.length_singleton,
      List.range'_1_concat, ← hlength]
    exact List.perm_append_comm.trans ((List.perm_append_comm.trans honce).append_right _)
  · obtain hlt | rfl | hlt := Nat.lt_trichotomy x (s ++ new).length
    · rw [Store.add, part_append_of_lt hlt] at hy
      exact h.behind x hx y hy
    · rw [Store.add, part_concat_self] at hy
      have hmem := honce.subset (List.mem_append_left _ hy)
      rw [hlength]
      exact (List.mem_range'_1.mp hmem).2
    · rw [Store.add, part_concat_of_lt hlt] at hy
      exact absurd hy List.not_mem_nil

mutual

theorem planted_addValue (s : Store) :
    (v : Value) → s.Planted (addValue s v).2 [(addValue s v).1]
  | .list items => Planted.add (p := .list _) (planted_addValues s items)
  | .tuple items => Planted.add (p := .tuple _) (planted_addValues s items)
  | .set members => Planted.add (p := .set _) (planted_addValues s members)
  | .map entries => Planted.add (p := .map _) (planted_addEntries s entries)
  | .null | .bool _ | .int _ | .float _ | .text _ | .bytes _ | .date _ | .moment _ | .again _ =>
    Planted.add (p := .atom _) (.nil s)

theorem planted_addValues (s : Store) :
    (items : List Value) → s.Planted (addValues s items).2 (addValues s items).1
  | [] => .nil s
  | v :: rest => (planted_addValue s v).append (planted_addValues _ rest)

theorem planted_addEntries (s : Store) :
    (entries : List (Value × Value)) →
      s.Planted (addEntries s entries).2 (Part.map (addEntries s entries).1).refs
  | [] => .nil s
  | (k, v) :: rest =>
    (planted_addValue s k).append ((planted_addValue _ v).append (planted_addEntries _ rest))

end

theorem Planted.isForest {tops : List Ref} (h : Planted [] s tops) : s.IsForest := by
  obtain ⟨new, rfl, honce⟩ := h.added
  refine ⟨fun x _ => h.behind x (Nat.zero_le x), ?_⟩
  exact (honce.nodup_iff.mpr List.nodup_range').of_append_right

/-- The document of a plain value is a tree. -/
theorem isForest_ofValue (v : Value) : (Document.ofValue v).parts.IsForest :=
  (planted_addValue [] v).isForest

end Substitute.Store
