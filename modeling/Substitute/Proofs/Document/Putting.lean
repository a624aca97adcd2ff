import Mathlib.Data.List.Find
import Substitute.Document.Dotted
import Substitute.Proofs.Document.Places
import Substitute.Proofs.Value.Mapping

/-!
# Putting something into a mapping

What putting something under a name does to a store: the mapping holds it under that name and what it held under the others, and no other part changes. A name that is new is added as a part of its own.
-/

namespace Substitute.Store

variable {s t u : Store} {r x y child value later : Ref} {name other : Text}
  {entries : List (Ref × Ref)}

/-! ### Parts of a store -/

/-- A store that grew out of another: parts were added, and of the old ones mappings changed at most. -/
structure Grows (s t : Store) : Prop where
  length_le : s.length ≤ t.length
  kept : ∀ x < s.length, t.part x = s.part x ∨ s.IsMapping x ∧ t.IsMapping x

theorem isMapping_iff : s.IsMapping r ↔ (s.entries? r).isSome = true := by
  rw [IsMapping, entries?]
  cases s.part r <;> simp

theorem isNamed_iff : s.isNamed name x = true ↔ s.part x = .atom (.text name) := by
  rw [isNamed]
  cases s.part x <;> simp [Value.sameKey_text_iff]

theorem isNamed_of_isMapping (h : s.IsMapping x) (name : Text) : s.isNamed name x = false := by
  obtain ⟨entries, hpart⟩ := h
  rw [isNamed, hpart]

theorem part_set_of_ne (h : x ≠ r) (p : Part) : part (s.set r p) x = s.part x := by
  rw [part, part, List.getD_eq_getElem?_getD, List.getD_eq_getElem?_getD,
    List.getElem?_set_ne h.symm]

theorem part_set_self (h : r < s.length) (p : Part) : part (s.set r p) r = p := by
  rw [part, List.getD_eq_getElem?_getD, List.getElem?_set_self h]
  rfl

theorem Grows.refl (s : Store) : s.Grows s :=
  ⟨Nat.le_refl _, fun _ _ => .inl rfl⟩

theorem Grows.isMapping (h : s.Grows t) (hx : s.IsMapping x) : t.IsMapping x := by
  obtain hsame | ⟨-, hmap⟩ := h.kept x hx.lt
  · obtain ⟨entries, hpart⟩ := hx
    exact ⟨entries, hsame.trans hpart⟩
  · exact hmap

theorem Grows.trans (h : s.Grows t) (h' : t.Grows u) : s.Grows u := by
  refine ⟨Nat.le_trans h.length_le h'.length_le, fun x hx => ?_⟩
  obtain hsame | ⟨hold, hnew⟩ := h.kept x hx
  · obtain hsame' | ⟨hold', hnew'⟩ := h'.kept x (Nat.lt_of_lt_of_le hx h.length_le)
    · exact .inl (hsame'.trans hsame)
    · obtain ⟨entries, hpart⟩ := hold'
      exact .inr ⟨⟨entries, hsame.symm.trans hpart⟩, hnew'⟩
  · exact .inr ⟨hold, h'.isMapping hnew⟩

theorem grows_concat (s : Store) (p : Part) : s.Grows (s ++ [p]) := by
  refine ⟨?_, fun x hx => .inl (part_append_of_lt hx [p])⟩
  rw [List.length_append]
  exact Nat.le_add_right _ _

theorem Grows.isNamed (h : s.Grows t) (hx : x < s.length) (name : Text) :
    t.isNamed name x = s.isNamed name x := by
  obtain hsame | ⟨hold, hnew⟩ := h.kept x hx
  · rw [Store.isNamed, hsame, ← Store.isNamed]
  · rw [isNamed_of_isMapping hold, isNamed_of_isMapping hnew]

/-! ### Looking up -/

theorem get?_of_part (h : s.part r = .map entries) (name : Text) :
    s.get? r name = (entries.find? fun e => s.isNamed name e.1).map Prod.snd := by
  rw [get?, entries?, h]
  rfl

theorem get?_of_not_isMapping (h : ¬ s.IsMapping r) (name : Text) : s.get? r name = none := by
  rw [isMapping_iff, Bool.not_eq_true, Option.isSome_eq_false_iff, Option.isNone_iff_eq_none] at h
  rw [get?, h]
  rfl

theorem exists_entry_of_get? (h : s.get? r name = some x) :
    ∃ entries, s.part r = .map entries ∧ ∃ key, (key, x) ∈ entries ∧ s.isNamed name key = true := by
  by_cases hmap : s.IsMapping r
  · obtain ⟨entries, hpart⟩ := hmap
    rw [get?_of_part hpart] at h
    obtain ⟨⟨key, _⟩, hfound, rfl⟩ := Option.map_eq_some_iff.mp h
    have hnamed := List.find?_some hfound
    exact ⟨entries, hpart, key, List.mem_of_find?_eq_some hfound, hnamed⟩
  · rw [get?_of_not_isMapping hmap] at h
    exact nomatch h

theorem mem_refs_of_entry {key : Ref} (h : (key, x) ∈ entries) :
    key ∈ (Part.map entries).refs ∧ x ∈ (Part.map entries).refs :=
  ⟨List.mem_flatMap.mpr ⟨_, h, by simp⟩, List.mem_flatMap.mpr ⟨_, h, by simp⟩⟩

theorem mem_refs_of_get? (h : s.get? r name = some x) : x ∈ (s.part r).refs := by
  obtain ⟨entries, hpart, key, hmem, -⟩ := exists_entry_of_get? h
  rw [hpart]
  exact (mem_refs_of_entry hmem).2

theorem get?_congr (hpart : t.part r = s.part r)
    (hnames : ∀ x ∈ (s.part r).refs, t.isNamed name x = s.isNamed name x) :
    t.get? r name = s.get? r name := by
  by_cases hmap : s.IsMapping r
  · obtain ⟨entries, hentries⟩ := hmap
    rw [hentries] at hpart hnames
    rw [get?_of_part hpart, get?_of_part hentries]
    refine congrArg _ (List.find?_congr fun e he => ?_)
    exact hnames e.1 (mem_refs_of_entry he).1
  · have hmap' : ¬ t.IsMapping r := by
      rintro ⟨entries, hentries⟩
      exact hmap ⟨entries, hpart.symm.trans hentries⟩
    rw [get?_of_not_isMapping hmap, get?_of_not_isMapping hmap']

theorem Grows.get? (h : s.Grows t) (hclosed : s.Closed) (hpart : t.part r = s.part r) (name : Text) :
    t.get? r name = s.get? r name :=
  get?_congr hpart fun x hx => h.isNamed (hclosed r x hx) name

private theorem isNamed_eq_false_of_ne (hne : name ≠ other) (hnamed : s.isNamed other x = true) :
    s.isNamed name x = false := by
  refine Bool.eq_false_iff.mpr fun hboth => hne ?_
  rw [isNamed_iff] at hnamed hboth
  exact Value.text.inj (Part.atom.inj (hboth.symm.trans hnamed))

theorem forall_mem_refs_map {P : Ref → Prop} :
    (∀ y ∈ (Part.map entries).refs, P y) ↔ ∀ e ∈ entries, P e.1 ∧ P e.2 := by
  constructor
  · exact fun h e he => ⟨h e.1 (mem_refs_of_entry he).1, h e.2 (mem_refs_of_entry he).2⟩
  · intro h y hy
    obtain ⟨e, he, hy⟩ := List.mem_flatMap.mp hy
    obtain rfl | rfl : y = e.1 ∨ y = e.2 := by simpa using hy
    · exact (h e he).1
    · exact (h e he).2

theorem closed_concat {p : Part} (hclosed : s.Closed) (hp : ∀ y ∈ p.refs, y ≤ s.length) :
    Closed (s ++ [p]) := by
  intro x y hy
  rw [List.length_append, List.length_singleton, Nat.lt_succ_iff]
  obtain hx | rfl | hx := Nat.lt_trichotomy x s.length
  · rw [part_append_of_lt hx] at hy
    exact Nat.le_of_lt (hclosed x y hy)
  · rw [part_concat_self] at hy
    exact hp y hy
  · rw [part_concat_of_lt hx] at hy
    exact absurd hy List.not_mem_nil

theorem closed_set {p : Part} (hclosed : s.Closed) (hp : ∀ y ∈ p.refs, y < s.length) :
    Closed (s.set r p) := by
  intro x y hy
  rw [List.length_set]
  by_cases hx : x = r ∧ r < s.length
  · rw [hx.1, part_set_self hx.2] at hy
    exact hp y hy
  · have hsame : part (s.set r p) x = s.part x := by
      by_cases hne : x = r
      · rw [List.set_eq_of_length_le (Nat.le_of_not_lt fun hr => hx ⟨hne, hr⟩)]
      · exact part_set_of_ne hne p
    rw [hsame] at hy
    exact hclosed x y hy

/-! ### Putting -/

/-- Entries with another value where one has a name. -/
private def replaced (s : Store) (name : Text) (value : Ref) (entries : List (Ref × Ref)) :
    List (Ref × Ref) :=
  entries.map fun e => if s.isNamed name e.1 then (e.1, value) else e

private theorem put_of_named (hpart : s.part r = .map entries)
    (hnamed : ∃ e ∈ entries, s.isNamed name e.1 = true) :
    s.put r name value = s.set r (.map (replaced s name value entries)) := by
  rw [put, entries?, hpart]
  exact if_pos (List.any_eq_true.mpr hnamed)

private theorem put_of_new (hpart : s.part r = .map entries)
    (hnew : ∀ e ∈ entries, s.isNamed name e.1 = false) :
    s.put r name value =
      (s ++ [Part.atom (.text name)]).set r (.map (entries ++ [(s.length, value)])) := by
  rw [put, entries?, hpart]
  exact if_neg (by simpa using hnew)

private theorem put_cases (hmap : s.IsMapping r) (name : Text) (value : Ref) :
    ∃ entries, s.part r = .map entries ∧
      ((∃ e ∈ entries, s.isNamed name e.1 = true) ∧
          s.put r name value = s.set r (.map (replaced s name value entries)) ∨
        (∀ e ∈ entries, s.isNamed name e.1 = false) ∧ s.put r name value =
          (s ++ [Part.atom (.text name)]).set r (.map (entries ++ [(s.length, value)]))) := by
  obtain ⟨entries, hpart⟩ := hmap
  refine ⟨entries, hpart, ?_⟩
  by_cases hnamed : ∃ e ∈ entries, s.isNamed name e.1 = true
  · exact .inl ⟨hnamed, put_of_named hpart hnamed⟩
  · have hnew : ∀ e ∈ entries, s.isNamed name e.1 = false := by simpa using hnamed
    exact .inr ⟨hnew, put_of_new hpart hnew⟩

theorem part_put_of_ne (hmap : s.IsMapping r) (name : Text) (value : Ref) (hx : x < s.length)
    (hne : x ≠ r) : (s.put r name value).part x = s.part x := by
  obtain ⟨entries, -, ⟨-, hput⟩ | ⟨-, hput⟩⟩ := put_cases hmap name value
  · rw [hput, part_set_of_ne hne]
  · rw [hput, part_set_of_ne hne, part_append_of_lt hx]

private theorem part_put_length (hmap : s.IsMapping r) :
    part ((s ++ [Part.atom (.text name)]).set r (.map entries)) s.length = .atom (.text name) := by
  rw [part_set_of_ne hmap.lt.ne', part_concat_self]

private theorem lt_length_concat (hmap : s.IsMapping r) (p : Part) : r < (s ++ [p]).length := by
  rw [List.length_append]
  exact Nat.lt_add_right _ hmap.lt

theorem grows_put (hmap : s.IsMapping r) (name : Text) (value : Ref) :
    s.Grows (s.put r name value) := by
  refine ⟨?_, fun x hx => ?_⟩
  · obtain ⟨entries, -, ⟨-, hput⟩ | ⟨-, hput⟩⟩ := put_cases hmap name value
    · rw [hput, List.length_set]
    · rw [hput, List.length_set, List.length_append]
      exact Nat.le_add_right _ _
  · by_cases hne : x = r
    · subst hne
      refine .inr ⟨hmap, ?_⟩
      obtain ⟨entries, -, ⟨-, hput⟩ | ⟨-, hput⟩⟩ := put_cases hmap name value
      · exact ⟨_, by rw [hput, part_set_self hx]⟩
      · exact ⟨_, by rw [hput, part_set_self (lt_length_concat hmap _)]⟩
    · exact .inl (part_put_of_ne hmap name value hx hne)

theorem closed_put (hclosed : s.Closed) (hmap : s.IsMapping r) (hvalue : value < s.length)
    (name : Text) : (s.put r name value).Closed := by
  obtain ⟨entries, hpart, hput⟩ := put_cases hmap name value
  have hentries := forall_mem_refs_map.mp (hpart ▸ hclosed r)
  obtain ⟨-, hput⟩ | ⟨-, hput⟩ := hput
  · rw [hput]
    refine closed_set hclosed (forall_mem_refs_map.mpr (List.forall_mem_map.mpr fun e he => ?_))
    split
    · exact ⟨(hentries e he).1, hvalue⟩
    · exact hentries e he
  · rw [hput]
    refine closed_set (closed_concat hclosed nofun) (forall_mem_refs_map.mpr ?_)
    rw [List.length_append, List.length_singleton]
    refine List.forall_mem_append.mpr ⟨fun e he => ?_, ?_⟩
    · exact ⟨Nat.lt_succ_of_lt (hentries e he).1, Nat.lt_succ_of_lt (hentries e he).2⟩
    · simpa using Nat.lt_succ_of_lt hvalue

private theorem isNamed_put (hclosed : s.Closed) (hmap : s.IsMapping r) (name other : Text)
    (value : Ref) (hpart : s.part r = .map entries) :
    ∀ e ∈ entries, (s.put r name value).isNamed other e.1 = s.isNamed other e.1 := by
  intro e he
  refine (grows_put hmap name value).isNamed (hclosed r _ ?_) other
  rw [hpart]
  exact (mem_refs_of_entry he).1

private theorem part_put_of_named (hpart : s.part r = .map entries)
    (hnamed : ∃ e ∈ entries, s.isNamed name e.1 = true) :
    (s.put r name value).part r = .map (replaced s name value entries) := by
  rw [put_of_named hpart hnamed, part_set_self (IsMapping.lt ⟨entries, hpart⟩)]

private theorem part_put_of_new (hpart : s.part r = .map entries)
    (hnew : ∀ e ∈ entries, s.isNamed name e.1 = false) :
    (s.put r name value).part r = .map (entries ++ [(s.length, value)]) := by
  rw [put_of_new hpart hnew, part_set_self (lt_length_concat ⟨entries, hpart⟩ _)]

private theorem isNamed_put_length (hpart : s.part r = .map entries)
    (hnew : ∀ e ∈ entries, s.isNamed name e.1 = false) (other : Text) :
    (s.put r name value).isNamed other s.length = decide (name = other) := by
  rw [put_of_new hpart hnew, isNamed, part_put_length ⟨entries, hpart⟩, Bool.eq_iff_iff,
    Value.text_sameKey_iff, decide_eq_true_iff, Value.text.injEq, eq_comm]

private theorem get?_put_of_named (hclosed : s.Closed) (hpart : s.part r = .map entries)
    (hnamed : ∃ e ∈ entries, s.isNamed name e.1 = true) (other : Text) (value : Ref) :
    (s.put r name value).get? r other = if name = other then some value else s.get? r other := by
  have hnames := isNamed_put hclosed ⟨entries, hpart⟩ name other value hpart
  have hfind : (entries.find? fun e =>
      (s.put r name value).isNamed other (if s.isNamed name e.1 then (e.1, value) else e).1) =
        entries.find? fun e => s.isNamed other e.1 := by
    refine List.find?_congr fun e he => ?_
    rw [← hnames e he]
    split <;> rfl
  rw [get?_of_part hpart, get?_of_part (part_put_of_named hpart hnamed), replaced, List.find?_map]
  simp only [Function.comp_def, hfind, Option.map_map]
  split
  · rename_i hname
    subst hname
    obtain ⟨e, he⟩ := Option.isSome_iff_exists.mp (List.find?_isSome.mpr hnamed)
    rw [he, Option.map_some, if_pos (List.find?_some he)]
  · rename_i hname
    cases hfound : entries.find? fun e => s.isNamed other e.1 with
    | none => rfl
    | some e =>
      have hother := List.find?_some hfound
      rw [Option.map_some, Option.map_some, isNamed_eq_false_of_ne hname hother]
      rfl

private theorem get?_put_of_new (hclosed : s.Closed) (hpart : s.part r = .map entries)
    (hnew : ∀ e ∈ entries, s.isNamed name e.1 = false) (other : Text) (value : Ref) :
    (s.put r name value).get? r other = if name = other then some value else s.get? r other := by
  have hnames := isNamed_put hclosed ⟨entries, hpart⟩ name other value hpart
  rw [get?_of_part hpart, get?_of_part (part_put_of_new hpart hnew), List.find?_append,
    List.find?_congr hnames, List.find?_singleton, isNamed_put_length hpart hnew]
  by_cases hname : name = other
  · subst hname
    rw [List.find?_eq_none.mpr (by simpa using hnew)]
    simp
  · simp [hname]

theorem get?_put (hclosed : s.Closed) (hmap : s.IsMapping r) (name other : Text) (value : Ref) :
    (s.put r name value).get? r other = if name = other then some value else s.get? r other := by
  obtain ⟨entries, hpart, ⟨hnamed, -⟩ | ⟨hnew, -⟩⟩ := put_cases hmap name value
  · exact get?_put_of_named hclosed hpart hnamed other value
  · exact get?_put_of_new hclosed hpart hnew other value

private theorem replaced_replaced
    (hnames : ∀ e ∈ entries, t.isNamed name e.1 = s.isNamed name e.1) :
    replaced t name later (replaced s name value entries) = replaced s name later entries := by
  rw [replaced, replaced, List.map_map, replaced]
  refine List.map_congr_left fun e he => ?_
  rw [Function.comp_apply]
  by_cases hnamed : s.isNamed name e.1 = true
  · rw [if_pos hnamed, if_pos hnamed, if_pos ((hnames e he).trans hnamed)]
  · rw [if_neg hnamed, if_neg hnamed, if_neg ((hnames e he).symm ▸ hnamed)]

@[simp] theorem put_put (hclosed : s.Closed) (hmap : s.IsMapping r) (name : Text) (value later : Ref) :
    (s.put r name value).put r name later = s.put r name later := by
  obtain ⟨entries, hpart, hput⟩ := put_cases hmap name value
  have hnames := isNamed_put hclosed hmap name name value hpart
  obtain ⟨hnamed, hput⟩ | ⟨hnew, hput⟩ := hput
  · have hnamed' : ∃ e ∈ replaced s name value entries,
        (s.put r name value).isNamed name e.1 = true := by
      obtain ⟨e, he, hname⟩ := hnamed
      refine ⟨_, List.mem_map_of_mem he, ?_⟩
      rw [if_pos hname, hnames e he, hname]
    calc (s.put r name value).put r name later
        = (s.put r name value).set r (.map (replaced s name later entries)) := by
          rw [put_of_named (part_put_of_named hpart hnamed) hnamed', replaced_replaced hnames]
      _ = s.set r (.map (replaced s name later entries)) := by rw [hput, List.set_set]
      _ = s.put r name later := (put_of_named hpart hnamed).symm
  · have hadded : (s.put r name value).isNamed name s.length = true := by
      rw [isNamed_put_length hpart hnew, decide_eq_true rfl]
    have hlater : replaced (s.put r name value) name later (entries ++ [(s.length, value)]) =
        entries ++ [(s.length, later)] := by
      have hold : ∀ e ∈ entries,
          (if (s.put r name value).isNamed name e.1 then (e.1, later) else e) = e := by
        intro e he
        rw [hnames e he, hnew e he]
        rfl
      rw [replaced, List.map_append, List.map_congr_left hold, List.map_id', List.map_singleton,
        if_pos hadded]
    calc (s.put r name value).put r name later
        = (s.put r name value).set r (.map (entries ++ [(s.length, later)])) := by
          rw [put_of_named (part_put_of_new hpart hnew)
            ⟨_, List.mem_append_right _ List.mem_cons_self, hadded⟩, hlater]
      _ = (s ++ [Part.atom (.text name)]).set r (.map (entries ++ [(s.length, later)])) := by
          rw [hput, List.set_set]
      _ = s.put r name later := (put_of_new hpart hnew).symm

end Substitute.Store
