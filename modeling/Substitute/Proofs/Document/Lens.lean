import Substitute.Proofs.Document.Putting

/-!
# Dotted keys as lenses

A dotted key is a lens on nested mappings: what is assigned at it is what is found there, and an assignment at it takes the place of an earlier one, as long as no mapping holds itself. Whatever stands at a key that parts from it at some component is not touched where every mapping stands in one place only: a mapping that stands in two places changes in both. Parents that are missing or no mappings do not matter, since nothing is found below them.
-/

namespace Substitute

theorem keyPath_ne_nil (key : Text) : keyPath key ≠ [] := by
  have hfirst : ∀ (part : Text) (parts : List Text), Text.extendFirst part parts ≠ [] := by
    intro part parts
    cases parts <;> exact nofun
  cases key with
  | nil => exact nofun
  | cons c rest =>
    rw [keyPath, Text.cutAt]
    split
    · exact nofun
    · exact hfirst _ _

theorem keyPath_append_dot (key rest : Text) :
    keyPath (key ++ '.' :: rest) = keyPath key ++ keyPath rest := by
  induction key with
  | nil => rfl
  | cons c more ih =>
    simp only [keyPath, List.cons_append, Text.cutAt] at ih ⊢
    split
    · rw [ih, List.cons_append]
    · obtain ⟨first, others, hcut⟩ := List.exists_cons_of_ne_nil (keyPath_ne_nil more)
      rw [keyPath] at hcut
      rw [ih, hcut]
      rfl

namespace Store

variable {s t : Store} {r x y m child value later : Ref} {name other : Text} {path front : List Text}

/-! ### Paths -/

theorem at?_cons (s : Store) (name : Text) (path : List Text) (r : Ref) :
    s.at? (name :: path) r = (s.get? r name).bind (s.at? path) :=
  rfl

theorem at?_append (s : Store) (path more : List Text) (r : Ref) :
    s.at? (path ++ more) r = (s.at? path r).bind (s.at? more) := by
  induction path generalizing r with
  | nil => rfl
  | cons name path ih =>
    rw [List.cons_append, at?_cons, at?_cons, Option.bind_assoc]
    exact congrArg _ (funext ih)

private theorem at?_of_empty (hempty : s.part r = .map []) (hpath : path ≠ []) : s.at? path r = none := by
  obtain ⟨name, more, rfl⟩ := List.exists_cons_of_ne_nil hpath
  rw [at?_cons, get?_of_part hempty]
  rfl

theorem at?_of_not_isMapping (hmap : ¬ s.IsMapping r) (hpath : path ≠ []) : s.at? path r = none := by
  obtain ⟨name, more, rfl⟩ := List.exists_cons_of_ne_nil hpath
  rw [at?_cons, get?_of_not_isMapping hmap]
  rfl

theorem reaches_of_at? (h : s.at? path r = some x) : s.Reaches r x := by
  induction path generalizing r with
  | nil =>
    obtain rfl := Option.some.inj h
    exact .refl
  | cons name path ih =>
    obtain ⟨child, hchild, hx⟩ := Option.bind_eq_some_iff.mp h
    exact (ih hx).head (mem_refs_of_get? hchild)

/-- A path leads to the same place as long as nothing below its start changes. -/
theorem at?_congr (hparts : ∀ x, s.Reaches r x → t.part x = s.part x) (path : List Text) :
    t.at? path r = s.at? path r := by
  induction path generalizing r with
  | nil => rfl
  | cons name path ih =>
    have hget : t.get? r name = s.get? r name := by
      refine get?_congr (hparts r .refl) fun x hx => ?_
      rw [isNamed, isNamed, hparts x (.single hx)]
    rw [at?_cons, at?_cons, hget]
    cases hchild : s.get? r name with
    | none => rfl
    | some child => exact ih fun x hx => hparts x (hx.head (mem_refs_of_get? hchild))

/-! ### Entering -/

/-- What entering a mapping under a name leaves: a mapping is found there, which was there before or is a new one, and no other part changes. -/
structure Entered (s : Store) (r : Ref) (name : Text) (child : Ref) (t : Store) : Prop where
  closed : t.Closed
  grows : s.Grows t
  mapping : t.IsMapping child
  found : t.get? r name = some child
  others : ∀ other, name ≠ other → t.get? r other = s.get? r other
  kept : ∀ x < s.length, x ≠ r → t.part x = s.part x
  old_or_new : t = s ∨ child = s.length ∧ t.part child = .map [] ∧
    ∀ old, s.get? r name = some old → ¬ s.IsMapping old

theorem enter_of_found (hfound : s.get? r name = some child) (hmap : s.IsMapping child) :
    s.enter r name = (child, s) := by
  rw [enter, hfound, Option.filter_some, if_pos (isMapping_iff.mp hmap)]

theorem entered (hclosed : s.Closed) (hmap : s.IsMapping r) (name : Text) :
    s.Entered r name (s.enter r name).1 (s.enter r name).2 := by
  by_cases hold : ∃ child, s.get? r name = some child ∧ s.IsMapping child
  · obtain ⟨child, hfound, hchild⟩ := hold
    rw [enter_of_found hfound hchild]
    exact
      { closed := hclosed
        grows := .refl s
        mapping := hchild
        found := hfound
        others := fun _ _ => rfl
        kept := fun _ _ _ => rfl
        old_or_new := .inl rfl }
  · have hnew : s.enter r name = (s.length, put (s ++ [Part.map []]) r name s.length) := by
      rw [enter]
      split
      · rename_i child hfound
        obtain ⟨hfound, hchild⟩ := Option.filter_eq_some_iff.mp hfound
        exact absurd ⟨child, hfound, isMapping_iff.mpr hchild⟩ hold
      · rfl
    have hclosed' : Closed (s ++ [Part.map []]) := closed_concat hclosed nofun
    have hgrows := grows_concat s (.map [])
    have hmap' := hgrows.isMapping hmap
    have hlt : s.length < (s ++ [Part.map []]).length := by simp
    have hempty : (put (s ++ [Part.map []]) r name s.length).part s.length = .map [] := by
      rw [part_put_of_ne hmap' _ _ hlt hmap.lt.ne', part_concat_self]
    rw [hnew]
    exact
      { closed := closed_put hclosed' hmap' hlt name
        grows := hgrows.trans (grows_put hmap' name _)
        mapping := ⟨[], hempty⟩
        found := by rw [get?_put hclosed' hmap', if_pos rfl]
        others := fun other hne => by
          rw [get?_put hclosed' hmap', if_neg hne,
            hgrows.get? hclosed (part_append_of_lt hmap.lt _)]
        kept := fun x hx hne => by
          rw [part_put_of_ne hmap' _ _ (Nat.lt_trans hx hlt) hne, part_append_of_lt hx]
        old_or_new := .inr ⟨rfl, hempty, fun old hfound hmap => hold ⟨old, hfound, hmap⟩⟩ }

namespace Entered

variable (h : s.Entered r name child t)

include h

theorem unringed (hunringed : s.Unringed r) : t.Unringed child := by
  obtain rfl | ⟨-, hempty, -⟩ := h.old_or_new
  · exact hunringed.below (mem_refs_of_get? h.found)
  · intro m hm _ x hx
    obtain rfl := reaches_of_empty hempty hm
    obtain rfl := reaches_of_empty hempty hx
    rw [hempty]
    exact List.not_mem_nil

theorem unshared (hunshared : s.Unshared r) : t.Unshared child := by
  obtain rfl | ⟨-, hempty, -⟩ := h.old_or_new
  · exact hunshared.below (mem_refs_of_get? h.found)
  · have hnone : ∀ x, t.Reaches child x → (t.part x).refs = [] := by
      intro x hx
      rw [reaches_of_empty hempty hx, hempty]
      rfl
    refine ⟨fun _ hx _ hmx => ?_, fun _ hx => ?_⟩
    · rw [hnone _ hx] at hmx
      exact absurd hmx List.not_mem_nil
    · rw [hnone _ hx]
      exact Nat.zero_le 1

theorem not_reaches (hmap : s.IsMapping r) (hunringed : s.Unringed r) : ¬ t.Reaches child r := by
  obtain rfl | ⟨hchild, hempty, -⟩ := h.old_or_new
  · exact hunringed.not_reaches hmap (mem_refs_of_get? h.found)
  · intro hreaches
    have hlt := hmap.lt
    rw [reaches_of_empty hempty hreaches, hchild] at hlt
    exact Nat.lt_irrefl _ hlt

end Entered

/-! ### What an assignment changes -/

theorem assignAt_cons (hpath : path ≠ []) (value : Ref) (name : Text) (r : Ref) (s : Store) :
    assignAt value (name :: path) r s =
      assignAt value path (s.enter r name).1 (s.enter r name).2 := by
  obtain ⟨next, more, rfl⟩ := List.exists_cons_of_ne_nil hpath
  rfl

theorem grows_assignAt (hclosed : s.Closed) (hmap : s.IsMapping r) (value : Ref) (path : List Text) :
    s.Grows (assignAt value path r s) := by
  induction path generalizing s r with
  | nil => exact .refl s
  | cons name path ih =>
    obtain rfl | hpath := eq_or_ne path []
    · exact grows_put hmap name value
    · have hentered := entered hclosed hmap name
      rw [assignAt_cons hpath]
      exact hentered.grows.trans (ih hentered.closed hentered.mapping)

theorem part_assignAt (hclosed : s.Closed) (hmap : s.IsMapping r) (value : Ref) (path : List Text)
    (hx : x < s.length) (haway : s.IsMapping x → ∀ front, s.at? front r ≠ some x) :
    (assignAt value path r s).part x = s.part x := by
  induction path generalizing s r with
  | nil => rfl
  | cons name path ih =>
    have hne : x ≠ r := by
      rintro rfl
      exact haway hmap [] rfl
    obtain rfl | hpath := eq_or_ne path []
    · exact part_put_of_ne hmap name value hx hne
    have hentered := entered hclosed hmap name
    rw [assignAt_cons hpath, ← hentered.kept x hx hne]
    refine ih hentered.closed hentered.mapping (Nat.lt_of_lt_of_le hx hentered.grows.length_le)
      fun hmap' front hfront => ?_
    obtain hold | ⟨hchild, hempty, -⟩ := hentered.old_or_new
    · have hfound := hentered.found
      rw [hold] at hmap' hfront hfound
      refine haway hmap' (name :: front) ?_
      rw [at?_cons, hfound]
      exact hfront
    · rw [reaches_of_empty hempty (reaches_of_at? hfront), hchild] at hx
      exact Nat.lt_irrefl _ hx

theorem get?_assignAt (hmap : s.IsMapping r) (hunringed : s.Unringed r)
    (hentered : s.Entered r name child t) (value : Ref) (path : List Text) (other : Text) :
    (assignAt value path child t).get? r other = t.get? r other := by
  have hgrows := grows_assignAt hentered.closed hentered.mapping value path
  refine hgrows.get? hentered.closed ?_ other
  refine part_assignAt hentered.closed hentered.mapping value path (hentered.grows.isMapping hmap).lt ?_
  intro _ front hfront
  exact hentered.not_reaches hmap hunringed (reaches_of_at? hfront)

/-! ### The laws -/

theorem at?_assignAt_append (hclosed : s.Closed) (hmap : s.IsMapping r) (hunringed : s.Unringed r)
    (hpath : path ≠ []) (value : Ref) (more : List Text) :
    (assignAt value path r s).at? (path ++ more) r =
      (assignAt value path r s).at? more value := by
  induction path generalizing s r with
  | nil => exact absurd rfl hpath
  | cons name path ih =>
    rw [List.cons_append, at?_cons]
    obtain rfl | hpath := eq_or_ne path []
    · rw [assignAt, get?_put hclosed hmap, if_pos rfl, Option.bind_some, List.nil_append]
    · have hentered := entered hclosed hmap name
      rw [assignAt_cons hpath, get?_assignAt hmap hunringed hentered, hentered.found,
        Option.bind_some, ih hentered.closed hentered.mapping (hentered.unringed hunringed) hpath]

private theorem assignAt_assignAt (hclosed : s.Closed) (hmap : s.IsMapping r) (hunringed : s.Unringed r)
    (value later : Ref) (path : List Text) :
    assignAt later path r (assignAt value path r s) = assignAt later path r s := by
  induction path generalizing s r with
  | nil => rfl
  | cons name path ih =>
    obtain rfl | hpath := eq_or_ne path []
    · exact put_put hclosed hmap name value later
    have hentered := entered hclosed hmap name
    have hagain := get?_assignAt hmap hunringed hentered value path name
    have hchild := (grows_assignAt hentered.closed hentered.mapping value path).isMapping
      hentered.mapping
    rw [assignAt_cons hpath value, assignAt_cons hpath later,
      enter_of_found (hagain.trans hentered.found) hchild,
      ih hentered.closed hentered.mapping (hentered.unringed hunringed), assignAt_cons hpath later]

theorem name_eq_of_count_le (honce : (s.part r).refs.count x ≤ 1) (hname : s.get? r name = some x)
    (hother : s.get? r other = some x) : name = other := by
  obtain ⟨entries, hpart, key, hmem, hkey⟩ := exists_entry_of_get? hname
  obtain ⟨_, hpart', key', hmem', hkey'⟩ := exists_entry_of_get? hother
  obtain rfl := Part.map.inj (hpart.symm.trans hpart')
  by_cases hsame : key' = key
  · subst hsame
    rw [isNamed_iff] at hkey hkey'
    exact Value.text.inj (Part.atom.inj (hkey.symm.trans hkey'))
  · have hrest : (key', x) ∈ entries.erase (key, x) :=
      (List.mem_erase_of_ne fun h => hsame (congrArg Prod.fst h)).mpr hmem'
    have hcount : (s.part r).refs.count x = [key, x].count x +
        (Part.map (entries.erase (key, x))).refs.count x := by
      rw [hpart, Part.refs, ((List.perm_cons_erase hmem).flatMap_right _).count_eq,
        List.flatMap_cons, List.count_append]
      rfl
    have hfirst : 0 < [key, x].count x := List.count_pos_iff.mpr (by simp)
    have hsecond := List.count_pos_iff.mpr (mem_refs_of_entry hrest).2
    omega

/-- What a mapping holds under one name shares no mapping on a path with what it holds under another. -/
theorem Unshared.apart (h : s.Unshared r) (hunringed : s.Unringed r) (hmap : s.IsMapping r)
    (hchild : s.get? r name = some child) (hx : s.get? r other = some x) (hne : name ≠ other)
    (hm : s.IsMapping m) (hfront : s.at? front child = some m) : ¬ s.Reaches x m := by
  have hchild_mem := mem_refs_of_get? hchild
  have hx_mem := mem_refs_of_get? hx
  induction front using List.reverseRecOn generalizing m with
  | nil =>
    obtain rfl := Option.some.inj hfront
    intro hreaches
    obtain rfl | ⟨y, hy, hmem⟩ := hreaches.cases_tail
    · exact hne (name_eq_of_count_le (h.once hm .refl) hchild hx)
    · obtain rfl := h.parent hm .refl (hy.head hx_mem) hchild_mem hmem
      exact hunringed.not_reaches hmap hx_mem hy
  | append_singleton front last ih =>
    rw [at?_append] at hfront
    obtain ⟨y, hy, hlast⟩ := Option.bind_eq_some_iff.mp hfront
    have hlast : s.get? y last = some m := by
      obtain ⟨_, hlast, hm⟩ := Option.bind_eq_some_iff.mp hlast
      exact hlast.trans hm
    have hmap_y : s.IsMapping y := by
      obtain ⟨entries, hpart, -⟩ := exists_entry_of_get? hlast
      exact ⟨entries, hpart⟩
    have hchild_y := reaches_of_at? hy
    intro hreaches
    obtain rfl | ⟨z, hz, hmem⟩ := hreaches.cases_tail
    · obtain rfl := h.parent hm (hchild_y.head hchild_mem) .refl (mem_refs_of_get? hlast) hx_mem
      exact hunringed.not_reaches hmap hchild_mem hchild_y
    · obtain rfl := h.parent hm (hchild_y.head hchild_mem) (hz.head hx_mem)
        (mem_refs_of_get? hlast) hmem
      exact ih hmap_y hy hz

/-- An assignment below a name leaves what a mapping holds under another, and all that is below there. -/
theorem assignAt_of_other (hclosed : s.Closed) (hmap : s.IsMapping r) (hunringed : s.Unringed r)
    (hunshared : s.Unshared r) (hne : name ≠ other) (value : Ref) (path : List Text) :
    (assignAt value (name :: path) r s).get? r other = s.get? r other ∧
      ∀ x, s.get? r other = some x → ∀ y, s.Reaches x y →
        (assignAt value (name :: path) r s).part y = s.part y := by
  have hbelow : ∀ x, s.get? r other = some x → ∀ y, s.Reaches x y → y < s.length ∧ y ≠ r := by
    intro x hx y hy
    have hx_mem := mem_refs_of_get? hx
    refine ⟨hclosed.reaches_lt (hclosed r x hx_mem) hy, ?_⟩
    rintro rfl
    exact hunringed.not_reaches hmap hx_mem hy
  obtain rfl | hpath := eq_or_ne path []
  · refine ⟨by rw [assignAt, get?_put hclosed hmap, if_neg hne], fun x hx y hy => ?_⟩
    exact part_put_of_ne hmap name value (hbelow x hx y hy).1 (hbelow x hx y hy).2
  have hentered := entered hclosed hmap name
  rw [assignAt_cons hpath]
  refine ⟨by rw [get?_assignAt hmap hunringed hentered, hentered.others other hne],
    fun x hx y hy => ?_⟩
  obtain ⟨hlt, hyr⟩ := hbelow x hx y hy
  rw [← hentered.kept y hlt hyr]
  refine part_assignAt hentered.closed hentered.mapping value path
    (Nat.lt_of_lt_of_le hlt hentered.grows.length_le) fun hmap' front hfront => ?_
  obtain hold | ⟨hchild, hempty, -⟩ := hentered.old_or_new
  · have hfound := hentered.found
    rw [hold] at hmap' hfront hfound
    exact hunshared.apart hunringed hmap hfound hx hne hmap' hfront hy
  · rw [reaches_of_empty hempty (reaches_of_at? hfront), hchild] at hlt
    exact Nat.lt_irrefl _ hlt

/-- A path leads to the same place in two stores, and there is the same at it and below. -/
def Untouched (s t : Store) (path : List Text) (r : Ref) : Prop :=
  t.at? path r = s.at? path r ∧
    ∀ x, s.at? path r = some x → ∀ y, s.Reaches x y → t.part y = s.part y

theorem untouched_cons (hget : t.get? r name = s.get? r name)
    (hparts : ∀ x, s.get? r name = some x → ∀ y, s.Reaches x y → t.part y = s.part y)
    (path : List Text) : s.Untouched t (name :: path) r := by
  rw [Untouched, at?_cons, at?_cons, hget]
  cases hchild : s.get? r name with
  | none => exact ⟨rfl, nofun⟩
  | some child =>
    have hbelow := hparts child hchild
    exact ⟨at?_congr hbelow path, fun x hx y hy => hbelow y ((reaches_of_at? hx).trans hy)⟩

/-- An assignment leaves what stands at a path that parts from its own. -/
theorem untouched_assignAt (hclosed : s.Closed) (hmap : s.IsMapping r) (hunringed : s.Unringed r)
    (hunshared : s.Unshared r) {others : List Text} (hpath : ¬ path <+: others)
    (hothers : ¬ others <+: path) (value : Ref) :
    s.Untouched (assignAt value path r s) others r := by
  induction path generalizing s r others with
  | nil => exact absurd List.nil_prefix hpath
  | cons name path ih =>
    obtain _ | ⟨other, others⟩ := others
    · exact absurd List.nil_prefix hothers
    by_cases hne : name = other
    · -- the paths part further down
      subst hne
      rw [List.prefix_cons_inj] at hpath hothers
      have hpath_ne : path ≠ [] := fun h => hpath (h ▸ List.nil_prefix)
      have hothers_ne : others ≠ [] := fun h => hothers (h ▸ List.nil_prefix)
      have hentered := entered hclosed hmap name
      obtain ⟨hat, hparts⟩ := ih hentered.closed hentered.mapping (hentered.unringed hunringed)
        (hentered.unshared hunshared) hpath hothers
      rw [Untouched, assignAt_cons hpath_ne, at?_cons, at?_cons,
        get?_assignAt hmap hunringed hentered, hentered.found, Option.bind_some, hat]
      obtain hold | ⟨-, hempty, hnone⟩ := hentered.old_or_new
      · have hfound := hentered.found
        rw [hold] at hfound hparts ⊢
        rw [hfound]
        exact ⟨rfl, hparts⟩
      · have hnothing : (s.get? r name).bind (s.at? others) = none := by
          cases hold : s.get? r name with
          | none => rfl
          | some old => exact at?_of_not_isMapping (hnone old hold) hothers_ne
        rw [at?_of_empty hempty hothers_ne, hnothing]
        exact ⟨rfl, nofun⟩
    · obtain ⟨hget, hparts⟩ := assignAt_of_other hclosed hmap hunringed hunshared hne value path
      exact untouched_cons hget hparts others

/-! ### Dotted keys -/

/-- Whether a key of a mapping stands for the same place in two stores, with the same value there. -/
def SameAt (s t : Store) (r : Ref) (key : Text) : Prop :=
  t.lookup r key = s.lookup r key ∧
    ∀ x, s.lookup r key = some x → ∀ fresh, t.value fresh x = s.value fresh x

theorem Untouched.sameAt {key : Text} (h : s.Untouched t (keyPath key) r) : s.SameAt t r key :=
  ⟨h.1, fun x hx fresh => (value_eq_of_parts (h.2 x hx) fresh).symm⟩

theorem part_assignAt_of_apart (hclosed : s.Closed) (hmap : s.IsMapping r) (hvalue : value < s.length)
    (hapart : s.Apart r value) (path : List Text) (hx : s.Reaches value x) :
    (assignAt value path r s).part x = s.part x :=
  part_assignAt hclosed hmap value path (hclosed.reaches_lt hvalue hx)
    fun hmap_x _ hfront => hapart x hmap_x (reaches_of_at? hfront) hx

/-- Where no mapping holds itself, what is assigned at a key is found there, below the key is found what is found in the value, and a later assignment at the key leaves what it would have left as the only one. Where no mapping stands in two places either, nothing changes at a key whose components part from those of the first. A value that shares no mapping with the whole is the same after the assignment. -/
theorem assign_lens (hclosed : s.Closed) (hmap : s.IsMapping r) (hunringed : s.Unringed r)
    (hvalue : value < s.length) (key : Text) (later : Ref) :
    (s.assign r key value).lookup r key = some value ∧
      (s.Unshared r → ∀ other, ¬ keyPath key <+: keyPath other → ¬ keyPath other <+: keyPath key →
        s.SameAt (s.assign r key value) r other) ∧
      (∀ rest, (s.assign r key value).lookup r (key ++ '.' :: rest) =
          (s.assign r key value).lookup value rest ∧
        (¬ s.IsMapping value → (s.assign r key value).lookup r (key ++ '.' :: rest) = none)) ∧
      (s.Apart r value →
        (∀ fresh, (s.assign r key value).value fresh value = s.value fresh value) ∧
          ∀ rest, s.SameAt (s.assign r key value) value rest) ∧
      (s.assign r key value).assign r key later = s.assign r key later := by
  have hpath := keyPath_ne_nil key
  have hbelow : ∀ rest, (s.assign r key value).lookup r (key ++ '.' :: rest) =
      (s.assign r key value).lookup value rest := by
    intro rest
    rw [lookup, keyPath_append_dot]
    exact at?_assignAt_append hclosed hmap hunringed hpath value (keyPath rest)
  refine ⟨?_, ?_, fun rest => ⟨hbelow rest, fun hnone => ?_⟩, fun hapart => ?_, ?_⟩
  · have hfound := at?_assignAt_append hclosed hmap hunringed hpath value []
    rwa [List.append_nil] at hfound
  · exact fun hunshared other hkey hother =>
      (untouched_assignAt hclosed hmap hunringed hunshared hkey hother value).sameAt
  · rw [hbelow, lookup]
    refine at?_of_not_isMapping (fun hnew => hnone ?_) (keyPath_ne_nil rest)
    obtain ⟨entries, hentries⟩ := hnew
    refine ⟨entries, ?_⟩
    rw [← hentries]
    exact (part_assignAt hclosed hmap value (keyPath key) hvalue fun hold => absurd hold hnone).symm
  · have hparts : ∀ x, s.Reaches value x → (s.assign r key value).part x = s.part x :=
      fun x hx => part_assignAt_of_apart hclosed hmap hvalue hapart (keyPath key) hx
    refine ⟨fun fresh => (value_eq_of_parts hparts fresh).symm, fun rest => Untouched.sameAt ?_⟩
    exact ⟨at?_congr hparts _, fun x hx y hy => hparts y ((reaches_of_at? hx).trans hy)⟩
  · exact assignAt_assignAt hclosed hmap hunringed value later (keyPath key)

/-- Two mappings and a value: a text stands where a parent is wanted, and a name is empty. -/
def throughText : Store :=
  [ .atom (.text "keymaps"), .atom (.text "off"), .atom (.text "dashboard"), .atom (.text ""),
    .atom (.int 1), .map [(3, 4)], .map [(0, 1), (2, 5)],
    .atom (.text ""), .atom (.bool true), .map [(7, 8)] ]

theorem assign_lens_through_text :
    (throughText.assign 6 "keymaps.on" 9).lookup 6 "keymaps.on" = some 9 ∧
      throughText.SameAt (throughText.assign 6 "keymaps.on" 9) 6 "dashboard." ∧
      (throughText.assign 6 "keymaps.on" 9).lookup 6 "keymaps.on." = throughText.lookup 9 "" ∧
      (throughText.assign 6 "keymaps.on" 9).assign 6 "keymaps.on" 1 =
        throughText.assign 6 "keymaps.on" 1 := by
  have hforest : throughText.IsForest := ⟨by decide, by decide⟩
  have hapart : throughText.Apart 6 9 := hforest.apart (by decide) (by decide) (by decide)
  obtain ⟨hfound, hframe, hbelow, hvalue, hlast⟩ := assign_lens hforest.closed ⟨_, rfl⟩
    (hforest.unringed 6) (by decide : 9 < throughText.length) "keymaps.on" 1
  refine ⟨hfound, hframe (hforest.unshared 6) "dashboard." (by decide) (by decide), ?_, hlast⟩
  exact (hbelow "").1.trans ((hvalue hapart).2 "").1

/-- The mapping of `p: &s {k: 1}, q: *s`, and a value behind it. -/
def aliased : Store :=
  [ .atom (.text "k"), .atom (.int 1), .map [(0, 1)], .atom (.text "p"), .atom (.text "q"),
    .map [(3, 2), (4, 2)], .atom (.int 2) ]

/-- The mapping of `&a {x: *a}`, and a value behind it. -/
def ringed : Store :=
  [.atom (.text "x"), .map [(0, 1)], .atom (.int 2)]

/-- A mapping that stands in two places changes in both, and what is assigned through a mapping that holds itself may not be found. -/
theorem assign_not_lens :
    (¬ keyPath "p.k" <+: keyPath "q.k" ∧ ¬ keyPath "q.k" <+: keyPath "p.k" ∧
        (aliased.lookup 5 "q.k").map (aliased.value 0) = some (.int 1) ∧
        ((aliased.assign 5 "p.k" 6).lookup 5 "q.k").map ((aliased.assign 5 "p.k" 6).value 0) =
          some (.int 2) ∧
        ¬ aliased.SameAt (aliased.assign 5 "p.k" 6) 5 "q.k") ∧
      (ringed.assign 1 "x.x" 2).lookup 1 "x.x" = none := by
  refine ⟨⟨by decide, by decide, rfl, rfl, fun hsame => ?_⟩, rfl⟩
  exact absurd hsame.1 (by decide)

end Store

end Substitute
