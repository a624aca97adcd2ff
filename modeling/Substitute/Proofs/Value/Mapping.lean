import Mathlib.Data.List.Induction
import Substitute.Proofs.Value.Keys
import Substitute.Value.Merge

/-!
# Mappings laid over one another

The mappings that others are laid over have names for keys, and a name is equal to nothing but itself. Laying entries over such a mapping comes down to two parts: its own entries in their places, each with what was laid over it, and after them the entries under new keys.
-/

namespace Substitute

namespace Value

@[simp]
theorem sameKey_text_iff {v : Value} {name : Text} : v.sameKey (.text name) = true ↔ v = .text name := by
  cases v <;> simp [sameKey, asInt?]

@[simp]
theorem text_sameKey_iff {v : Value} {name : Text} : (text name).sameKey v = true ↔ v = .text name := by
  cases v with
  | text t => simpa [sameKey] using eq_comm
  | _ => simp [sameKey, asInt?]

instance : (v : Value) → Decidable (∃ name, v = .text name)
  | .text name => .isTrue ⟨name, rfl⟩
  | .null | .bool _ | .int _ | .float _ | .bytes _ | .date _ | .moment _ | .list _ | .tuple _
  | .set _ | .map _ | .again _ => .isFalse (by simp)

@[simp]
theorem over_none (v : Value) : Value.over none v = v := by
  cases v <;> rfl

end Value

namespace Entries

variable {base entries : Entries} {key value : Value} {name : Text}

def Distinct (entries : Entries) : Prop :=
  entries.Pairwise fun e f => e.1.sameKey f.1 = false

instance (entries : Entries) : Decidable (Distinct entries) :=
  inferInstanceAs (Decidable (entries.Pairwise _))

theorem Distinct.of_keys_sublist {more : Entries} (hdistinct : Distinct entries)
    (hsub : (more.map Prod.fst).Sublist (entries.map Prod.fst)) : Distinct more := by
  have hkeys : ∀ some : Entries,
      Distinct some ↔ (some.map Prod.fst).Pairwise fun k l => k.sameKey l = false := by
    intro some
    rw [List.pairwise_map]
    rfl
  rw [hkeys] at hdistinct ⊢
  exact hdistinct.sublist hsub

def Named (entries : Entries) : Prop :=
  ∀ e ∈ entries, ∃ name, e.1 = .text name

instance (entries : Entries) : Decidable (Named entries) :=
  inferInstanceAs (Decidable (∀ e ∈ entries, _))

/-! ### Looking up a name -/

theorem get?_eq_none_iff : entries.get? key = none ↔ ∀ e ∈ entries, e.1.sameKey key = false := by
  simp [get?, List.find?_eq_none]

theorem get?_append (entries more : Entries) (key : Value) :
    get? (entries ++ more) key = (entries.get? key).or (get? more key) := by
  simp only [get?, List.find?_append]
  cases entries.find? fun e => e.1.sameKey key <;> rfl

theorem get?_name_eq_some_iff (hdistinct : Distinct entries) :
    entries.get? (.text name) = some value ↔ (.text name, value) ∈ entries := by
  induction entries with
  | nil => simp [get?]
  | cons e rest ih =>
    obtain ⟨hnew, hrest⟩ := List.pairwise_cons.mp hdistinct
    by_cases hfound : e.1 = .text name
    · have hgone : ∀ w, (.text name, w) ∉ rest := by
        intro w hmem
        have h := hnew _ hmem
        simp [hfound, Value.sameKey] at h
      obtain ⟨k, v⟩ := e
      obtain rfl : k = .text name := hfound
      simp [get?, Value.sameKey, hgone, eq_comm]
    · have hskip : e.1.sameKey (.text name) = false := by
        simpa [← Bool.not_eq_true] using hfound
      have hne : (.text name, value) ≠ e := by
        rintro rfl
        exact hfound rfl
      rw [List.mem_cons, or_iff_right hne, ← ih hrest, get?, List.find?_cons, hskip]
      rfl

theorem mem_of_get? (hfound : entries.get? key = some value) :
    ∃ e ∈ entries, e.1.sameKey key = true ∧ e.2 = value := by
  rw [get?, Option.map_eq_some_iff] at hfound
  obtain ⟨e, he, hvalue⟩ := hfound
  exact ⟨e, List.mem_of_find?_eq_some he, by simpa using List.find?_some he, hvalue⟩

theorem get?_of_mem (hdistinct : Distinct entries) {e : Value × Value} (he : e ∈ entries)
    (hself : e.1.sameKey e.1 = true) : entries.get? e.1 = some e.2 := by
  induction entries with
  | nil => cases he
  | cons f rest ih =>
    obtain ⟨hnew, hrest⟩ := List.pairwise_cons.mp hdistinct
    rw [get?, List.find?_cons]
    rcases List.mem_cons.mp he with rfl | he
    · rw [hself]
      rfl
    · rw [hnew e he]
      exact ih hrest he

/-! ### Storing an entry -/

theorem put_of_new (hnew : ∀ e ∈ entries, e.1.sameKey key = false) :
    entries.put key value = entries ++ [(key, value)] := by
  induction entries with
  | nil => rfl
  | cons e rest ih =>
    obtain ⟨hhead, hrest⟩ := List.forall_mem_cons.mp hnew
    rw [put, hhead, ih hrest]
    rfl

private theorem put_append_cons {before after : Entries} {e : Value × Value}
    (hbefore : ∀ f ∈ before, f.1.sameKey key = false) (hfound : e.1.sameKey key = true) :
    put (before ++ e :: after) key value = before ++ (e.1, value) :: after := by
  induction before with
  | nil => rw [List.nil_append, put, if_pos hfound, List.nil_append]
  | cons f rest ih =>
    obtain ⟨hhead, hrest⟩ := List.forall_mem_cons.mp hbefore
    rw [List.cons_append, put, hhead, if_neg Bool.false_ne_true, ih hrest, List.cons_append]

private theorem get?_append_cons {before after : Entries} {e : Value × Value}
    (hbefore : ∀ f ∈ before, f.1.sameKey key = false) (hfound : e.1.sameKey key = true) :
    get? (before ++ e :: after) key = some e.2 := by
  rw [get?_append, get?_eq_none_iff.mpr hbefore, Option.none_or, get?, List.find?_cons, hfound]
  rfl

private theorem key_of_mem_put {e : Value × Value} (hmem : e ∈ entries.put key value) :
    (∃ f ∈ entries, f.1 = e.1) ∨ e.1 = key := by
  induction entries with
  | nil => exact .inr (by rw [List.mem_singleton.mp hmem])
  | cons f rest ih =>
    rw [put] at hmem
    split at hmem
    · rcases List.mem_cons.mp hmem with rfl | hmem
      · exact .inl ⟨f, List.mem_cons_self, rfl⟩
      · exact .inl ⟨e, List.mem_cons_of_mem _ hmem, rfl⟩
    · rcases List.mem_cons.mp hmem with rfl | hmem
      · exact .inl ⟨_, List.mem_cons_self, rfl⟩
      · rcases ih hmem with ⟨g, hg, hkey⟩ | hkey
        · exact .inl ⟨g, List.mem_cons_of_mem _ hg, hkey⟩
        · exact .inr hkey

theorem Distinct.put (hdistinct : Distinct entries) (key value : Value) :
    Distinct (entries.put key value) := by
  induction entries with
  | nil => exact List.pairwise_singleton _ _
  | cons e rest ih =>
    obtain ⟨hnew, hrest⟩ := List.pairwise_cons.mp hdistinct
    rw [Entries.put]
    split
    · exact List.pairwise_cons.mpr ⟨hnew, hrest⟩
    · rename_i hother
      refine List.pairwise_cons.mpr ⟨?_, ih hrest⟩
      intro f hf
      rcases key_of_mem_put hf with ⟨g, hg, hkey⟩ | hkey
      · rw [← hkey]
        exact hnew g hg
      · rw [hkey]
        exact eq_false_of_ne_true hother

/-! ### Laying entries over a mapping -/

theorem merge_append (base entries more : Entries) :
    merge base (entries ++ more) = merge (merge base entries) more := by
  induction entries generalizing base with
  | nil => rfl
  | cons e rest ih =>
    obtain ⟨k, v⟩ := e
    rw [List.cons_append, merge, ih, merge]

theorem Distinct.merge (hdistinct : Distinct base) (entries : Entries) :
    Distinct (merge base entries) := by
  induction entries generalizing base with
  | nil => exact hdistinct
  | cons e rest ih =>
    obtain ⟨k, v⟩ := e
    rw [Entries.merge]
    exact ih (hdistinct.put _ _)

theorem merge_cons_of_ne (hother : ∀ e ∈ entries, key.sameKey e.1 = false) :
    merge ((key, value) :: base) entries = (key, value) :: merge base entries := by
  induction entries generalizing base with
  | nil => rfl
  | cons e rest ih =>
    obtain ⟨hhead, hrest⟩ := List.forall_mem_cons.mp hother
    obtain ⟨k, v⟩ := e
    have hget : get? ((key, value) :: base) k = get? base k := by
      rw [get?, List.find?_cons, hhead]
      rfl
    rw [merge, hget, put, hhead, if_neg Bool.false_ne_true, ih hrest, merge]

/-- An entry of the lower mapping after the given entries were laid over it. -/
def laid (entries : Entries) (e : Value × Value) : Value × Value :=
  (e.1, ((entries.get? e.1).map (Value.over (some e.2))).getD e.2)

/-- The entries under keys that the lower mapping does not have. -/
def newTo (base entries : Entries) : Entries :=
  entries.filter fun e => !base.any (·.1.sameKey e.1)

theorem mem_newTo {e : Value × Value} :
    e ∈ newTo base entries ↔ e ∈ entries ∧ ∀ f ∈ base, f.1.sameKey e.1 = false := by
  simp [newTo]

theorem newTo_append (base entries more : Entries) :
    newTo base (entries ++ more) = newTo base entries ++ newTo base more :=
  List.filter_append ..

theorem laid_append_of_ne {e : Value × Value} (hne : key.sameKey e.1 = false) :
    laid (entries ++ [(key, value)]) e = laid entries e := by
  have hlast : get? [(key, value)] e.1 = none := by simpa [get?_eq_none_iff] using hne
  rw [laid, laid, get?_append, hlast, Option.or_none]

private theorem laid_append_of_new {e : Value × Value} (hnew : entries.get? e.1 = none)
    (hsame : key.sameKey e.1 = true) :
    laid (entries ++ [(key, value)]) e = (e.1, Value.over (some e.2) value) := by
  have hlast : get? [(key, value)] e.1 = some value := by
    rw [get?, List.find?_cons, hsame]
    rfl
  rw [laid, get?_append, hnew, hlast]
  rfl

/-- Laying one more entry over a mapping that holds its key changes the value in its place. -/
theorem put_over_laid {left right more : Entries} {e : Value × Value}
    (hother : ∀ f ∈ left ++ right, f.1.sameKey key = false) (hfound : e.1.sameKey key = true)
    (huntouched : get? entries e.1 = none) :
    let merged := (left ++ e :: right).map (laid entries) ++ more
    put merged key (Value.over (get? merged key) value) =
      (left ++ e :: right).map (laid (entries ++ [(key, value)])) ++ more := by
  intro merged
  obtain ⟨hleft, hright⟩ := List.forall_mem_append.mp hother
  have hmerged : merged = left.map (laid entries) ++ e :: (right.map (laid entries) ++ more) := by
    have hlaid : laid entries e = e := by
      rw [laid, huntouched]
      rfl
    simp [merged, hlaid]
  have hkept : ∀ some : Entries, (∀ f ∈ some, f.1.sameKey key = false) →
      some.map (laid (entries ++ [(key, value)])) = some.map (laid entries) := by
    refine fun some hsome => List.map_congr_left fun f hf => laid_append_of_ne ?_
    rw [Value.sameKey_comm, hsome f hf]
  have hbefore : ∀ f ∈ left.map (laid entries), f.1.sameKey key = false :=
    List.forall_mem_map.mpr hleft
  rw [hmerged, get?_append_cons hbefore hfound, put_append_cons hbefore hfound, List.map_append,
    List.map_cons, hkept left hleft, hkept right hright,
    laid_append_of_new huntouched (Value.sameKey_comm key e.1 ▸ hfound), List.append_assoc,
    List.cons_append]

/-- The one entry under a key that equals a given one, with what stands before and behind it. -/
theorem exists_around (hbase : Distinct base) {e : Value × Value} (he : e ∈ base)
    (honly : ∀ f ∈ base, f.1.sameKey key = true → e.1.sameKey f.1 = true) :
    ∃ left right, base = left ++ e :: right ∧ ∀ f ∈ left ++ right, f.1.sameKey key = false := by
  obtain ⟨left, right, rfl⟩ := List.append_of_mem he
  obtain ⟨-, hright, hleft⟩ := List.pairwise_append.mp hbase
  have hother : ∀ f ∈ left ++ right, e.1.sameKey f.1 = false := by
    intro f hf
    rcases List.mem_append.mp hf with hf | hf
    · rw [Value.sameKey_comm]
      exact hleft f hf e List.mem_cons_self
    · exact (List.pairwise_cons.mp hright).1 f hf
  refine ⟨left, right, rfl, fun f hf => ?_⟩
  have hmem : f ∈ left ++ e :: right := by
    rw [List.mem_append] at hf
    rw [List.mem_append, List.mem_cons]
    exact hf.imp_right .inr
  by_contra hfound
  rw [Bool.not_eq_false] at hfound
  have hsame := honly f hmem hfound
  rw [hother f hf] at hsame
  exact Bool.false_ne_true hsame

/-- No two entries of one mapping stand under keys that equal one key of the other, unless they equal each other. -/
structure Agree (base entries : Entries) : Prop where
  lower : ∀ e ∈ base, ∀ f ∈ base, ∀ g ∈ entries,
    e.1.sameKey g.1 = true → f.1.sameKey g.1 = true → e.1.sameKey f.1 = true
  upper : ∀ e ∈ base, ∀ f ∈ entries, ∀ g ∈ entries,
    e.1.sameKey f.1 = true → e.1.sameKey g.1 = true → f.1.sameKey g.1 = true

private theorem Agree.of_subset {more : Entries} (h : Agree base more) (hsub : entries ⊆ more) :
    Agree base entries where
  lower := fun e he f hf g hg => h.lower e he f hf g (hsub hg)
  upper := fun e he f hf g hg => h.upper e he f (hsub hf) g (hsub hg)

theorem Agree.of_named (hnamed : Named base) (entries : Entries) : Agree base entries where
  lower := by
    intro e he f hf g _ heg hfg
    obtain ⟨name, hname⟩ := hnamed e he
    rw [hname, Value.text_sameKey_iff] at heg
    rw [heg, Value.sameKey_text_iff] at hfg
    rw [hname, hfg, Value.sameKey_text_iff]
  upper := by
    intro e he f _ g _ hef heg
    obtain ⟨name, hname⟩ := hnamed e he
    rw [hname, Value.text_sameKey_iff] at hef heg
    rw [hef, heg, Value.sameKey_text_iff]

theorem Agree.of_keys (hbase : ∀ e ∈ base, e.1.IsKey) (hentries : ∀ e ∈ entries, e.1.IsKey) :
    Agree base entries where
  lower := by
    intro e he f hf g _ heg hfg
    rw [Value.sameKey_comm f.1] at hfg
    exact Value.sameKey_trans (hbase e he) (hbase f hf) heg hfg
  upper := by
    intro e _ f hf g hg hef heg
    rw [Value.sameKey_comm e.1] at hef
    exact Value.sameKey_trans (hentries f hf) (hentries g hg) hef heg

/-- The lower mapping keeps its keys and their places, the new keys follow. -/
theorem merge_eq_of_agree (hagree : Agree base entries) (hbase : Distinct base)
    (hdistinct : Distinct entries) :
    merge base entries = base.map (laid entries) ++ newTo base entries := by
  -- entry by entry from the end: what is laid last leaves what was laid before
  induction entries using List.reverseRecOn with
  | nil =>
    have hid : laid [] = id := rfl
    rw [hid, List.map_id]
    simp [merge, newTo]
  | append_singleton before e ih =>
    obtain ⟨key, value⟩ := e
    obtain ⟨hbefore, -, hlast⟩ := List.pairwise_append.mp hdistinct
    have hnew : ∀ f ∈ before, f.1.sameKey key = false :=
      fun f hf => hlast f hf _ (List.mem_singleton_self _)
    have hmem : (key, value) ∈ before ++ [(key, value)] := by simp
    rw [merge_append, merge, merge, newTo_append,
      ih (hagree.of_subset (List.subset_append_left _ _)) hbefore]
    by_cases hold : ∃ e ∈ base, e.1.sameKey key = true
    · -- a key of the lower mapping, whose entry is replaced in its place
      obtain ⟨e, he, hkey⟩ := hold
      have huntouched : get? before e.1 = none := by
        rw [get?_eq_none_iff]
        intro f hf
        by_contra hfound
        rw [Bool.not_eq_false, Value.sameKey_comm] at hfound
        have hsame := hagree.upper e he f (List.mem_append_left _ hf) _ hmem hfound hkey
        rw [hnew f hf] at hsame
        exact Bool.false_ne_true hsame
      have hdropped : newTo base [(key, value)] = [] := by
        simpa [newTo] using ⟨e.1, ⟨e.2, he⟩, hkey⟩
      obtain ⟨left, right, rfl, hother⟩ :=
        exists_around hbase he fun f hf hfound => hagree.lower e he f hf _ hmem hkey hfound
      rw [put_over_laid hother hkey huntouched, hdropped, List.append_nil]
    · -- a new key, which goes to the end
      have hother : ∀ e ∈ base, e.1.sameKey key = false := by
        simpa using hold
      have hcurrent : ∀ e ∈ base.map (laid before) ++ newTo base before, e.1.sameKey key = false := by
        intro e he
        rcases List.mem_append.mp he with he | he
        · obtain ⟨f, hf, rfl⟩ := List.mem_map.mp he
          exact hother f hf
        · exact hnew e (mem_newTo.mp he).1
      have hlaid : base.map (laid (before ++ [(key, value)])) = base.map (laid before) := by
        refine List.map_congr_left fun f hf => laid_append_of_ne ?_
        rw [Value.sameKey_comm]
        exact hother f hf
      have hkept : newTo base [(key, value)] = [(key, value)] := by
        simpa [newTo] using hother
      rw [get?_eq_none_iff.mpr hcurrent, Value.over_none, put_of_new hcurrent, hlaid, hkept,
        List.append_assoc]

theorem merge_eq (hnamed : Named base) (hbase : Distinct base) (hdistinct : Distinct entries) :
    merge base entries = base.map (laid entries) ++ newTo base entries :=
  merge_eq_of_agree (.of_named hnamed entries) hbase hdistinct

theorem get?_merge_of_mem (hnamed : Named base) (hbase : Distinct base)
    (hdistinct : Distinct entries) {below : Value} (hmem : (.text name, below) ∈ base) :
    (merge base entries).get? (.text name) =
      some (((entries.get? (.text name)).map (Value.over (some below))).getD below) := by
  rw [get?_name_eq_some_iff (hbase.merge entries), merge_eq hnamed hbase hdistinct]
  exact List.mem_append_left _ (List.mem_map.mpr ⟨_, hmem, rfl⟩)

end Entries

/-- A value in which every mapping, however deep among mappings, has at most one entry for a key. -/
inductive Value.WellFormed : Value → Prop where
  | map {entries : Entries} (distinct : entries.Distinct)
      (inside : ∀ e ∈ entries, Value.WellFormed e.2) : Value.WellFormed (.map entries)
  | leaf {v : Value} (hleaf : ∀ entries, v ≠ .map entries) : Value.WellFormed v

theorem Value.WellFormed.distinct_of_map {entries : Entries} (h : (Value.map entries).WellFormed) :
    entries.Distinct ∧ ∀ e ∈ entries, e.2.WellFormed := by
  cases h with
  | map distinct inside => exact ⟨distinct, inside⟩
  | leaf hleaf => exact absurd rfl (hleaf entries)

end Substitute
