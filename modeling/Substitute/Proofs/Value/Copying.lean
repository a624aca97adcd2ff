import Substitute.Proofs.Value.Absorbing
import Substitute.Value.Copying

/-!
# Copies of merged mappings

A copy of a merged mapping is what the copies of its parts give when they are merged. Where copies leave the lower mapping as it is, laying copies over it is laying the copy over it.
-/

namespace Substitute

variable (sets : SetOrder)

theorem copiedEntries_eq (entries : Entries) :
    copiedEntries sets entries = entries.map fun e => (e.1, e.2.copied sets) := by
  induction entries with
  | nil => rfl
  | cons e rest ih => rw [copiedEntries, ih, List.map_cons]

namespace Entries

@[simp] theorem get?_copiedEntries (entries : Entries) (key : Value) :
    get? (copiedEntries sets entries) key = (entries.get? key).map (Value.copied sets) := by
  rw [copiedEntries_eq]
  simp only [get?, List.find?_map, Option.map_map]
  rfl

@[simp] theorem copiedEntries_put (entries : Entries) (key value : Value) :
    copiedEntries sets (entries.put key value) =
      put (copiedEntries sets entries) key (value.copied sets) := by
  induction entries with
  | nil => rfl
  | cons e rest ih =>
    simp only [put, copiedEntries]
    split
    · rfl
    · rw [copiedEntries, ih]

private theorem value_of_mem_put {entries : Entries} {key value : Value} {e : Value × Value}
    (hmem : e ∈ entries.put key value) : (∃ f ∈ entries, f.2 = e.2) ∨ e.2 = value := by
  induction entries with
  | nil => exact .inr (by rw [List.mem_singleton.mp hmem])
  | cons f rest ih =>
    rw [put] at hmem
    split at hmem
    · obtain rfl | hmem := List.mem_cons.mp hmem
      · exact .inr rfl
      · exact .inl ⟨e, List.mem_cons_of_mem _ hmem, rfl⟩
    · obtain rfl | hmem := List.mem_cons.mp hmem
      · exact .inl ⟨_, List.mem_cons_self, rfl⟩
      · obtain ⟨g, hg, hvalue⟩ | hvalue := ih hmem
        · exact .inl ⟨g, List.mem_cons_of_mem _ hg, hvalue⟩
        · exact .inr hvalue

end Entries

namespace Value

mutual

private theorem copied_over (below : Option Value) :
    (v : Value) → (Value.over below v).copied sets =
      Value.over (below.map (Value.copied sets)) (v.copied sets)
  | map entries => by
    match below with
    | some (.map base) =>
      show map (copiedEntries sets (Entries.merge base entries)) = _
      rw [copiedEntries_merge base entries]
      rfl
    | none | some .null | some (.bool _) | some (.int _) | some (.float _) | some (.text _)
    | some (.bytes _) | some (.date _) | some (.moment _) | some (.list _) | some (.tuple _)
    | some (.set _) | some (.again _) => rfl
  | list _ | tuple _ | set _ => rfl
  | null | bool _ | int _ | float _ | text _ | bytes _ | date _ | moment _ | again _ => rfl

theorem copiedEntries_merge (base : Entries) :
    (entries : List (Value × Value)) → copiedEntries sets (Entries.merge base entries) =
      Entries.merge (copiedEntries sets base) (copiedEntries sets entries)
  | [] => rfl
  | (k, v) :: rest => by
    rw [Entries.merge, copiedEntries_merge _ rest, Entries.copiedEntries_put,
      copied_over (base.get? k) v, ← Entries.get?_copiedEntries]
    rfl

end

variable {sets} {v : Value} {entries : Entries}

theorem copied_ne_map (hv : ∀ entries, v ≠ map entries) : ∀ entries, v.copied sets ≠ map entries := by
  cases v with
  | map entries => exact absurd rfl (hv entries)
  | _ => exact nofun

theorem WellFormed.copied (hv : v.WellFormed) (sets : SetOrder) : (v.copied sets).WellFormed := by
  induction hv with
  | leaf hleaf => exact .leaf (copied_ne_map hleaf)
  | @map entries distinct inside ih =>
    rw [Value.copied, copiedEntries_eq]
    exact .map (List.pairwise_map.mpr distinct) (List.forall_mem_map.mpr ih)

theorem WellFormed.put (hentries : (Value.map entries).WellFormed) (hv : v.WellFormed) (key : Value) :
    (Value.map (entries.put key v)).WellFormed := by
  obtain ⟨hdistinct, hinside⟩ := hentries.distinct_of_map
  refine .map (hdistinct.put key v) fun e he => ?_
  obtain ⟨f, hf, hvalue⟩ | hvalue := Entries.value_of_mem_put he
  · exact hvalue ▸ hinside f hf
  · exact hvalue ▸ hv

theorem WellFormed.over (hv : v.WellFormed) {below : Option Value}
    (hbelow : ∀ w ∈ below, w.WellFormed) : (Value.over below v).WellFormed := by
  induction hv generalizing below with
  | leaf hleaf =>
    rw [over_of_ne_map _ hleaf]
    exact .leaf hleaf
  | @map entries distinct inside ih =>
    obtain ⟨base, rfl, hover⟩ | ⟨-, hover⟩ := over_map_cases below entries
    · have hbase := hbelow _ rfl
      rw [hover]
      clear hbelow hover distinct inside
      induction entries generalizing base with
      | nil => exact hbase
      | cons e rest ihrest =>
        obtain ⟨hhead, hrest⟩ := List.forall_mem_cons.mp ih
        refine ihrest hrest _ (hbase.put (hhead fun w hw => ?_) e.1)
        obtain ⟨f, hf, -, rfl⟩ := Entries.mem_of_get? hw
        exact hbase.distinct_of_map.2 f hf
    · rw [hover]
      exact .map distinct inside

end Value

/-! ### Laying copies over what copies leave as it is -/

namespace Entries

variable {sets} {base entries : Entries} {key : Value}

theorem get?_merge_of_new (hnamed : Named base) (hbase : Distinct base) (hdistinct : Distinct entries)
    (hnew : ∀ e ∈ entries, e.1.sameKey key = false) : (merge base entries).get? key = base.get? key := by
  have hlast : get? (newTo base entries) key = none :=
    get?_eq_none_iff.mpr fun e he => hnew e (mem_newTo.mp he).1
  rw [merge_eq hnamed hbase hdistinct, get?_append, hlast, Option.or_none]
  simp only [get?, List.find?_map, Option.map_map]
  cases hfound : base.find? fun e => e.1.sameKey key with
  | none => exact congrArg _ hfound
  | some e =>
    obtain ⟨name, hname⟩ := hnamed e (List.mem_of_find?_eq_some hfound)
    have hkey := List.find?_some hfound
    have hsame : key = e.1 := by rwa [hname, Value.text_sameKey_iff, ← hname] at hkey
    have huntouched : laid entries e = e := laid_of_get?_none (get?_eq_none_iff.mpr (hsame ▸ hnew))
    exact (congrArg _ hfound).trans (congrArg (fun f : Value × Value => some f.2) huntouched)

private theorem mergeOnto_append (copy entries more : Entries) :
    mergeOnto sets copy (entries ++ more) = mergeOnto sets (mergeOnto sets copy entries) more := by
  induction entries generalizing copy with
  | nil => rfl
  | cons e rest ih =>
    obtain ⟨k, v⟩ := e
    rw [List.cons_append, mergeOnto, ih, mergeOnto]

/-- Entries whose values are laid over as their copies are. -/
theorem mergeOnto_eq_merge (hnamed : Named base) (hbase : Distinct base) (hdistinct : Distinct entries)
    (hover : ∀ e ∈ entries, Value.copiedOver sets (base.get? e.1) e.2 =
      Value.over (base.get? e.1) (e.2.copied sets)) :
    mergeOnto sets base entries = merge base (copiedEntries sets entries) := by
  induction entries using List.reverseRecOn with
  | nil => rfl
  | append_singleton before e ih =>
    obtain ⟨key, value⟩ := e
    obtain ⟨hbefore, -, hlast⟩ := List.pairwise_append.mp hdistinct
    obtain ⟨hover, hvalue⟩ := List.forall_mem_append.mp hover
    have hnew : ∀ e ∈ copiedEntries sets before, e.1.sameKey key = false := by
      rw [copiedEntries_eq]
      exact List.forall_mem_map.mpr fun f hf => hlast f hf _ (List.mem_singleton_self _)
    have hcopies : Distinct (copiedEntries sets before) := by
      rw [copiedEntries_eq]
      exact List.pairwise_map.mpr hbefore
    have hget := get?_merge_of_new hnamed hbase hcopies hnew
    have hcopied : copiedEntries sets (before ++ [(key, value)]) =
        copiedEntries sets before ++ [(key, value.copied sets)] := by
      rw [copiedEntries_eq, copiedEntries_eq, List.map_append]
      rfl
    rw [mergeOnto_append, ih hbefore hover, mergeOnto, mergeOnto, hget,
      hvalue _ (List.mem_singleton_self _), hcopied, merge_append, merge, merge, hget]

end Entries

namespace Value

variable {sets} {v : Value} {base entries : Entries}

/-- A value with names for keys that is the same as its copies, as far as mappings go. -/
def IsFixed (sets : SetOrder) (v : Value) : Prop :=
  v.copied sets = v ∧ v.Keyed fun key => ∃ name, key = .text name

theorem IsFixed.of_map (h : (map base).IsFixed sets) :
    copiedEntries sets base = base ∧ ∀ e ∈ base, e.2.IsFixed sets := by
  obtain ⟨hcopied, hkeyed⟩ := h
  have hbase : copiedEntries sets base = base := map.inj hcopied
  refine ⟨hbase, fun e he => ⟨?_, hkeyed.of_map.2.2 e he⟩⟩
  rw [copiedEntries_eq] at hbase
  have hsame := List.map_inj_left.mp (hbase.trans (List.map_id base).symm) e he
  exact congrArg Prod.snd hsame

/-- A copy laid over something that copies leave as it is. -/
theorem copiedOver_eq_over (hv : v.WellFormed) {below : Option Value}
    (hbelow : ∀ w ∈ below, w.IsFixed sets) :
    Value.copiedOver sets below v = Value.over below (v.copied sets) := by
  induction hv generalizing below with
  | @leaf v hleaf =>
    rw [over_of_ne_map _ (copied_ne_map hleaf)]
    cases v with
    | map entries => exact absurd rfl (hleaf entries)
    | _ => rfl
  | @map entries distinct inside ih =>
    rcases over_map_cases below (copiedEntries sets entries) with ⟨base, rfl, hover⟩ | ⟨hnone, hover⟩
    · obtain ⟨hbase, hinside⟩ := (hbelow _ rfl).of_map
      obtain ⟨hnamed, hdistinct, -⟩ := (hbelow _ rfl).2.of_map
      rw [Value.copied, hover, Value.copiedOver, hbase,
        Entries.mergeOnto_eq_merge hnamed hdistinct distinct fun e he => ih e he fun w hw => ?_]
      obtain ⟨f, hf, -, rfl⟩ := Entries.mem_of_get? hw
      exact hinside f hf
    · rw [Value.copied, hover, Value.copiedOver]
      exact hnone

theorem deepMerge_eq_merge (hbase : (map base).IsFixed sets) (hentries : (map entries).WellFormed) :
    Entries.deepMerge sets base entries = Entries.merge base (copiedEntries sets entries) := by
  have hbelow : ∀ w ∈ some (map base), w.IsFixed sets := by simpa using hbase
  exact map.inj (copiedOver_eq_over hentries hbelow)

end Value

end Substitute
