import Mathlib.Data.List.Perm.Subperm
import Substitute.Proofs.Value.Mapping
import Substitute.Settings.Loading

/-!
# Label tables

Key bindings, symbols and styles are read from mappings that were laid over default ones, and are laid over the default ones again when settings are loaded back. The labels that were dropped the first time are restored the second time, and all others keep their texts and their order.
-/

namespace Substitute

namespace Labels

variable {base labels : Labels}

structure IsTable (labels : Labels) : Prop where
  named : Entries.Named (toEntries labels)
  distinct : Entries.Distinct (toEntries labels)

/-- There is a label for every name of the lower table. -/
def Covers (labels base : Labels) : Prop :=
  ∀ l ∈ base, ∃ m ∈ labels, m.1.sameKey l.1 = true

instance (labels base : Labels) : Decidable (Covers labels base) :=
  inferInstanceAs (Decidable (∀ l ∈ base, ∃ m ∈ labels, m.1.sameKey l.1 = true))

/-- A label of the lower table, with the text that it has among `labels` if it has one there. -/
def restored (labels : Labels) (l : Value × Text) : Value × Text :=
  (l.1, ((labels.find? (·.1.sameKey l.1)).map Prod.snd).getD l.2)

def laidOver (labels base : Labels) : Labels :=
  base.map (restored labels) ++ labels.filter fun m => !base.any (·.1.sameKey m.1)

/-- Labels that were read from a mapping laid over the lower table: some of its names in their order, and then new names. -/
structure ReadOver (labels base : Labels) : Prop where
  distinct : Entries.Distinct (toEntries labels)
  layered : ∃ kept added, labels = kept ++ added ∧
    (kept.map Prod.fst).Sublist (base.map Prod.fst) ∧
    ∀ m ∈ added, ∀ l ∈ base, l.1.sameKey m.1 = false

theorem ReadOver.nil : ReadOver [] base :=
  ⟨List.Pairwise.nil, [], [], rfl, List.nil_sublist _, by simp⟩

@[simp] theorem keys_toEntries (labels : Labels) : (toEntries labels).map Prod.fst = labels.map Prod.fst := by
  rw [toEntries, List.map_map]
  rfl

theorem get?_toEntries (labels : Labels) (key : Value) :
    (toEntries labels).get? key = (labels.find? (·.1.sameKey key)).map fun m => .text m.2 := by
  rw [Entries.get?, toEntries, List.find?_map, Option.map_map]
  rfl

theorem IsTable.name_of_mem (hbase : base.IsTable) {l : Value × Text} (hl : l ∈ base) :
    ∃ name, l.1 = .text name :=
  hbase.named (l.1, .text l.2) (List.mem_map.mpr ⟨l, hl, rfl⟩)

theorem IsTable.sameKey_self (hbase : base.IsTable) {l : Value × Text} (hl : l ∈ base) :
    l.1.sameKey l.1 = true := by
  obtain ⟨name, hname⟩ := hbase.name_of_mem hl
  rw [hname]
  exact Value.sameKey_text_iff.mpr rfl

theorem merge_toEntries (hbase : base.IsTable) (hlabels : Entries.Distinct (toEntries labels)) :
    Entries.merge (toEntries base) (toEntries labels) = toEntries (labels.laidOver base) := by
  have hlaid : ∀ l : Value × Text,
      Entries.laid (toEntries labels) (l.1, .text l.2) =
        ((restored labels l).1, .text (restored labels l).2) := by
    intro l
    rw [Entries.laid, get?_toEntries, restored]
    cases labels.find? (·.1.sameKey l.1) <;> rfl
  have hnew : Entries.newTo (toEntries base) (toEntries labels) =
      toEntries (labels.filter fun m => !base.any (·.1.sameKey m.1)) := by
    simp only [Entries.newTo, toEntries, List.filter_map, List.any_map]
    rfl
  rw [Entries.merge_eq hbase.named hbase.distinct hlabels, hnew, laidOver]
  simp only [toEntries, List.map_append, List.map_map]
  congr 1
  exact List.map_congr_left fun l _ => hlaid l

theorem mem_laidOver (hbase : base.IsTable) {l : Value × Text}
    (hmem : l ∈ labels.laidOver base) : l ∈ base ∨ l ∈ labels := by
  rcases List.mem_append.mp hmem with hmem | hmem
  · obtain ⟨below, hbelow, rfl⟩ := List.mem_map.mp hmem
    rw [restored]
    cases hfound : labels.find? (·.1.sameKey below.1) with
    | none => exact .inl hbelow
    | some m =>
      obtain ⟨name, hname⟩ := hbase.name_of_mem hbelow
      have hsame := List.find?_some hfound
      have hkey : below.1 = m.1 := by
        rw [hname] at hsame ⊢
        exact (Value.sameKey_text_iff.mp hsame).symm
      rw [hkey]
      exact .inr (List.mem_of_find?_eq_some hfound)
  · exact .inr (List.mem_filter.mp hmem).1

private theorem covers_laidOver (hbase : base.IsTable) : (labels.laidOver base).Covers base := by
  intro l hl
  refine ⟨restored labels l, List.mem_append_left _ (List.mem_map.mpr ⟨l, hl, rfl⟩), ?_⟩
  have hself := hbase.sameKey_self hl
  exact hself

private theorem restored_of_mem (hlabels : Entries.Distinct (toEntries labels)) {l m : Value × Text}
    {name : Text} (hm : m ∈ labels) (hname : m.1 = .text name) (hkey : m.1 = l.1) :
    restored labels l = m := by
  have hentry : (.text name, .text m.2) ∈ toEntries labels :=
    List.mem_map.mpr ⟨m, hm, by rw [hname]⟩
  have hfound := (Entries.get?_name_eq_some_iff hlabels).mpr hentry
  rw [get?_toEntries, ← hname] at hfound
  rw [restored, ← hkey]
  cases hfind : labels.find? (·.1.sameKey m.1) with
  | none => simp [hfind] at hfound
  | some other =>
    have htext : other.2 = m.2 := by simpa [hfind] using hfound
    rw [Option.map_some, Option.getD_some, htext]

private theorem IsTable.nodup_names (hbase : base.IsTable) : (base.map Prod.fst).Nodup := by
  rw [← keys_toEntries, List.Nodup, List.pairwise_map]
  refine hbase.distinct.imp_of_mem fun {e f} he _ hother hsame => ?_
  obtain ⟨name, hname⟩ := hbase.named e he
  rw [← hsame, hname] at hother
  simp [Value.sameKey] at hother

private theorem ReadOver.exists_of_covers (hbase : base.IsTable) (hread : labels.ReadOver base)
    (hcovers : labels.Covers base) :
    ∃ kept added, labels = kept ++ added ∧ kept.map Prod.fst = base.map Prod.fst ∧
      ∀ m ∈ added, ∀ l ∈ base, l.1.sameKey m.1 = false := by
  obtain ⟨kept, added, rfl, hsub, hadded⟩ := hread.layered
  refine ⟨kept, added, rfl, hsub.eq_of_length_le ?_, hadded⟩
  refine (hbase.nodup_names.subperm ?_).length_le
  intro key hkey
  obtain ⟨l, hl, rfl⟩ := List.mem_map.mp hkey
  obtain ⟨name, hname⟩ := hbase.name_of_mem hl
  obtain ⟨m, hm, hsame⟩ := hcovers l hl
  rcases List.mem_append.mp hm with hm | hm
  · rw [hname] at hsame ⊢
    exact List.mem_map.mpr ⟨m, hm, Value.sameKey_text_iff.mp hsame⟩
  · have hother := hadded m hm l hl
    rw [Value.sameKey_comm, hsame] at hother
    cases hother

theorem laidOver_append {kept added : Labels} (hbase : base.IsTable)
    (hkept : ∀ m ∈ kept, ∃ l ∈ base, l.1 = m.1)
    (hadded : ∀ m ∈ added, ∀ l ∈ base, l.1.sameKey m.1 = false) :
    (kept ++ added).laidOver base = base.map (restored (kept ++ added)) ++ added := by
  have hdropped : kept.filter (fun m => !base.any (·.1.sameKey m.1)) = [] := by
    refine List.filter_eq_nil_iff.mpr fun m hm => ?_
    obtain ⟨l, hl, hkey⟩ := hkept m hm
    have hany : base.any (·.1.sameKey m.1) = true :=
      List.any_eq_true.mpr ⟨l, hl, hkey ▸ hbase.sameKey_self hl⟩
    rw [hany]
    exact Bool.false_ne_true
  have hstays : added.filter (fun m => !base.any (·.1.sameKey m.1)) = added := by
    refine List.filter_eq_self.mpr fun m hm => ?_
    simpa using fun k t hl => hadded m hm (k, t) hl
  rw [laidOver, List.filter_append, hdropped, hstays, List.nil_append]

theorem exists_mem_of_names_subset {kept : Labels} (hsub : kept.map Prod.fst ⊆ base.map Prod.fst) :
    ∀ m ∈ kept, ∃ l ∈ base, l.1 = m.1 := by
  intro m hm
  exact List.mem_map.mp (hsub (List.mem_map.mpr ⟨m, hm, rfl⟩))

private theorem laidOver_of_names {kept added : Labels} (hbase : base.IsTable)
    (hlabels : Entries.Distinct (toEntries (kept ++ added)))
    (hnames : kept.map Prod.fst = base.map Prod.fst)
    (hadded : ∀ m ∈ added, ∀ l ∈ base, l.1.sameKey m.1 = false) :
    (kept ++ added).laidOver base = kept ++ added := by
  have hlower : base.map (restored (kept ++ added)) = kept := by
    refine List.ext_getElem (by simpa using (congrArg List.length hnames).symm) ?_
    intro i hi hi'
    rw [List.length_map] at hi
    have hkey : kept[i].1 = base[i].1 := by
      simpa [hi, hi'] using congrArg (·[i]?) hnames
    obtain ⟨name, hname⟩ := hbase.name_of_mem (List.getElem_mem hi)
    rw [List.getElem_map]
    exact restored_of_mem hlabels (List.mem_append_left _ (List.getElem_mem hi'))
      (hkey.trans hname) hkey
  rw [laidOver_append hbase (exists_mem_of_names_subset fun _ hkey => hnames ▸ hkey) hadded, hlower]

/-- Labels that were read over a table are kept as they are when they are laid over it again, provided that no name of it is missing. -/
theorem laidOver_eq_self_iff (hbase : base.IsTable) (hread : labels.ReadOver base) :
    labels.laidOver base = labels ↔ labels.Covers base := by
  constructor
  · intro hsame
    rw [← hsame]
    exact covers_laidOver hbase
  · intro hcovers
    obtain ⟨kept, added, rfl, hnames, hadded⟩ := hread.exists_of_covers hbase hcovers
    exact laidOver_of_names hbase hread.distinct hnames hadded

/-! ### Equal tables -/

private theorem same_map_self {entries : Entries} (hdistinct : Entries.Distinct entries)
    (hself : ∀ e ∈ entries, e.1.sameKey e.1 = true ∧ e.2.same e.2 = true) :
    (Value.map entries).same (.map entries) = true := by
  have hsome : ∀ some ⊆ entries, Value.sameEntries some entries = true := by
    intro some hsub
    induction some with
    | nil => rfl
    | cons e rest ih =>
      obtain ⟨hhead, hrest⟩ := List.cons_subset.mp hsub
      obtain ⟨hkey, hvalue⟩ := hself e hhead
      rw [Value.sameEntries, Entries.get?_of_mem hdistinct hhead hkey, ih hrest]
      simpa using hvalue
  simpa [Value.same] using hsome entries (List.Subset.refl _)

@[simp] theorem sameLabels_self (hlabels : Entries.Distinct (toEntries labels)) :
    Settings.same.sameLabels labels labels = true := by
  have hsub : (toEntries (labels.filter fun l => l.1.sameKey l.1)).Sublist (toEntries labels) :=
    List.filter_sublist.map _
  have hsame : (Value.map (toEntries (labels.filter fun l => l.1.sameKey l.1))).same
      (.map (toEntries (labels.filter fun l => l.1.sameKey l.1))) = true := by
    refine same_map_self (hlabels.sublist hsub) ?_
    intro e he
    obtain ⟨l, hl, rfl⟩ := List.mem_map.mp he
    exact ⟨(List.mem_filter.mp hl).2, by simp [Value.same, Value.sameKey]⟩
  simpa [Settings.same.sameLabels] using hsame

theorem covers_of_sameLabels (hbase : base.IsTable) (hread : labels.ReadOver base)
    (hsame : Settings.same.sameLabels labels (labels.laidOver base) = true) :
    labels.Covers base := by
  obtain ⟨kept, added, rfl, hsub, hadded⟩ := hread.layered
  have hkept := exists_mem_of_names_subset hsub.subset
  rw [laidOver_append hbase hkept hadded] at hsame
  have hlengths : kept.length = base.length := by
    have hkept_self : kept.filter (fun m => m.1.sameKey m.1) = kept := by
      refine List.filter_eq_self.mpr fun m hm => ?_
      obtain ⟨l, hl, hkey⟩ := hkept m hm
      rw [← hkey]
      exact hbase.sameKey_self hl
    have hbase_self : (base.map (restored (kept ++ added))).filter (fun m => m.1.sameKey m.1) =
        base.map (restored (kept ++ added)) := by
      refine List.filter_eq_self.mpr fun m hm => ?_
      obtain ⟨l, hl, rfl⟩ := List.mem_map.mp hm
      have hself := hbase.sameKey_self hl
      exact hself
    simp only [Settings.same.sameLabels, Bool.and_eq_true, Value.same, beq_iff_eq, Bool.not_not,
      List.filter_append, hkept_self, hbase_self, toEntries] at hsame
    obtain ⟨-, hcount, -⟩ := hsame
    simpa using hcount
  have hnames := hsub.eq_of_length_le (by simp [hlengths])
  intro l hl
  obtain ⟨m, hm, hkey⟩ := exists_mem_of_names_subset (fun _ hkey => hnames ▸ hkey) l hl
  refine ⟨m, List.mem_append_left _ hm, ?_⟩
  rw [hkey]
  exact hbase.sameKey_self hl

/-! ### Reading labels from a mapping -/

private theorem mem_ofEntries {entries : Entries} {m : Value × Text} :
    m ∈ ofEntries entries ↔ (m.1, .text m.2) ∈ entries := by
  obtain ⟨k, t⟩ := m
  simp only [ofEntries, List.mem_filterMap]
  constructor
  · rintro ⟨⟨k', v⟩, hmem, hread⟩
    cases v <;> simp at hread
    obtain ⟨rfl, rfl⟩ := hread
    exact hmem
  · intro hmem
    exact ⟨_, hmem, rfl⟩

@[simp] theorem ofEntries_toEntries (labels : Labels) : ofEntries (toEntries labels) = labels := by
  rw [ofEntries, toEntries, List.filterMap_map]
  exact List.filterMap_some

theorem names_ofEntries (entries : Entries) :
    ((ofEntries entries).map Prod.fst).Sublist (entries.map Prod.fst) := by
  induction entries with
  | nil => exact List.Sublist.refl _
  | cons e rest ih =>
    obtain ⟨k, v⟩ := e
    cases v with
    | text t => exact ih.cons_cons k
    | _ => exact ih.cons k

/-- Only the names of the lower mapping decide which of its labels may be read. -/
theorem readOver_of_merge {lower upper : Entries} (p : Value × Text → Bool)
    (hnamed : Entries.Named lower) (hlower : Entries.Distinct lower)
    (hupper : Entries.Distinct upper)
    (hkept : ∀ entries : Entries, entries.map Prod.fst = lower.map Prod.fst →
      (((ofEntries entries).filter p).map Prod.fst).Sublist (base.map Prod.fst))
    (hbase : ∀ l ∈ base, ∃ e ∈ lower, e.1 = l.1) :
    ReadOver ((ofEntries (Entries.merge lower upper)).filter p) base where
  distinct := by
    refine (hlower.merge upper).of_keys_sublist ?_
    rw [keys_toEntries]
    exact (List.filter_sublist.map _).trans (names_ofEntries _)
  layered := by
    rw [Entries.merge_eq hnamed hlower hupper, ofEntries, List.filterMap_append, List.filter_append]
    refine ⟨_, _, rfl, hkept _ ?_, ?_⟩
    · rw [List.map_map]
      rfl
    · intro m hm l hl
      obtain ⟨e, he, hkey⟩ := hbase l hl
      rw [← hkey]
      exact (Entries.mem_newTo.mp (mem_ofEntries.mp (List.mem_filter.mp hm).1)).2 e he

end Labels

end Substitute
