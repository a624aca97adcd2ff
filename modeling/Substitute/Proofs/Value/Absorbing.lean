import Substitute.Proofs.Value.Merging

/-!
# Merging again

Merging is absorbing on both sides: laying the merged mapping over the lower one again, or the upper one over the merged one again, changes nothing, neither the values nor the places of the keys. The first asks that the keys of the lower mapping can be found, the second that all keys can.
-/

namespace Substitute

namespace Entries

variable {base entries : Entries}

/-! ### One level -/

theorem newTo_eq_nil (hcovered : ∀ e ∈ entries, ∃ f ∈ base, f.1.sameKey e.1 = true) :
    newTo base entries = [] := by
  rw [List.eq_nil_iff_forall_not_mem]
  intro e he
  obtain ⟨hmem, hother⟩ := mem_newTo.mp he
  obtain ⟨f, hf, hsame⟩ := hcovered e hmem
  rw [hother f hf] at hsame
  exact Bool.false_ne_true hsame

/-- Entries under keys that are all there already, with values that change nothing in their places. -/
theorem merge_eq_base (hagree : Agree base entries) (hbase : Distinct base)
    (hentries : Distinct entries) (hcovered : ∀ e ∈ entries, ∃ f ∈ base, f.1.sameKey e.1 = true)
    (hlaid : ∀ f ∈ base, laid entries f = f) : merge base entries = base := by
  rw [merge_eq_of_agree hagree hbase hentries, newTo_eq_nil hcovered, List.append_nil,
    List.map_congr_left hlaid, List.map_id']

theorem laid_of_get? {key below above : Value} (hfound : entries.get? key = some above) :
    laid entries (key, below) = (key, Value.over (some below) above) := by
  rw [laid, hfound, Option.map_some, Option.getD_some]

theorem laid_of_get?_none {e : Value × Value} (hnone : entries.get? e.1 = none) :
    laid entries e = e := by
  rw [laid, hnone]
  rfl

theorem laid_eq_self (hdistinct : Distinct entries)
    (hself : ∀ e ∈ entries, e.1.sameKey e.1 = true)
    (hvalue : ∀ e ∈ entries, Value.over (some e.2) e.2 = e.2) :
    ∀ e ∈ entries, laid entries e = e := by
  intro e he
  rw [laid_of_get? (get?_of_mem hdistinct he (hself e he)), hvalue e he]

private theorem newTo_merge (hagree : Agree base entries) (hbase : Distinct base)
    (hentries : Distinct entries) (hself : ∀ e ∈ base, e.1.sameKey e.1 = true) :
    newTo base (merge base entries) = newTo base entries := by
  have hold : newTo base (base.map (laid entries)) = [] :=
    newTo_eq_nil (List.forall_mem_map.mpr fun e he => ⟨e, he, hself e he⟩)
  have hagain : newTo base (newTo base entries) = newTo base entries := by
    simp only [newTo, List.filter_filter, Bool.and_self]
  rw [merge_eq_of_agree hagree hbase hentries, newTo_append, hold, hagain, List.nil_append]

private theorem merge_lower_again (hagree : Agree base entries) (hagain : Agree base (merge base entries))
    (hbase : Distinct base) (hentries : Distinct entries)
    (hself : ∀ e ∈ base, e.1.sameKey e.1 = true)
    (hkept : ∀ e ∈ base, Value.over (some e.2) e.2 = e.2)
    (hlaid : ∀ e ∈ base, ∀ f ∈ entries,
      Value.over (some e.2) (Value.over (some e.2) f.2) = Value.over (some e.2) f.2) :
    merge base (merge base entries) = merge base entries := by
  have hmerged := merge_eq_of_agree hagree hbase hentries
  have hold : ∀ e ∈ base, laid (merge base entries) e = laid entries e := by
    intro e he
    have hmem : laid entries e ∈ merge base entries := by
      rw [hmerged]
      exact List.mem_append_left _ (List.mem_map_of_mem he)
    have hfound : (merge base entries).get? e.1 = some (laid entries e).2 :=
      get?_of_mem (hbase.merge entries) hmem (hself e he)
    rw [laid_of_get? hfound]
    cases hupper : entries.get? e.1 with
    | none => rw [laid_of_get?_none hupper, hkept e he]
    | some above =>
      obtain ⟨f, hf, -, rfl⟩ := mem_of_get? hupper
      rw [laid_of_get? hupper, hlaid e he f hf]
  rw [merge_eq_of_agree hagain hbase (hbase.merge entries),
    newTo_merge hagree hbase hentries hself, List.map_congr_left hold, hmerged]

private theorem merge_upper_again (hagree : Agree base entries) (hagain : Agree (merge base entries) entries)
    (hbase : Distinct base) (hentries : Distinct entries)
    (hself : ∀ e ∈ entries, e.1.sameKey e.1 = true)
    (hkept : ∀ e ∈ entries, Value.over (some e.2) e.2 = e.2)
    (hlaid : ∀ e ∈ base, ∀ f ∈ entries,
      Value.over (some (Value.over (some e.2) f.2)) f.2 = Value.over (some e.2) f.2) :
    merge (merge base entries) entries = merge base entries := by
  have hmerged := merge_eq_of_agree hagree hbase hentries
  refine merge_eq_base hagain (hbase.merge entries) hentries (fun e he => ?_) ?_
  · rw [hmerged]
    by_cases hold : ∃ f ∈ base, f.1.sameKey e.1 = true
    · obtain ⟨f, hf, hsame⟩ := hold
      exact ⟨laid entries f, List.mem_append_left _ (List.mem_map_of_mem hf), hsame⟩
    · have hnew : e ∈ newTo base entries := mem_newTo.mpr ⟨he, by simpa using hold⟩
      exact ⟨e, List.mem_append_right _ hnew, hself e he⟩
  · rw [hmerged, List.forall_mem_append, List.forall_mem_map]
    refine ⟨fun e he => ?_, fun e he => laid_eq_self hentries hself hkept e (mem_newTo.mp he).1⟩
    cases hupper : entries.get? e.1 with
    | none => rw [laid_of_get?_none hupper, laid_of_get?_none hupper]
    | some above =>
      obtain ⟨f, hf, -, rfl⟩ := mem_of_get? hupper
      rw [laid_of_get? hupper, laid_of_get? hupper, hlaid e he f hf]

end Entries

namespace Value

/-- Two kinds of keys, one in lower mappings and one in upper ones: the lower keys can be found, and no two keys of one mapping pass for one key of the other. -/
structure Comparable (P Q : Value → Prop) : Prop where
  self : ∀ key, P key → key.sameKey key = true
  weaken : ∀ key, P key → Q key
  agree : ∀ base entries : Entries, (∀ e ∈ base, P e.1) → (∀ e ∈ entries, Q e.1) →
    Entries.Agree base entries

theorem comparable_isKey : Comparable IsKey IsKey where
  self := sameKey_self
  weaken := fun _ => id
  agree := fun _ _ => .of_keys

theorem comparable_named : Comparable (fun key => ∃ name, key = .text name) fun _ => True where
  self := by
    rintro _ ⟨name, rfl⟩
    exact text_sameKey_iff.mpr rfl
  weaken := fun _ _ => trivial
  agree := fun _ entries hbase _ => .of_named hbase entries

variable {P Q : Value → Prop} {below above v : Value} {base entries : Entries}

theorem WellFormed.keyed (hv : v.WellFormed) : v.Keyed fun _ => True := by
  induction hv with
  | map distinct _ ih => exact .map (fun _ _ => trivial) distinct ih
  | leaf hleaf => exact .leaf hleaf

theorem Keyed.wellFormed (hv : v.Keyed P) : v.WellFormed := by
  induction hv with
  | map _ distinct _ ih => exact .map distinct ih
  | leaf hleaf => exact .leaf hleaf

namespace Comparable

/-! ### Mappings at any depth -/

theorem key_merge (h : Comparable P Q) (hbase : (map base).Keyed P)
    (hentries : (map entries).Keyed Q) : ∀ e ∈ Entries.merge base entries, Q e.1 := by
  obtain ⟨hlower, hlower_distinct, -⟩ := hbase.of_map
  obtain ⟨hupper, hupper_distinct, -⟩ := hentries.of_map
  rw [Entries.merge_eq_of_agree (h.agree _ _ hlower hupper) hlower_distinct hupper_distinct,
    List.forall_mem_append, List.forall_mem_map]
  exact ⟨fun e he => h.weaken _ (hlower e he), fun e he => hupper e (Entries.mem_newTo.mp he).1⟩

theorem over_self (h : Comparable P Q) (hv : v.Keyed P) : Value.over (some v) v = v := by
  induction hv with
  | leaf hleaf => exact over_of_ne_map _ hleaf
  | @map entries keys distinct inside ih =>
    have hself := fun e he => h.self _ (keys e he)
    have hagree := h.agree entries entries keys fun e he => h.weaken _ (keys e he)
    rw [Value.over, Entries.merge_eq_base hagree distinct distinct (fun e he => ⟨e, he, hself e he⟩)
      (Entries.laid_eq_self distinct hself ih)]

theorem over_lower_again (h : Comparable P Q) (hbelow : below.Keyed P) (habove : above.Keyed Q) :
    Value.over (some below) (Value.over (some below) above) = Value.over (some below) above := by
  induction habove generalizing below with
  | leaf hleaf => rw [over_of_ne_map _ hleaf, over_of_ne_map _ hleaf]
  | @map entries keys distinct inside ih =>
    rcases over_map_cases (some below) entries with ⟨base, hsome, hover⟩ | ⟨-, hover⟩
    · obtain rfl := Option.some.inj hsome
      obtain ⟨hkeys, hdistinct, hinside⟩ := hbelow.of_map
      have hmerged := h.key_merge hbelow (.map keys distinct inside)
      rw [hover, Value.over, Entries.merge_lower_again (h.agree _ _ hkeys keys)
        (h.agree _ _ hkeys hmerged) hdistinct distinct (fun e he => h.self _ (hkeys e he))
        (fun e he => h.over_self (hinside e he)) fun e he f hf => ih f hf (hinside e he)]
    · rw [hover, hover]

theorem over_upper_again (h : Comparable P P) (hbelow : below.Keyed P) (habove : above.Keyed P) :
    Value.over (some (Value.over (some below) above)) above = Value.over (some below) above := by
  induction habove generalizing below with
  | leaf hleaf => rw [over_of_ne_map _ hleaf, over_of_ne_map _ hleaf]
  | @map entries keys distinct inside ih =>
    rcases over_map_cases (some below) entries with ⟨base, hsome, hover⟩ | ⟨-, hover⟩
    · obtain rfl := Option.some.inj hsome
      obtain ⟨hkeys, hdistinct, hinside⟩ := hbelow.of_map
      have hmerged := h.key_merge hbelow (.map keys distinct inside)
      rw [hover, Value.over, Entries.merge_upper_again (h.agree _ _ hkeys keys)
        (h.agree _ _ hmerged keys) hdistinct distinct (fun e he => h.self _ (keys e he))
        (fun e he => h.over_self (inside e he)) fun e he f hf => ih f hf (hinside e he)]
    · rw [hover, h.over_self (.map keys distinct inside)]

end Comparable

end Value

end Substitute
