import Substitute.Proofs.Settings.Accepted
import Substitute.Proofs.Value.Unordered

/-!
# Settings and the order of sets

Whether a configuration is accepted does not depend on the order in which its sets have their members, and of the settings only the default flags do: a set may be shown there, and nowhere else would its text be accepted.
-/

namespace Substitute

open Value (unordered unorderedEntries)

def EndsInBracket (t : Text) : Prop :=
  t.getLast? ∈ [some ']', some ')', some '\x7d']

instance (t : Text) : Decidable (EndsInBracket t) :=
  inferInstanceAs (Decidable (_ ∈ _))

theorem endsInBracket_iff {t : Text} :
    EndsInBracket t ↔ ∃ front, ∃ close ∈ [']', ')', '\x7d'], t = front ++ [close] := by
  simp only [EndsInBracket, List.mem_cons, List.not_mem_nil, or_false, List.getLast?_eq_some_iff]
  constructor
  · rintro (⟨front, rfl⟩ | ⟨front, rfl⟩ | ⟨front, rfl⟩)
    · exact ⟨front, _, .inl rfl, rfl⟩
    · exact ⟨front, _, .inr (.inl rfl), rfl⟩
    · exact ⟨front, _, .inr (.inr rfl), rfl⟩
  · rintro ⟨front, _, rfl | rfl | rfl, rfl⟩
    · exact .inl ⟨front, rfl⟩
    · exact .inr (.inl ⟨front, rfl⟩)
    · exact .inr (.inr ⟨front, rfl⟩)

namespace Value

variable {v w : Value}

def IsBracketed : Value → Prop
  | list _ | tuple _ | set _ | map _ => True
  | _ => False

theorem unordered_cases (v : Value) :
    v.unordered = v ∨ v.IsBracketed ∧ v.unordered.IsBracketed := by
  cases v with
  | list _ | tuple _ | set _ | map _ => exact .inr ⟨trivial, trivial⟩
  | _ => exact .inl rfl

theorem eq_of_unordered (hsame : v.unordered = w.unordered) (hflat : ¬ v.IsBracketed) : w = v := by
  have hv : v.unordered = v := (unordered_cases v).resolve_right fun h => hflat h.1
  obtain hw | ⟨-, hw⟩ := unordered_cases w
  · rw [← hw, ← hsame, hv]
  · rw [← hsame, hv] at hw
    exact absurd hw hflat

private theorem endsInBracket_shown (hv : v.IsBracketed) : EndsInBracket v.shown := by
  refine endsInBracket_iff.mpr ?_
  cases v with
  | list items => exact ⟨_, ']', by decide, rfl⟩
  | tuple items =>
    match items with
    | [] => exact ⟨_, ')', by decide, rfl⟩
    | [item] => exact ⟨'(' :: item.quoted ++ [','], ')', by decide, by simp [shown, quoted]⟩
    | first :: second :: rest => exact ⟨_, ')', by decide, rfl⟩
  | set items =>
    cases items with
    | nil => exact ⟨"set(", ')', by decide, rfl⟩
    | cons first rest => exact ⟨_, '\x7d', by decide, rfl⟩
  | map entries => exact ⟨_, '\x7d', by decide, rfl⟩
  | _ => exact hv.elim

private theorem toList_perm (members : List Value) :
    (Multiset.ofList (unorderedItems members)).toList.Perm (unorderedItems members) :=
  Multiset.coe_eq_coe.mp (Multiset.coe_toList _)

private theorem areWritable_perm {items others : List Value} (hperm : items.Perm others) :
    areWritable items = areWritable others := by
  have hall : ∀ vs : List Value, areWritable vs = vs.all isWritable := by
    intro vs
    induction vs with
    | nil => rfl
    | cons v rest ih => rw [areWritable, ih, List.all_cons]
  rw [hall, hall, Bool.eq_iff_iff, List.all_eq_true, List.all_eq_true]
  exact forall_congr' fun v => imp_congr_left hperm.mem_iff

mutual

@[simp] theorem isWritable_unordered : (v : Value) → v.unordered.isWritable = v.isWritable
  | list items => areWritable_unorderedItems items
  | tuple items => areWritable_unorderedItems items
  | set members => by
    rw [unordered, isWritable, isWritable, ← areWritable_unorderedItems members]
    exact areWritable_perm (toList_perm members)
  | map entries => areEntriesWritable_unorderedEntries entries
  | null | bool _ | int _ | float _ | text _ | bytes _ | date _ | moment _ | again _ => rfl

theorem areWritable_unorderedItems :
    (items : List Value) → areWritable (unorderedItems items) = areWritable items
  | [] => rfl
  | v :: rest => by
    rw [unorderedItems, areWritable, areWritable, isWritable_unordered v,
      areWritable_unorderedItems rest]

theorem areEntriesWritable_unorderedEntries :
    (entries : List (Value × Value)) →
      areEntriesWritable (unorderedEntries entries) = areEntriesWritable entries
  | [] => rfl
  | (k, v) :: rest => by
    rw [unorderedEntries, areEntriesWritable, areEntriesWritable, isWritable_unordered v,
      areEntriesWritable_unorderedEntries rest]

end

@[simp] theorem isTruthy_unordered (v : Value) : v.unordered.isTruthy = v.isTruthy := by
  cases v with
  | list items | tuple items => cases items <;> rfl
  | map entries => cases entries <;> rfl
  | set members =>
    rw [unordered, isTruthy, isTruthy, (toList_perm members).isEmpty_eq, unorderedItems_eq,
      List.isEmpty_map]
  | _ => rfl

private theorem unordered_eq_text_iff {t : Text} : v.unordered = text t ↔ v = text t := by
  cases v <;> simp [unordered]

end Value

namespace Entries

@[simp] theorem getNamed_unorderedEntries (config : Entries) (name : Text) :
    getNamed (unorderedEntries config) name = (getNamed config name).unordered := by
  rw [getNamed, get?_unorderedEntries, getNamed]
  cases get? config (.text name) <;> rfl

@[simp] theorem getMap_unorderedEntries (config : Entries) (name : Text) :
    getMap (unorderedEntries config) name = unorderedEntries (getMap config name) := by
  rw [getMap, getNamed_unorderedEntries, getMap]
  cases getNamed config name <;> rfl

end Entries

namespace Settings

open Entries (getNamed getMap getNamed_unorderedEntries getMap_unorderedEntries)

@[simp] theorem isText_unordered (v : Value) : isText v.unordered = isText v := by
  cases v <;> rfl

private theorem sameKey_null_unordered (v : Value) : v.unordered.sameKey .null = v.sameKey .null := by
  cases v <;> rfl

/-- The names of the entries that fail a test do not depend on the order of sets, if the test does not. -/
theorem map_fst_filter_unorderedEntries (entries : Entries) {test : Value × Value → Bool}
    (htest : ∀ k v, test (k, v.unordered) = test (k, v)) :
    ((unorderedEntries entries).filter test).map Prod.fst = (entries.filter test).map Prod.fst := by
  rw [Value.unorderedEntries_eq, List.filter_map, List.map_map]
  have hsame : test ∘ (fun e => (e.1, e.2.unordered)) = test := funext fun e => htest e.1 e.2
  rw [hsame]
  rfl

@[simp] theorem sectionProblems_unorderedEntries (config : Entries) (name : Text) :
    sectionProblems (unorderedEntries config) name = sectionProblems config name := by
  rw [sectionProblems, getNamed_unorderedEntries, sectionProblems]
  cases getNamed config name <;> rfl

@[simp] theorem cycleProblems_unorderedEntries (config : Entries) (name : Text) :
    cycleProblems (unorderedEntries config) name = cycleProblems config name := by
  rw [cycleProblems, getNamed_unorderedEntries, cycleProblems]
  cases getNamed config name <;> rfl

@[simp] theorem labelProblems_unorderedEntries (config : Entries) (name : Text) :
    labelProblems (unorderedEntries config) name = labelProblems config name := by
  rw [labelProblems, getMap_unorderedEntries, getNamed_unorderedEntries, labelProblems]
  cases getNamed (getMap config "dashboard") name with
  | map entries =>
    show SettingsDraft.complaints (((unorderedEntries entries).filter _).map Prod.fst) _ = _
    rw [map_fst_filter_unorderedEntries entries fun k v => by simp only [isText_unordered]]
  | _ => rfl

@[simp] theorem keymapProblems_unorderedEntries (config : Entries) :
    keymapProblems (unorderedEntries config) = keymapProblems config := by
  rw [keymapProblems, getMap_unorderedEntries, keymapProblems]
  rw [map_fst_filter_unorderedEntries _ fun k v => by
    simp only [isText_unordered, sameKey_null_unordered]]

private theorem shapeProblems_unorderedEntries (config : Entries) :
    shapeProblems (unorderedEntries config) = shapeProblems config := by
  simp only [shapeProblems, sectionProblems_unorderedEntries, labelProblems_unorderedEntries,
    keymapProblems_unorderedEntries, cycleProblems_unorderedEntries]

private theorem cycleItems_unorderedEntries (config : Entries) (name : Text) :
    cycleItems (unorderedEntries config) name = (cycleItems config name).map unordered := by
  rw [cycleItems, getNamed_unorderedEntries, cycleItems]
  cases getNamed config name with
  | list items => exact Value.unorderedItems_eq items
  | text t =>
    simp only [List.map_map]
    rfl
  | _ => rfl

private theorem isEnabled_unorderedEntries (entries : Entries) :
    isEnabled (unorderedEntries entries) = isEnabled entries := by
  rw [isEnabled, Entries.get?_unorderedEntries, isEnabled]
  cases entries.get? (.text "enable") with
  | none => rfl
  | some v => exact v.isTruthy_unordered

@[simp] theorem ofEntries_unorderedEntries (entries : Entries) :
    Labels.ofEntries (unorderedEntries entries) = Labels.ofEntries entries := by
  rw [Value.unorderedEntries_eq, Labels.ofEntries, List.filterMap_map]
  refine congrArg (List.filterMap · entries) (funext fun e => ?_)
  rw [Function.comp_apply]
  cases e.2 <;> rfl

/-! ### Acceptance -/

variable {config other : Entries} {s : Settings}

/-- The text of a name that does not end with a bracket is the text of one value, whatever order sets have. -/
theorem getNamed_eq_of_unordered (hsame : unorderedEntries config = unorderedEntries other)
    {name t : Text} (hshown : shownNamed config name = .ok t)
    (hend : ¬ EndsInBracket t) : getNamed other name = getNamed config name := by
  have hnamed := congrArg (getNamed · name) hsame
  simp only [getNamed_unorderedEntries] at hnamed
  refine Value.eq_of_unordered hnamed fun hbracketed => ?_
  rw [shownNamed] at hshown
  split at hshown
  · cases hshown
    exact hend (Value.endsInBracket_shown hbracketed)
  · exact nomatch hshown

theorem shownNamed_eq_of_unordered (hsame : unorderedEntries config = unorderedEntries other)
    {name t : Text} (hshown : shownNamed config name = .ok t)
    (hend : ¬ EndsInBracket t) : shownNamed other name = .ok t := by
  rw [← hshown, shownNamed, shownNamed, getNamed_eq_of_unordered hsame hshown hend]

private theorem Valid.range_unbracketed (hvalid : s.Valid) : ¬ EndsInBracket s.defaultRange := by
  obtain ⟨front, hfront⟩ := hvalid.range_suffix
  rw [← hfront, EndsInBracket, List.getLast?_concat]
  decide

private theorem Valid.dialect_unbracketed (hvalid : s.Valid) : ¬ EndsInBracket s.defaultDialect := by
  have hmarkers : ∀ marker ∈ ([] :: dialectMarkers : List Text), ¬ EndsInBracket marker := by decide
  exact hmarkers _ (List.mem_cons.mpr hvalid.dialect_known)

private theorem Valid.level_unbracketed (hvalid : s.Valid) {level : Text}
    (hlevel : uppercase level = s.logLevel) : ¬ EndsInBracket level := by
  have hlevels : ∀ known ∈ SettingsDraft.logLevels, ¬ EndsInBracket known := by decide
  intro hends
  obtain ⟨front, close, hclose, rfl⟩ := endsInBracket_iff.mp hends
  have hupper : upperChar close = [close] := by
    simp only [List.mem_cons, List.not_mem_nil, or_false] at hclose
    rcases hclose with rfl | rfl | rfl <;> decide
  refine hlevels _ hvalid.level_known (endsInBracket_iff.mpr ⟨uppercase front, close, hclose, ?_⟩)
  rw [← hlevel, uppercase, List.flatMap_append, List.flatMap_singleton, hupper]
  rfl

private theorem Valid.timeout_unbracketed (hvalid : s.Valid) : ¬ s.echoTimeout.IsBracketed := by
  have hpositive := hvalid.timeout_positive
  cases htimeout : s.echoTimeout with
  | list _ | tuple _ | set _ | map _ => simp [htimeout, SettingsDraft.isPositiveNumber] at hpositive
  | _ => exact id

theorem cycleItems_of_unordered (hsame : unorderedEntries config = unorderedEntries other)
    {name : Text} {ts : List Text} (hitems : cycleItems config name = ts.map .text) :
    cycleItems other name = ts.map .text := by
  have hcycle := congrArg (cycleItems · name) hsame
  simp only [cycleItems_unorderedEntries, hitems, List.map_map] at hcycle
  have htexts : (cycleItems other name).map unordered = ts.map .text := hcycle.symm
  have hflat : ∀ item ∈ cycleItems other name, item.unordered = item := by
    intro item hitem
    obtain ⟨t, -, ht⟩ := List.mem_map.mp (htexts ▸ List.mem_map_of_mem hitem)
    rw [← ht, Value.unordered_eq_text_iff.mp ht.symm]
  rw [← htexts, List.map_congr_left hflat, List.map_id']

private theorem isWritable_getNamed (hsame : unorderedEntries config = unorderedEntries other) (name : Text) :
    (getNamed config name).isWritable = (getNamed other name).isWritable := by
  have hnamed := congrArg (fun es => (getNamed es name).isWritable) hsame
  simpa only [getNamed_unorderedEntries, Value.isWritable_unordered] using hnamed

/-- Settings of a configuration are settings of one that differs in the order of sets, up to the text of the default flags. -/
theorem Reads.of_unordered (hread : s.Reads config)
    (hsame : unorderedEntries config = unorderedEntries other) :
    { s with defaultFlags := (getNamed other "default_flags").shown }.Reads other := by
  have hshape := congrArg shapeProblems hsame
  have hkeymaps := congrArg (getMap · "keymaps") hsame
  have hdashboard := congrArg (getMap · "dashboard") hsame
  simp only [shapeProblems_unorderedEntries, getMap_unorderedEntries] at hshape hkeymaps hdashboard
  have hlabels : ∀ name, Labels.ofEntries (getMap (getMap other "dashboard") name) =
      Labels.ofEntries (getMap (getMap config "dashboard") name) := by
    intro name
    have hsection := congrArg (fun es => Labels.ofEntries (getMap es name)) hdashboard
    simpa only [getMap_unorderedEntries, ofEntries_unorderedEntries] using hsection.symm
  have henabled : ∀ {es fs : Entries}, unorderedEntries es = unorderedEntries fs →
      isEnabled fs = isEnabled es := by
    intro es fs hentries
    simpa only [isEnabled_unorderedEntries] using (congrArg isEnabled hentries).symm
  have hwritable : (getNamed other "default_flags").isWritable = true := by
    rw [← isWritable_getNamed hsame]
    have hflags := hread.defaultFlags
    rw [shownNamed] at hflags
    split at hflags
    · assumption
    · exact nomatch hflags
  obtain ⟨level, hlevel, hupper⟩ := hread.logLevel
  exact
    { shape := hshape.symm.trans hread.shape
      valid := { hread.valid with }
      warnable := hread.warnable
      separators := cycleItems_of_unordered hsame hread.separators
      dialects := cycleItems_of_unordered hsame hread.dialects
      flags := cycleItems_of_unordered hsame hread.flags
      defaultRange := shownNamed_eq_of_unordered hsame hread.defaultRange hread.valid.range_unbracketed
      defaultFlags := by rw [shownNamed, if_pos hwritable]
      defaultDialect :=
        shownNamed_eq_of_unordered hsame hread.defaultDialect hread.valid.dialect_unbracketed
      echoTimeout := by
        have hnamed := congrArg (getNamed · "echo_timeout") hsame
        simp only [getNamed_unorderedEntries, hread.echoTimeout] at hnamed
        exact Value.eq_of_unordered hnamed hread.valid.timeout_unbracketed
      logLevel := ⟨level,
        shownNamed_eq_of_unordered hsame hlevel (hread.valid.level_unbracketed hupper), hupper⟩
      keymapsEnabled := (henabled hkeymaps).trans hread.keymapsEnabled
      keymaps := by
        have hbound := congrArg keymapLabels hkeymaps
        simp only [keymapLabels, ofEntries_unorderedEntries] at hbound
        exact hbound.symm.trans hread.keymaps
      dashboardEnabled := (henabled hdashboard).trans hread.dashboardEnabled
      symbols := (hlabels "symbols").trans hread.symbols
      styles := (hlabels "styles").trans hread.styles }

/-- Configurations that differ in the order of sets are accepted together, as settings that differ in the text of the default flags at most. -/
theorem ofMerged_of_unordered (hsame : unorderedEntries config = unorderedEntries other)
    (hs : ofMerged config = .ok s) :
    ofMerged other = .ok { s with defaultFlags := (getNamed other "default_flags").shown } :=
  ofMerged_eq_ok_iff.mpr ((ofMerged_eq_ok_iff.mp hs).of_unordered hsame)

variable (sets : SetOrder)

theorem ofOverrides_map (entries : Entries) :
    ofOverrides sets (.map entries) = ofMerged (Entries.deepMerge sets defaults entries) := by
  cases entries <;> rfl

private theorem unorderedEntries_deepMerge_congr (base : Entries)
    (hsame : unorderedEntries config = unorderedEntries other) :
    unorderedEntries (Entries.deepMerge sets base config) =
      unorderedEntries (Entries.deepMerge sets base other) := by
  have hmerged := Value.unordered_deepMerge sets base
  simp only [unordered] at hmerged
  rw [← Value.map.injEq, hmerged, hmerged, hsame]

/-- Overrides that differ in the order of sets give settings that differ in the text of the default flags at most. -/
theorem ofOverrides_of_unordered (hsame : unorderedEntries config = unorderedEntries other)
    (hs : ofOverrides sets (.map config) = .ok s) :
    ∃ shown, ofOverrides sets (.map other) = .ok { s with defaultFlags := shown } := by
  rw [ofOverrides_map] at hs ⊢
  exact ⟨_, ofMerged_of_unordered (unorderedEntries_deepMerge_congr sets defaults hsame) hs⟩

theorem exists_ofOverrides_of_unordered {v w : Value} (hsame : v.unordered = w.unordered)
    (haccepted : ∃ s, ofOverrides sets v = .ok s) : ∃ s, ofOverrides sets w = .ok s := by
  by_cases hmap : ∃ entries, v = .map entries
  · obtain ⟨entries, rfl⟩ := hmap
    obtain ⟨others, rfl, hothers⟩ := Value.unordered_eq_map_iff.mp hsame.symm
    obtain ⟨s, hs⟩ := haccepted
    obtain ⟨shown, hshown⟩ := ofOverrides_of_unordered sets hothers.symm hs
    exact ⟨_, hshown⟩
  · have hmap' : ¬ ∃ entries, w = .map entries := by
      rintro ⟨entries, rfl⟩
      obtain ⟨es, rfl, -⟩ := Value.unordered_eq_map_iff.mp hsame
      exact hmap ⟨es, rfl⟩
    have htruthy : v.isTruthy = w.isTruthy := by
      rw [← Value.isTruthy_unordered, hsame, Value.isTruthy_unordered]
    -- without a mapping, all that counts is whether there is anything
    have hother : ∀ u : Value, (¬ ∃ entries, u = .map entries) → ofOverrides sets u =
        if !u.isTruthy then ofMerged (Entries.deepMerge sets defaults [])
        else .error (.invalid ["top level must be a mapping"]) := by
      intro u hu
      cases u with
      | map entries => exact absurd ⟨entries, rfl⟩ hu
      | _ => rfl
    rwa [hother v hmap, htruthy, ← hother w hmap'] at haccepted

end Settings

end Substitute
