import Substitute.Proofs.Settings.Accepted
import Substitute.Proofs.Settings.Labels
import Substitute.Proofs.Value.Absorbing

/-!
# Loading settings back

The configuration that settings are shown as is laid over the defaults again when it is loaded. It is always accepted, and everything comes back but one thing: labels that the user dropped are not in it, so the default ones take their places. A configuration may also be loaded with all defaults written out in it, since merging is absorbing.
-/

namespace Substitute

namespace Settings

variable {s : Settings}

def Complete (s : Settings) : Prop :=
  s.keymaps.Covers initial.keymaps ∧ s.dashboard.symbols.Covers initial.dashboard.symbols ∧
    s.dashboard.styles.Covers initial.dashboard.styles

instance (s : Settings) : Decidable s.Complete :=
  inferInstanceAs (Decidable (_ ∧ _ ∧ _))

/-- The settings with the default labels back that are missing. -/
def restored (s : Settings) : Settings :=
  { s with
    keymaps := s.keymaps.laidOver initial.keymaps
    dashboard :=
      { s.dashboard with
        symbols := s.dashboard.symbols.laidOver initial.dashboard.symbols
        styles := s.dashboard.styles.laidOver initial.dashboard.styles } }

/-! ### Sections -/

/-- The entry that switches a section on or off. -/
def switch (enabled : Bool) : Value × Value :=
  (.text "enable", .bool enabled)

theorem isTable_keymaps : initial.keymaps.IsTable := ⟨by decide, by decide⟩

theorem isTable_symbols : initial.dashboard.symbols.IsTable := ⟨by decide, by decide⟩

theorem isTable_styles : initial.dashboard.styles.IsTable := ⟨by decide, by decide⟩

/-- A section of a configuration laid over another is its lower section with something laid over it, unless there is no section at all. -/
theorem getMap_merge {base upper inner : Entries} {name : Text} (hnamed : base.Named)
    (hbase : base.Distinct) (hupper : (Value.map upper).WellFormed)
    (hmem : (.text name, .map inner) ∈ base) :
    (Entries.merge base upper).getMap name = [] ∨
      ∃ own, (Value.map own).WellFormed ∧
        (Entries.merge base upper).getMap name = Entries.merge inner own := by
  obtain ⟨hdistinct, hinside⟩ := hupper.distinct_of_map
  rw [Entries.getMap, Entries.getNamed, Entries.get?_merge_of_mem hnamed hbase hdistinct hmem]
  cases hfound : upper.get? (.text name) with
  | none => exact .inr ⟨[], .map List.Pairwise.nil (by simp), rfl⟩
  | some v =>
    have hv := hinside _ ((Entries.get?_name_eq_some_iff hdistinct).mp hfound)
    cases v with
    | map own => exact .inr ⟨own, hv, rfl⟩
    | _ => exact .inl rfl

theorem getMap_merge_defaults {upper inner : Entries} {name : Text}
    (hupper : (Value.map upper).WellFormed) (hmem : (.text name, .map inner) ∈ defaults) :
    (Entries.merge defaults upper).getMap name = [] ∨
      ∃ own, (Value.map own).WellFormed ∧
        (Entries.merge defaults upper).getMap name = Entries.merge inner own :=
  getMap_merge (by decide) (by decide) hupper hmem

theorem readOver_section {base : Labels} {lower upper : Entries} {name : Text} (hnamed : lower.Named)
    (hlower : lower.Distinct) (hupper : (Value.map upper).WellFormed) (hbase : base.IsTable)
    (hmem : (.text name, .map (Labels.toEntries base)) ∈ lower) :
    (Labels.ofEntries ((Entries.merge lower upper).getMap name)).ReadOver base := by
  rcases getMap_merge hnamed hlower hupper hmem with hnone | ⟨own, hown, hsection⟩
  · rw [hnone]
    exact .nil
  · rw [hsection, ← List.filter_true (Labels.ofEntries _)]
    refine Labels.readOver_of_merge _ hbase.named hbase.distinct hown.distinct_of_map.1 ?_ ?_
    · intro entries hnames
      rw [List.filter_true, ← Labels.keys_toEntries base, ← hnames]
      exact Labels.names_ofEntries entries
    · intro l hl
      exact ⟨_, List.mem_map.mpr ⟨l, hl, rfl⟩, rfl⟩

private theorem readOver_keymaps {upper : Entries} (hupper : (Value.map upper).WellFormed) :
    (keymapLabels ((Entries.merge defaults upper).getMap "keymaps")).ReadOver initial.keymaps := by
  have hdefault : (.text "keymaps", .map (switch true :: Labels.toEntries initial.keymaps)) ∈
      defaults := List.mem_cons_self
  rcases getMap_merge_defaults hupper hdefault with hnone | ⟨own, hown, hsection⟩
  · rw [hnone]
    exact .nil
  · rw [hsection]
    refine Labels.readOver_of_merge _ (by decide) (by decide) hown.distinct_of_map.1 ?_ ?_
    · intro entries hnames
      match entries, hnames with
      | (k, v) :: rest, hnames =>
        obtain ⟨hkey, hrest⟩ := List.cons_eq_cons.mp hnames
        have henable : isEnableKey k = true := Value.sameKey_text_iff.mpr hkey
        have hdropped : keymapLabels ((k, v) :: rest) = keymapLabels rest := by
          cases v <;> simp [keymapLabels, Labels.ofEntries, henable]
        change ((keymapLabels ((k, v) :: rest)).map Prod.fst).Sublist _
        rw [hdropped, ← Labels.keys_toEntries initial.keymaps, ← hrest]
        exact (List.filter_sublist.map _).trans (Labels.names_ofEntries rest)
    · intro l hl
      exact ⟨_, List.mem_cons_of_mem _ (List.mem_map.mpr ⟨l, hl, rfl⟩), rfl⟩

/-- What is known of the labels of settings that a configuration is accepted as. -/
structure Labelled (s : Settings) : Prop where
  keymaps : s.keymaps.ReadOver initial.keymaps
  symbols : s.dashboard.symbols.ReadOver initial.dashboard.symbols
  styles : s.dashboard.styles.ReadOver initial.dashboard.styles
  keymaps_bound : ∀ l ∈ s.keymaps, isEnableKey l.1 = false ∧ l.2 ≠ []

private theorem Reads.labelled {upper : Entries} (hread : s.Reads (Entries.merge defaults upper))
    (hupper : (Value.map upper).WellFormed) : s.Labelled := by
  have hdashboard : (.text "dashboard", .map
      [ switch true, (.text "symbols", .map (Labels.toEntries initial.dashboard.symbols)),
        (.text "styles", .map (Labels.toEntries initial.dashboard.styles)) ]) ∈ defaults :=
    List.mem_cons_of_mem _ List.mem_cons_self
  have htables : s.dashboard.symbols.ReadOver initial.dashboard.symbols ∧
      s.dashboard.styles.ReadOver initial.dashboard.styles := by
    rw [← hread.symbols, ← hread.styles]
    rcases getMap_merge_defaults hupper hdashboard with hnone | ⟨own, hown, hsection⟩
    · rw [hnone]
      exact ⟨.nil, .nil⟩
    · have hnamed : Entries.Named
          [ switch true, (.text "symbols", .map (Labels.toEntries initial.dashboard.symbols)),
            (.text "styles", .map (Labels.toEntries initial.dashboard.styles)) ] := by decide
      have hdistinct : Entries.Distinct
          [ switch true, (.text "symbols", .map (Labels.toEntries initial.dashboard.symbols)),
            (.text "styles", .map (Labels.toEntries initial.dashboard.styles)) ] := by decide
      rw [hsection]
      exact ⟨readOver_section hnamed hdistinct hown isTable_symbols (by simp),
        readOver_section hnamed hdistinct hown isTable_styles (by simp)⟩
  refine ⟨hread.keymaps ▸ readOver_keymaps hupper, htables.1, htables.2, ?_⟩
  intro l hl
  rw [← hread.keymaps, keymapLabels, List.mem_filter] at hl
  simpa [List.isEmpty_iff] using hl.2

/-! ### The way back -/

private theorem merge_switch {base entries : Entries} (enabled enabled' : Bool)
    (hother : ∀ e ∈ entries, isEnableKey e.1 = false) :
    Entries.merge (switch enabled :: base) (switch enabled' :: entries) =
      switch enabled' :: Entries.merge base entries := by
  have hkeep : ∀ e ∈ entries, (Value.text "enable").sameKey e.1 = false := by
    intro e he
    rw [Value.sameKey_comm]
    exact hother e he
  rw [switch, switch, ← Entries.merge_cons_of_ne hkeep]
  rfl

private theorem echoTimeout_over (hvalid : s.Valid) (below : Option Value) :
    Value.over below s.echoTimeout = s.echoTimeout := by
  have hpositive := hvalid.timeout_positive
  cases htimeout : s.echoTimeout with
  | map entries => simp [htimeout, SettingsDraft.isPositiveNumber] at hpositive
  | _ => rfl

/-- Over the defaults, the configuration of settings says what they say with the missing labels back. -/
theorem merge_toConfig (hvalid : s.Valid) (hlabelled : s.Labelled) :
    Entries.merge defaults s.toConfig = s.restored.toConfig := by
  have hlaid : Entries.merge defaults s.toConfig =
      [ (.text "keymaps", .map (Entries.merge (switch true :: Labels.toEntries initial.keymaps)
          (switch s.keymapsEnabled :: Labels.toEntries s.keymaps))),
        (.text "dashboard", .map
          [ switch s.dashboard.enabled,
            (.text "symbols", .map (Entries.merge (Labels.toEntries initial.dashboard.symbols)
              (Labels.toEntries s.dashboard.symbols))),
            (.text "styles", .map (Entries.merge (Labels.toEntries initial.dashboard.styles)
              (Labels.toEntries s.dashboard.styles))) ]),
        (.text "separators", textList s.separators),
        (.text "dialects", textList s.dialects),
        (.text "flags", textList s.flags),
        (.text "default_range", .text s.defaultRange),
        (.text "default_flags", .text s.defaultFlags),
        (.text "default_dialect", .text s.defaultDialect),
        (.text "echo_timeout", Value.over (some initial.echoTimeout) s.echoTimeout),
        (.text "log_level", .text s.logLevel) ] := rfl
  have hother : ∀ e ∈ Labels.toEntries s.keymaps, isEnableKey e.1 = false := by
    intro e he
    obtain ⟨l, hl, rfl⟩ := List.mem_map.mp he
    exact (hlabelled.keymaps_bound l hl).1
  rw [hlaid, merge_switch _ _ hother, echoTimeout_over hvalid,
    Labels.merge_toEntries isTable_keymaps hlabelled.keymaps.distinct,
    Labels.merge_toEntries isTable_symbols hlabelled.symbols.distinct,
    Labels.merge_toEntries isTable_styles hlabelled.styles.distinct]
  rfl

private theorem restored_bound (hlabelled : s.Labelled) :
    ∀ l ∈ s.restored.keymaps, isEnableKey l.1 = false ∧ l.2 ≠ [] := by
  have hdefault : ∀ l ∈ initial.keymaps, isEnableKey l.1 = false ∧ l.2 ≠ [] := by decide
  intro l hl
  rcases Labels.mem_laidOver isTable_keymaps hl with hl | hl
  · exact hdefault l hl
  · exact hlabelled.keymaps_bound l hl

theorem Warnable.restored (hwarnable : s.Warnable) : s.restored.Warnable := by
  have hdefault : ∀ l ∈ initial.keymaps, l.1.isWritable = true := by decide
  intro name hname
  obtain ⟨hmem, hunknown⟩ := List.mem_filter.mp hname
  obtain ⟨l, hl, rfl⟩ := List.mem_map.mp hmem
  rcases Labels.mem_laidOver isTable_keymaps hl with hl | hl
  · exact hdefault l hl
  · exact hwarnable l.1 (List.mem_filter.mpr ⟨List.mem_map.mpr ⟨l, hl, rfl⟩, hunknown⟩)

private theorem shape_toConfig (s : Settings) : shapeProblems s.toConfig = .ok [] := by
  have htexts : ∀ labels : Labels, ∀ e ∈ Labels.toEntries labels, isText e.2 = true := by
    intro labels e he
    obtain ⟨l, -, rfl⟩ := List.mem_map.mp he
    rfl
  have hlabels : ∀ labels : Labels,
      (Labels.toEntries labels).filter (fun e => !isText e.2) = [] := by
    intro labels
    refine List.filter_eq_nil_iff.mpr fun e he => ?_
    rw [htexts labels e he]
    exact Bool.false_ne_true
  have hsymbols : labelProblems s.toConfig "symbols" = .ok [] :=
    (SettingsDraft.complaints_eq_nil _ _).mpr (List.map_eq_nil_iff.mpr
      (hlabels s.dashboard.symbols))
  have hstyles : labelProblems s.toConfig "styles" = .ok [] :=
    (SettingsDraft.complaints_eq_nil _ _).mpr (List.map_eq_nil_iff.mpr
      (hlabels s.dashboard.styles))
  have hkeymaps : keymapProblems s.toConfig = .ok [] := by
    refine (SettingsDraft.complaints_eq_nil _ _).mpr (List.map_eq_nil_iff.mpr
      (List.filter_eq_nil_iff.mpr fun e he => ?_))
    rcases List.mem_cons.mp he with hswitch | he
    · have henable : isEnableKey e.1 = true := by
        rw [hswitch]
        rfl
      simp [henable]
    · simp [htexts _ e he]
  have hsections : sectionProblems s.toConfig "keymaps" = [] ∧
      sectionProblems s.toConfig "dashboard" = [] := ⟨rfl, rfl⟩
  have hcycles : cycleProblems s.toConfig "separators" = [] ∧
      cycleProblems s.toConfig "dialects" = [] ∧ cycleProblems s.toConfig "flags" = [] :=
    ⟨rfl, rfl, rfl⟩
  rw [shapeProblems, hsections.1, hsections.2, hsymbols, hstyles, hkeymaps, hcycles.1, hcycles.2.1,
    hcycles.2.2]
  rfl

/-- The configuration of settings says what they say, provided that no key binding is empty or passes for the switch. -/
theorem Valid.reads_toConfig (hvalid : s.Valid) (hwarnable : s.Warnable)
    (hbound : ∀ l ∈ s.keymaps, isEnableKey l.1 = false ∧ l.2 ≠ []) : s.Reads s.toConfig where
  shape := s.shape_toConfig
  valid := hvalid
  warnable := hwarnable
  separators := rfl
  dialects := rfl
  flags := rfl
  defaultRange := rfl
  defaultFlags := rfl
  defaultDialect := rfl
  echoTimeout := rfl
  logLevel := by
    have hupper : ∀ t ∈ SettingsDraft.logLevels, uppercase t = t := by decide
    exact ⟨_, rfl, hupper _ hvalid.level_known⟩
  keymapsEnabled := rfl
  keymaps := by
    have hsection : keymapLabels (s.toConfig.getMap "keymaps") =
        s.keymaps.filter fun l => !isEnableKey l.1 && !l.2.isEmpty :=
      congrArg (List.filter _) (Labels.ofEntries_toEntries s.keymaps)
    rw [hsection, List.filter_eq_self]
    intro l hl
    obtain ⟨hkey, htext⟩ := hbound l hl
    simpa [hkey] using htext
  dashboardEnabled := rfl
  symbols := Labels.ofEntries_toEntries s.dashboard.symbols
  styles := Labels.ofEntries_toEntries s.dashboard.styles

private theorem exists_reads_of_ofConfig {config : Value} (hconfig : config.WellFormed)
    (hs : ofConfig config = .ok s) :
    ∃ upper, (Value.map upper).WellFormed ∧ s.Reads (Entries.merge defaults upper) := by
  unfold ofConfig at hs
  split at hs
  · exact ⟨[], .map List.Pairwise.nil (by simp), ofMerged_eq_ok_iff.mp hs⟩
  · split at hs
    · exact ⟨_, hconfig, ofMerged_eq_ok_iff.mp hs⟩
    · simp at hs

theorem ofConfig_map (entries : Entries) :
    ofConfig (.map entries) = ofMerged (Entries.merge defaults entries) := by
  cases entries <;> rfl

theorem restored_eq_self_iff (hlabelled : s.Labelled) : s.restored = s ↔ s.Complete := by
  rw [Complete, ← Labels.laidOver_eq_self_iff isTable_keymaps hlabelled.keymaps,
    ← Labels.laidOver_eq_self_iff isTable_symbols hlabelled.symbols,
    ← Labels.laidOver_eq_self_iff isTable_styles hlabelled.styles]
  constructor
  · intro hsame
    exact ⟨congrArg keymaps hsame, congrArg (·.dashboard.symbols) hsame,
      congrArg (·.dashboard.styles) hsame⟩
  · rintro ⟨hkeymaps, hsymbols, hstyles⟩
    rw [restored, hkeymaps, hsymbols, hstyles]

theorem same_self (hvalid : s.Valid) (hlabelled : s.Labelled) : s.same s = true := by
  simp only [same, beq_self_eq_true, Labels.sameLabels_self hlabelled.keymaps.distinct,
    Labels.sameLabels_self hlabelled.symbols.distinct,
    Labels.sameLabels_self hlabelled.styles.distinct, Bool.and_true]
  -- what is left is the timeout, and not a number passes for equal to itself here
  have hpositive := hvalid.timeout_positive
  cases htimeout : s.echoTimeout with
  | bool b => simp [Value.same, Value.sameKey, Value.asInt?]
  | int n => simp [Value.same, Value.sameKey, Value.asInt?]
  | float x => cases x <;> simp [Value.same, Value.sameKey, Binary64.numEq]
  | _ => simp [htimeout, SettingsDraft.isPositiveNumber] at hpositive

private theorem same_restored_iff (hvalid : s.Valid) (hlabelled : s.Labelled) :
    s.same s.restored = true ↔ s.Complete := by
  constructor
  · intro hsame
    simp only [same, Bool.and_eq_true] at hsame
    obtain ⟨⟨⟨-, hkeymaps⟩, hsymbols⟩, hstyles⟩ := hsame
    exact ⟨Labels.covers_of_sameLabels isTable_keymaps hlabelled.keymaps hkeymaps,
      Labels.covers_of_sameLabels isTable_symbols hlabelled.symbols hsymbols,
      Labels.covers_of_sameLabels isTable_styles hlabelled.styles hstyles⟩
  · intro hcomplete
    rw [(restored_eq_self_iff hlabelled).mpr hcomplete]
    exact same_self hvalid hlabelled

/-- The configuration that accepted settings are shown as is accepted again, with the default labels back in the places of those that were dropped. So the settings come back as they were exactly when no default label is missing. -/
theorem ofConfig_toConfig {config : Value} (hconfig : config.WellFormed)
    (hs : ofConfig config = .ok s) :
    ofConfig (.map s.toConfig) = .ok s.restored ∧ (s.restored = s ↔ s.Complete) ∧
      (s.roundTrips = .ok true ↔ s.Complete) := by
  obtain ⟨upper, hupper, hread⟩ := exists_reads_of_ofConfig hconfig hs
  have hlabelled := hread.labelled hupper
  have hback : ofConfig (.map s.toConfig) = .ok s.restored := by
    rw [ofConfig_map, merge_toConfig hread.valid hlabelled, ofMerged_eq_ok_iff]
    exact Valid.reads_toConfig { hread.valid with } hread.warnable.restored (restored_bound hlabelled)
  refine ⟨hback, restored_eq_self_iff hlabelled, ?_⟩
  rw [roundTrips, hback, ← same_restored_iff hread.valid hlabelled, Except.map, Except.ok.injEq]

theorem ofConfig_toConfig_further_keymaps :
    ∃ s, ofConfig (.map
        [ (.text "keymaps", .map [(.text "toggle_n", .text "escape n"), (.int 1, .text "c-t")]),
          (.text "separators", .text "/#"), (.text "log_level", .text "debug") ]) = .ok s ∧
      s.separators = ["/", "#"] ∧ s.logLevel = ("DEBUG" : Text) ∧
      ofConfig (.map s.toConfig) = .ok s ∧ s.roundTrips = .ok true := by
  have hconfig : (Value.map
      [ (.text "keymaps", .map [(.text "toggle_n", .text "escape n"), (.int 1, .text "c-t")]),
        (.text "separators", .text "/#"), (.text "log_level", .text "debug") ]).WellFormed := by
    refine .map (by decide) ?_
    simp only [List.forall_mem_cons]
    exact ⟨.map (by decide) (by simp [Value.WellFormed.leaf]), .leaf nofun, .leaf nofun, by simp⟩
  have haccepted : ∃ s, ofConfig (.map
        [ (.text "keymaps", .map [(.text "toggle_n", .text "escape n"), (.int 1, .text "c-t")]),
          (.text "separators", .text "/#"), (.text "log_level", .text "debug") ]) = .ok s ∧
      s.separators = ["/", "#"] ∧ s.logLevel = ("DEBUG" : Text) ∧ s.Complete :=
    ⟨_, rfl, rfl, rfl, by decide⟩
  obtain ⟨s, hs, hseparators, hlevel, hcomplete⟩ := haccepted
  obtain ⟨hback, hequal, hsame⟩ := ofConfig_toConfig hconfig hs
  exact ⟨s, hs, hseparators, hlevel, by rw [hback, hequal.mpr hcomplete], hsame.mpr hcomplete⟩

/-- An unbound key is bound again after the way back. -/
theorem toConfig_unbound :
    ∃ s t, ofConfig (.map [(.text "keymaps", .map [(.text "toggle_dialect", .null)])]) = .ok s ∧
      ofConfig (.map s.toConfig) = .ok t ∧ t ≠ s ∧
      s.keymaps.get? "toggle_dialect" = none ∧
      t.keymaps.get? "toggle_dialect" = some ("escape m" : Text) ∧
      s.roundTrips = .ok false := by
  refine ⟨_, _, rfl, rfl, ?_, rfl, rfl, rfl⟩
  intro hsame
  have hlabels := congrArg (fun s : Settings => s.keymaps.get? "toggle_dialect") hsame
  exact absurd hlabels (by decide)

end Settings

end Substitute
