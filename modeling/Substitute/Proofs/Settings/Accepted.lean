import Mathlib.Data.List.Nodup
import Substitute.Settings.Loading
import Substitute.Proofs.Steps

/-!
# What an accepted configuration promises

Settings come out of a configuration only when nothing is to be complained about, so every check can be read backwards. The cycles of accepted settings are not empty, separators are usable and differ from one another, dialects are known and flags are single characters. Settings with all that are in turn what any configuration that says the same is accepted as.
-/

namespace Substitute

namespace SettingsDraft

@[simp] theorem complain_eq_nil (wrong : Bool) (wording : Text) :
    complain wrong wording = [] ↔ wrong = false := by
  cases wrong <;> simp [complain]

@[simp] theorem complaints_eq_nil (wrong : List Value) (wording : Value → Text) :
    complaints wrong wording = .ok [] ↔ wrong = [] := by
  rw [complaints]
  split
  · simp
  · rename_i hlong
    refine iff_of_false nofun ?_
    rintro rfl
    exact hlong rfl

theorem exists_complaints_iff (wrong : List Value) (wording : Value → Text) :
    (∃ problems, complaints wrong wording = .ok problems) ↔
      ∀ v ∈ wrong, v.isWritable = true := by
  rw [complaints, ← List.all_eq_true]
  split
  · rename_i hwritable
    exact iff_of_true ⟨_, rfl⟩ hwritable
  · rename_i hlong
    exact iff_of_false nofun hlong

theorem filter_singleton_eq_nil (check : Value → Bool) (v : Value) :
    [v].filter (!check ·) = [] ↔ check v = true := by
  cases h : check v <;> simp [h]

theorem problems_eq_nil (d : SettingsDraft) :
    d.problems = .ok [] ↔
      separatorProblems d.separators = .ok [] ∧ dialectProblems d.dialects = .ok [] ∧
      flagProblems d.flags = .ok [] ∧ rangeProblems d.defaultRange = .ok [] ∧
      isDialect d.defaultDialect = true ∧ isPositiveNumber d.echoTimeout = true ∧
      d.logLevel.isOneOf logLevels = true := by
  rw [← filter_singleton_eq_nil isDialect, ← filter_singleton_eq_nil (Value.isOneOf logLevels)]
  simp only [problems, bind_eq_ok_iff, pure_eq_ok_iff, List.append_eq_nil_iff, complain_eq_nil,
    Bool.not_eq_false']
  constructor
  · rintro ⟨_, hseparators, _, hdialects, _, hflags, _, hdialect, _, hrange, _, hlevel,
      ⟨⟨⟨⟨⟨rfl, rfl⟩, rfl⟩, rfl⟩, rfl⟩, htimeout⟩, rfl⟩
    exact ⟨hseparators, hdialects, hflags, hrange, (complaints_eq_nil _ _).mp hdialect, htimeout,
      (complaints_eq_nil _ _).mp hlevel⟩
  · rintro ⟨hseparators, hdialects, hflags, hrange, hdialect, htimeout, hlevel⟩
    exact ⟨_, hseparators, _, hdialects, _, hflags, _, (complaints_eq_nil _ _).mpr hdialect, _,
      hrange, _, (complaints_eq_nil _ _).mpr hlevel, by simp [htimeout]⟩

/-! ### The cycles -/

private theorem exists_texts {items : List Value} {Q : Text → Prop}
    (hitems : ∀ item ∈ items, ∃ t, item = .text t ∧ Q t) :
    ∃ texts : List Text, items = texts.map .text ∧ ∀ t ∈ texts, Q t := by
  induction items with
  | nil => exact ⟨[], rfl, by simp⟩
  | cons item rest ih =>
    obtain ⟨t, rfl, ht⟩ := hitems item List.mem_cons_self
    obtain ⟨texts, rfl, hrest⟩ := ih fun other hmem => hitems other (List.mem_cons_of_mem _ hmem)
    exact ⟨t :: texts, rfl, by simpa using ⟨ht, hrest⟩⟩

private theorem length_insertMember_le (items members : List Value) :
    (items.foldl Value.insertMember members).length ≤ members.length + items.length := by
  induction items generalizing members with
  | nil => exact Nat.le_refl _
  | cons item rest ih =>
    have hrest := ih (Value.insertMember members item)
    have hone : (Value.insertMember members item).length ≤ members.length + 1 := by
      rw [Value.insertMember]
      split
      · exact Nat.le_succ _
      · simp
    rw [List.foldl_cons, List.length_cons]
    omega

theorem insertMember_text (members : List Text) (t : Text) :
    Value.insertMember (members.map .text) (.text t) =
      (if t ∈ members then members else members ++ [t]).map .text := by
  have hany : (members.map Value.text).any (·.sameKey (.text t)) = decide (t ∈ members) := by
    rw [Bool.eq_iff_iff]
    simp [Value.sameKey]
  rw [Value.insertMember, hany]
  by_cases hmem : t ∈ members <;> simp [hmem]

theorem nodup_of_insertMember (members : List Text) {texts : List Text}
    (hlength : ((texts.map Value.text).foldl Value.insertMember (members.map .text)).length =
      members.length + texts.length) : texts.Nodup ∧ ∀ t ∈ texts, t ∉ members := by
  induction texts generalizing members with
  | nil => simp
  | cons t rest ih =>
    rw [List.map_cons, List.foldl_cons, insertMember_text, List.length_cons] at hlength
    by_cases hmem : t ∈ members
    · have hle := length_insertMember_le (rest.map .text) (members.map .text)
      rw [if_pos hmem] at hlength
      rw [List.length_map, List.length_map] at hle
      omega
    · rw [if_neg hmem] at hlength
      obtain ⟨hnodup, hnew⟩ := ih _ (by rw [hlength, List.length_append, List.length_singleton]; omega)
      refine ⟨List.nodup_cons.mpr ⟨fun h => hnew t h (by simp), hnodup⟩, ?_⟩
      intro u hu
      rcases List.mem_cons.mp hu with rfl | hu
      · exact hmem
      · exact fun h => hnew u hu (List.mem_append_left _ h)

private theorem foldl_insertMember_of_nodup (members : List Text) {texts : List Text}
    (hnodup : (members ++ texts).Nodup) :
    (texts.map Value.text).foldl Value.insertMember (members.map .text) =
      (members ++ texts).map .text := by
  induction texts generalizing members with
  | nil => rw [List.map_nil, List.foldl_nil, List.append_nil]
  | cons t rest ih =>
    have hassoc : members ++ t :: rest = (members ++ [t]) ++ rest := by simp
    have hnew : t ∉ members := by
      have hdisjoint := (List.nodup_append.mp hnodup).2.2
      exact fun hmem => hdisjoint t hmem t List.mem_cons_self rfl
    rw [hassoc] at hnodup ⊢
    rw [List.map_cons, List.foldl_cons, insertMember_text, if_neg hnew, ih _ hnodup]

theorem separatorProblems_eq_nil (items : List Value) :
    separatorProblems (.list items) = .ok [] ↔
      items ≠ [] ∧ (∀ item ∈ items, isSeparator item = true) ∧
        ∃ distinct, Value.distinct items = .ok distinct ∧ distinct.length = items.length := by
  simp only [separatorProblems, Value.elements, bind_eq_ok_iff, pure_eq_ok_iff, Except.ok.injEq,
    exists_eq_left', List.append_eq_nil_iff, complain_eq_nil, Value.isTruthy, bne_eq_false_iff_eq,
    Bool.not_not, List.isEmpty_eq_false_iff]
  constructor
  · rintro ⟨_, hinvalid, distinct, hdistinct, ⟨hne, rfl⟩, hcount⟩
    have hvalid := List.filter_eq_nil_iff.mp ((complaints_eq_nil _ _).mp hinvalid)
    exact ⟨hne, fun item hmem => by simpa using hvalid item hmem, distinct, hdistinct, hcount⟩
  · rintro ⟨hne, hvalid, distinct, hdistinct, hcount⟩
    have hnone : items.filter (!isSeparator ·) = [] :=
      List.filter_eq_nil_iff.mpr fun item hmem => by simp [hvalid item hmem]
    exact ⟨[], (complaints_eq_nil _ _).mpr hnone, distinct, hdistinct, ⟨hne, rfl⟩, hcount⟩

private theorem separators_of_no_problems {items : List Value}
    (hnone : separatorProblems (.list items) = .ok []) :
    ∃ texts : List Text, items = texts.map .text ∧ texts ≠ [] ∧
      (∀ t ∈ texts, isValidSeparator t = true) ∧ texts.Nodup := by
  obtain ⟨hne, hvalid, distinct, hdistinct, hcount⟩ := (separatorProblems_eq_nil items).mp hnone
  have hitems : ∀ item ∈ items, ∃ t, item = .text t ∧ isValidSeparator t = true := by
    intro item hmem
    have h := hvalid item hmem
    cases item with
    | text t => exact ⟨t, rfl, h⟩
    | _ => exact absurd h Bool.false_ne_true
  obtain ⟨texts, rfl, hall⟩ := exists_texts hitems
  have hgathered : distinct = (texts.map Value.text).foldl Value.insertMember [] := by
    rw [Value.distinct] at hdistinct
    split at hdistinct
    · simp at hdistinct
    · exact (Except.ok.inj hdistinct).symm
  refine ⟨texts, rfl, fun h => hne (by rw [h]; rfl), hall, (nodup_of_insertMember [] ?_).1⟩
  rw [hgathered] at hcount
  simpa using hcount

private theorem separatorProblems_texts {texts : List Text} (hne : texts ≠ [])
    (hvalid : ∀ t ∈ texts, isValidSeparator t = true) (hnodup : texts.Nodup) :
    separatorProblems (.list (texts.map .text)) = .ok [] := by
  have hhashable : (texts.map Value.text).find? (fun item => !item.isHashable) = none := by
    simp [Value.isHashable]
  have hgathered : (texts.map Value.text).foldl Value.insertMember [] = texts.map .text :=
    foldl_insertMember_of_nodup [] hnodup
  refine (separatorProblems_eq_nil _).mpr ⟨by simpa using hne, ?_, texts.map .text, ?_, rfl⟩
  · intro item hmem
    obtain ⟨t, ht, rfl⟩ := List.mem_map.mp hmem
    exact hvalid t ht
  · simp only [Value.distinct, hhashable, hgathered]

theorem isDialect_text (t : Text) : isDialect (.text t) = true ↔ t = [] ∨ t ∈ dialectMarkers := by
  simp only [isDialect, Value.isOneOf, List.contains_iff_mem, List.mem_cons]

theorem dialectProblems_eq_nil (items : List Value) :
    dialectProblems (.list items) = .ok [] ↔
      items ≠ [] ∧ ∀ item ∈ items, isDialect item = true := by
  simp [dialectProblems, Value.elements, Value.isTruthy, and_comm]

private theorem dialects_of_no_problems {items : List Value}
    (hnone : dialectProblems (.list items) = .ok []) :
    ∃ texts : List Text, items = texts.map .text ∧ texts ≠ [] ∧
      ∀ t ∈ texts, t = [] ∨ t ∈ dialectMarkers := by
  obtain ⟨hne, hknown⟩ := (dialectProblems_eq_nil items).mp hnone
  have hitems : ∀ item ∈ items, ∃ t, item = .text t ∧ (t = [] ∨ t ∈ dialectMarkers) := by
    intro item hmem
    have h := hknown item hmem
    cases item with
    | text t => exact ⟨t, rfl, (isDialect_text t).mp h⟩
    | _ => exact absurd h Bool.false_ne_true
  obtain ⟨texts, rfl, hall⟩ := exists_texts hitems
  exact ⟨texts, rfl, fun h => hne (by rw [h]; rfl), hall⟩

private theorem dialectProblems_texts {texts : List Text} (hne : texts ≠ [])
    (hknown : ∀ t ∈ texts, t = [] ∨ t ∈ dialectMarkers) :
    dialectProblems (.list (texts.map .text)) = .ok [] := by
  refine (dialectProblems_eq_nil _).mpr ⟨by simpa using hne, ?_⟩
  intro item hmem
  obtain ⟨t, ht, rfl⟩ := List.mem_map.mp hmem
  exact (isDialect_text t).mpr (hknown t ht)

theorem flagProblems_eq_nil (items : List Value) :
    flagProblems (.list items) = .ok [] ↔
      items ≠ [] ∧ ∀ item ∈ items, isSingleChar item = true := by
  simp [flagProblems, Value.elements, Value.isTruthy, and_comm]

private theorem flags_of_no_problems {items : List Value} (hnone : flagProblems (.list items) = .ok []) :
    ∃ texts : List Text, items = texts.map .text ∧ texts ≠ [] ∧ ∀ t ∈ texts, ∃ c, t = [c] := by
  obtain ⟨hne, hsingle⟩ := (flagProblems_eq_nil items).mp hnone
  have hitems : ∀ item ∈ items, ∃ t, item = .text t ∧ ∃ c, t = [c] := by
    intro item hmem
    have h := hsingle item hmem
    unfold isSingleChar at h
    split at h
    · exact ⟨_, rfl, _, rfl⟩
    · simp at h
  obtain ⟨texts, rfl, hall⟩ := exists_texts hitems
  exact ⟨texts, rfl, fun h => hne (by rw [h]; rfl), hall⟩

private theorem flagProblems_texts {texts : List Text} (hne : texts ≠ [])
    (hsingle : ∀ t ∈ texts, ∃ c, t = [c]) : flagProblems (.list (texts.map .text)) = .ok [] := by
  refine (flagProblems_eq_nil _).mpr ⟨by simpa using hne, ?_⟩
  intro item hmem
  obtain ⟨t, ht, rfl⟩ := List.mem_map.mp hmem
  obtain ⟨c, rfl⟩ := hsingle t ht
  rfl

end SettingsDraft

namespace Settings

structure Valid (s : Settings) : Prop where
  separators_ne_nil : s.separators ≠ []
  separators_valid : ∀ t ∈ s.separators, isValidSeparator t = true
  separators_nodup : s.separators.Nodup
  dialects_ne_nil : s.dialects ≠ []
  dialects_known : ∀ t ∈ s.dialects, t = [] ∨ t ∈ dialectMarkers
  flags_ne_nil : s.flags ≠ []
  flags_single : ∀ t ∈ s.flags, ∃ c, t = [c]
  range_suffix : [commandLetter] <:+ s.defaultRange
  dialect_known : s.defaultDialect = [] ∨ s.defaultDialect ∈ dialectMarkers
  timeout_positive : SettingsDraft.isPositiveNumber s.echoTimeout = true
  level_known : s.logLevel ∈ SettingsDraft.logLevels

@[simp] theorem texts_map_text (ts : List Text) : texts (ts.map .text) = ts := by
  rw [texts, List.filterMap_map]
  exact List.filterMap_some

theorem Valid.problems_eq_nil {s : Settings} (h : s.Valid) : s.toDraft.problems = .ok [] := by
  rw [SettingsDraft.problems_eq_nil]
  refine ⟨SettingsDraft.separatorProblems_texts h.separators_ne_nil h.separators_valid
      h.separators_nodup,
    SettingsDraft.dialectProblems_texts h.dialects_ne_nil h.dialects_known,
    SettingsDraft.flagProblems_texts h.flags_ne_nil h.flags_single, ?_,
    (SettingsDraft.isDialect_text _).mpr h.dialect_known, h.timeout_positive, ?_⟩
  · simpa [toDraft, SettingsDraft.rangeProblems] using h.range_suffix
  · simpa [toDraft, Value.isOneOf] using h.level_known

/-- The names of the key bindings that nothing looks up can be written. -/
def Warnable (s : Settings) : Prop :=
  ∀ name ∈ s.unknownKeymaps, name.isWritable = true

theorem exists_warnings_iff (s : Settings) :
    (∃ wordings, s.warnings = .ok wordings) ↔ s.Warnable :=
  SettingsDraft.exists_complaints_iff s.unknownKeymaps _

@[simp] theorem refuse_eq_ok_iff {problems : List Text} {u : Unit} :
    refuse problems = .ok u ↔ problems = [] := by
  cases problems <;> simp [refuse]

/-- Settings that say what a whole configuration says, neither being cause for complaint. -/
structure Reads (s : Settings) (config : Entries) : Prop where
  shape : shapeProblems config = .ok []
  valid : s.Valid
  warnable : s.Warnable
  separators : cycleItems config "separators" = s.separators.map .text
  dialects : cycleItems config "dialects" = s.dialects.map .text
  flags : cycleItems config "flags" = s.flags.map .text
  defaultRange : shownNamed config "default_range" = .ok s.defaultRange
  defaultFlags : shownNamed config "default_flags" = .ok s.defaultFlags
  defaultDialect : shownNamed config "default_dialect" = .ok s.defaultDialect
  echoTimeout : Entries.getNamed config "echo_timeout" = s.echoTimeout
  logLevel : ∃ level, shownNamed config "log_level" = .ok level ∧ uppercase level = s.logLevel
  keymapsEnabled : isEnabled (Entries.getMap config "keymaps") = s.keymapsEnabled
  keymaps : keymapLabels (Entries.getMap config "keymaps") = s.keymaps
  dashboardEnabled : isEnabled (Entries.getMap config "dashboard") = s.dashboard.enabled
  symbols : Labels.ofEntries (Entries.getMap (Entries.getMap config "dashboard") "symbols") =
    s.dashboard.symbols
  styles : Labels.ofEntries (Entries.getMap (Entries.getMap config "dashboard") "styles") =
    s.dashboard.styles

private theorem reads_of_ofMerged {config : Entries} {s : Settings} (hs : ofMerged config = .ok s) :
    s.Reads config := by
  simp only [ofMerged, bind_eq_ok_iff, pure_eq_ok_iff, refuse_eq_ok_iff] at hs
  obtain ⟨_, hshape, -, rfl, defaultRange, hrange, defaultFlags, hdefaultFlags, defaultDialect,
    hdialect, level, hlevel, _, hproblems, -, rfl, wordings, hwarnings, rfl⟩ := hs
  obtain ⟨hseparators, hdialects, hflags, hsuffix, hknown, htimeout, hlevelKnown⟩ :=
    (SettingsDraft.problems_eq_nil _).mp hproblems
  obtain ⟨separators, hsep, hsep_ne, hsep_valid, hsep_nodup⟩ :=
    SettingsDraft.separators_of_no_problems hseparators
  obtain ⟨dialects, hdia, hdia_ne, hdia_known⟩ := SettingsDraft.dialects_of_no_problems hdialects
  obtain ⟨flags, hflag, hflag_ne, hflag_single⟩ := SettingsDraft.flags_of_no_problems hflags
  have hwarnable := (exists_warnings_iff _).mp ⟨wordings, hwarnings⟩
  simp only [hsep, hdia, hflag, texts_map_text] at hwarnable ⊢
  exact
    { shape := hshape
      valid :=
        { separators_ne_nil := hsep_ne
          separators_valid := hsep_valid
          separators_nodup := hsep_nodup
          dialects_ne_nil := hdia_ne
          dialects_known := hdia_known
          flags_ne_nil := hflag_ne
          flags_single := hflag_single
          range_suffix := by
            simpa [SettingsDraft.rangeProblems] using hsuffix
          dialect_known := (SettingsDraft.isDialect_text _).mp hknown
          timeout_positive := htimeout
          level_known := by simpa [Value.isOneOf] using hlevelKnown }
      warnable := hwarnable
      separators := hsep
      dialects := hdia
      flags := hflag
      defaultRange := hrange
      defaultFlags := hdefaultFlags
      defaultDialect := hdialect
      echoTimeout := rfl
      logLevel := ⟨level, hlevel, rfl⟩
      keymapsEnabled := rfl
      keymaps := rfl
      dashboardEnabled := rfl
      symbols := rfl
      styles := rfl }

/-- A configuration is accepted as the settings that say what it says. -/
theorem ofMerged_eq_ok_iff {config : Entries} {s : Settings} :
    ofMerged config = .ok s ↔ s.Reads config := by
  refine ⟨reads_of_ofMerged, fun h => ?_⟩
  have hproblems := h.valid.problems_eq_nil
  obtain ⟨wordings, hwarnings⟩ := (exists_warnings_iff s).mpr h.warnable
  obtain ⟨level, hlevel, hupper⟩ := h.logLevel
  simp only [toDraft, textList] at hproblems
  simp only [ofMerged, bind_eq_ok_iff, pure_eq_ok_iff, refuse_eq_ok_iff, h.separators, h.dialects,
    h.flags, h.echoTimeout, texts_map_text, h.keymapsEnabled, h.keymaps, h.dashboardEnabled,
    h.symbols, h.styles]
  refine ⟨_, h.shape, (), rfl, _, h.defaultRange, _, h.defaultFlags, _, h.defaultDialect, _, hlevel,
    _, ?_, (), rfl, wordings, ?_, ?_⟩ <;> rw [hupper]
  · exact hproblems
  · exact hwarnings

theorem valid_of_ofConfig {config : Value} {s : Settings} (hs : ofConfig config = .ok s) :
    s.Valid := by
  unfold ofConfig at hs
  split at hs
  · exact (ofMerged_eq_ok_iff.mp hs).valid
  · split at hs
    · exact (ofMerged_eq_ok_iff.mp hs).valid
    · simp at hs

end Settings

end Substitute
