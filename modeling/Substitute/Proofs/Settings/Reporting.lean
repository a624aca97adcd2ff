import Substitute.Proofs.Settings.Accepted
import Substitute.Proofs.Value.Mapping

/-!
# How a configuration is refused

A configuration that is not accepted should come back with complaints. It does unless a value cannot be handled on the way: an integer that is too long to be written, met where a complaint would show it, or a separator that cannot be gathered in a set. `Reportable` says where such values must not stand, stage by stage, since a complaint about the shape of a configuration keeps its values from being looked at.
-/

namespace Substitute

namespace SettingsError

/-- The failures of a check other than its complaints. -/
def Breaks (e : SettingsError) : Prop :=
  e = .tooManyDigits ∨ ∃ kind, e = .unhashable kind

/-- The failures that a configuration can meet with. -/
def Expected (e : SettingsError) : Prop :=
  (∃ problems, e = .invalid problems) ∨ e.Breaks

private theorem not_breaks_invalid (problems : List Text) : ¬ Breaks (.invalid problems) := by
  rintro (h | ⟨_, h⟩) <;> exact nomatch h

end SettingsError

/-- A check that makes no complaints of its own. -/
abbrev Uncomplaining {α : Type} (x : Except SettingsError α) : Prop :=
  FailsAs SettingsError.Breaks x

/-- A check that ends with a result or with complaints. -/
def Reports {α : Type} (x : Except SettingsError α) : Prop :=
  (∃ a, x = .ok a) ∨ ∃ problems, x = .error (.invalid problems)

section

variable {α β : Type} {P : SettingsError → Prop} {x : Except SettingsError α}
  {f : α → Except SettingsError β}

theorem Uncomplaining.expected (hx : Uncomplaining x) : FailsAs SettingsError.Expected x :=
  fun e he => .inr (hx e he)

theorem reports_ok (a : α) : Reports (.ok a : Except SettingsError α) :=
  .inl ⟨a, rfl⟩

/-- What is asked only of an empty result is asked of the check as a whole. -/
theorem exists_ok_and_iff {x : Except SettingsError (List α)} {P : Prop} :
    (∃ found, x = .ok found ∧ (found = [] → P)) ↔ (∃ found, x = .ok found) ∧ (x = .ok [] → P) := by
  constructor
  · rintro ⟨found, hfound, hP⟩
    refine ⟨⟨found, hfound⟩, ?_⟩
    intro hnil
    exact hP (Except.ok.inj (hfound.symm.trans hnil))
  · rintro ⟨⟨found, hfound⟩, hP⟩
    refine ⟨found, hfound, ?_⟩
    rintro rfl
    exact hP hfound

/-- What follows a check that makes no complaints is reached only when the check succeeds. -/
theorem Uncomplaining.reports_bind_iff (hx : Uncomplaining x) :
    Reports (x >>= f) ↔ ∃ a, x = .ok a ∧ Reports (f a) := by
  cases x with
  | ok a =>
    show Reports (f a) ↔ _
    simp
  | error e =>
    show Reports (.error e) ↔ _
    have hbreaks := hx e rfl
    constructor
    · rintro (⟨_, h⟩ | ⟨problems, h⟩)
      · exact nomatch h
      · cases h
        exact absurd hbreaks (SettingsError.not_breaks_invalid problems)
    · rintro ⟨_, h, -⟩
      exact nomatch h

private theorem Settings.reports_refuse_bind_iff {problems : List Text}
    {next : Unit → Except SettingsError β} :
    Reports (Settings.refuse problems >>= next) ↔ (problems = [] → Reports (next ())) := by
  cases problems with
  | nil =>
    show Reports (next ()) ↔ _
    simp
  | cons problem rest =>
    refine iff_of_true (.inr ⟨problem :: rest, rfl⟩) ?_
    intro h
    exact nomatch h

end

/-! ### Complaints about values -/

namespace SettingsDraft

theorem complaints_uncomplaining (wrong : List Value) (wording : Value → Text) :
    Uncomplaining (complaints wrong wording) := by
  intro e he
  rw [complaints] at he
  split at he
  · cases he
  · exact .inl (Except.error.inj he).symm

/-- Only texts can pass the check of a cycle, and those can be written in any case. -/
theorem exists_complaints_filter_iff {check : Value → Bool}
    (hcheck : ∀ v, check v = true → v.isWritable = true) (items : List Value)
    (wording : Value → Text) :
    (∃ problems, complaints (items.filter (!check ·)) wording = .ok problems) ↔
      ∀ item ∈ items, item.isWritable = true := by
  rw [exists_complaints_iff]
  constructor
  · intro h item hmem
    cases hitem : check item with
    | true => exact hcheck item hitem
    | false => exact h item (List.mem_filter.mpr ⟨hmem, by rw [hitem]; rfl⟩)
  · intro h item hmem
    exact h item (List.mem_filter.mp hmem).1

theorem exists_complaints_keys_iff (wrong : Value × Value → Bool) (entries : Entries)
    (wording : Value → Text) :
    (∃ problems, complaints ((entries.filter wrong).map Prod.fst) wording = .ok problems) ↔
      ∀ entry ∈ entries, wrong entry = true → entry.1.isWritable = true := by
  rw [exists_complaints_iff]
  constructor
  · intro h entry hmem hwrong
    exact h entry.1 (List.mem_map_of_mem (List.mem_filter.mpr ⟨hmem, hwrong⟩))
  · intro h v hv
    obtain ⟨entry, hentry, rfl⟩ := List.mem_map.mp hv
    obtain ⟨hmem, hwrong⟩ := List.mem_filter.mp hentry
    exact h entry hmem hwrong

private theorem isWritable_of_isOneOf {texts : List Text} (v : Value) (h : v.isOneOf texts = true) :
    v.isWritable = true := by
  cases v with
  | text _ => rfl
  | _ => exact absurd h Bool.false_ne_true

private theorem isWritable_of_isSeparator (v : Value) (h : isSeparator v = true) : v.isWritable = true := by
  cases v with
  | text _ => rfl
  | _ => exact absurd h Bool.false_ne_true

private theorem isWritable_of_isSingleChar (v : Value) (h : isSingleChar v = true) :
    v.isWritable = true := by
  unfold isSingleChar at h
  split at h
  · rfl
  · exact absurd h Bool.false_ne_true

private theorem distinct_uncomplaining (items : List Value) : Uncomplaining (Value.distinct items) := by
  intro e he
  rw [Value.distinct] at he
  split at he
  · exact .inr ⟨_, (Except.error.inj he).symm⟩
  · cases he

private theorem exists_distinct_iff (items : List Value) :
    (∃ members, Value.distinct items = .ok members) ↔ ∀ item ∈ items, item.isHashable = true := by
  rw [Value.distinct]
  split
  · rename_i item hfound
    refine iff_of_false (by simp) ?_
    intro hall
    have hbad := List.find?_some hfound
    rw [hall item (List.mem_of_find?_eq_some hfound)] at hbad
    exact absurd hbad Bool.false_ne_true
  · rename_i hfound
    refine iff_of_true ⟨_, rfl⟩ ?_
    intro item hmem
    simpa using List.find?_eq_none.mp hfound item hmem

/-- Values whose check ends: those shown in a complaint can be written, and the separators can be gathered in a set. -/
structure Checkable (separators dialects flags : List Value) : Prop where
  separators_hashable : ∀ item ∈ separators, item.isHashable = true
  separators_writable : ∀ item ∈ separators, item.isWritable = true
  dialects_writable : ∀ item ∈ dialects, item.isWritable = true
  flags_writable : ∀ item ∈ flags, item.isWritable = true

private theorem separatorProblems_uncomplaining (items : List Value) :
    Uncomplaining (separatorProblems (.list items)) :=
  (failsAs_ok items).bind fun _ => (complaints_uncomplaining _ _).bind fun _ =>
    (distinct_uncomplaining _).bind fun _ => failsAs_ok _

private theorem dialectProblems_uncomplaining (items : List Value) :
    Uncomplaining (dialectProblems (.list items)) :=
  (failsAs_ok items).bind fun _ => (complaints_uncomplaining _ _).bind fun _ =>
    failsAs_ok _

private theorem flagProblems_uncomplaining (items : List Value) :
    Uncomplaining (flagProblems (.list items)) :=
  (failsAs_ok items).bind fun _ => (complaints_uncomplaining _ _).bind fun _ =>
    failsAs_ok _

theorem problems_uncomplaining (separators dialects flags : List Value) (range : Text)
    (dialect timeout level : Value) :
    Uncomplaining (problems ⟨.list separators, .list dialects, .list flags, .text range, dialect,
      timeout, level⟩) :=
  (separatorProblems_uncomplaining _).bind fun _ => (dialectProblems_uncomplaining _).bind fun _ =>
    (flagProblems_uncomplaining _).bind fun _ => (complaints_uncomplaining _ _).bind fun _ =>
    (failsAs_ok _).bind fun _ => (complaints_uncomplaining _ _).bind fun _ =>
    failsAs_ok _

theorem exists_separatorProblems_iff (items : List Value) :
    (∃ problems, separatorProblems (.list items) = .ok problems) ↔
      (∀ item ∈ items, item.isWritable = true) ∧ ∀ item ∈ items, item.isHashable = true := by
  rw [← exists_complaints_filter_iff isWritable_of_isSeparator items, ← exists_distinct_iff items]
  simp only [separatorProblems, Value.elements, bind_eq_ok_iff, pure_eq_ok_iff, Except.ok.injEq,
    exists_eq_left']
  constructor
  · rintro ⟨_, invalid, hinvalid, members, hmembers, -⟩
    exact ⟨⟨invalid, hinvalid⟩, members, hmembers⟩
  · rintro ⟨⟨invalid, hinvalid⟩, members, hmembers⟩
    exact ⟨_, invalid, hinvalid, members, hmembers, rfl⟩

theorem exists_dialectProblems_iff (items : List Value) :
    (∃ problems, dialectProblems (.list items) = .ok problems) ↔
      ∀ item ∈ items, item.isWritable = true :=
  exists_bind_pure_iff.trans (exists_complaints_filter_iff isWritable_of_isOneOf items _)

theorem exists_flagProblems_iff (items : List Value) :
    (∃ problems, flagProblems (.list items) = .ok problems) ↔
      ∀ item ∈ items, item.isWritable = true :=
  exists_bind_pure_iff.trans (exists_complaints_filter_iff isWritable_of_isSingleChar items _)

private theorem exists_problems_iff (separators dialects flags : List Value) (range dialect level : Text)
    (timeout : Value) :
    (∃ found, problems ⟨.list separators, .list dialects, .list flags, .text range, .text dialect,
      timeout, .text level⟩ = .ok found) ↔ Checkable separators dialects flags := by
  have htext : ∀ (check : Value → Bool) (t : Text) (wording : Value → Text),
      ∃ found, complaints ([Value.text t].filter (!check ·)) wording = .ok found := by
    intro check t wording
    refine (exists_complaints_iff _ wording).mpr ?_
    intro v hv
    rw [List.mem_singleton.mp (List.mem_filter.mp hv).1]
    rfl
  simp only [problems, rangeProblems, bind_eq_ok_iff, pure_eq_ok_iff, Except.ok.injEq,
    exists_eq_left']
  constructor
  · rintro ⟨_, ofSeparators, hseparators, ofDialects, hdialects, ofFlags, hflags, -⟩
    obtain ⟨hwritable, hhashable⟩ := (exists_separatorProblems_iff separators).mp ⟨_, hseparators⟩
    exact ⟨hhashable, hwritable, (exists_dialectProblems_iff dialects).mp ⟨_, hdialects⟩,
      (exists_flagProblems_iff flags).mp ⟨_, hflags⟩⟩
  · rintro ⟨hhashable, hseparators, hdialects, hflags⟩
    obtain ⟨_, hseparators⟩ := (exists_separatorProblems_iff separators).mpr ⟨hseparators, hhashable⟩
    obtain ⟨_, hdialects⟩ := (exists_dialectProblems_iff dialects).mpr hdialects
    obtain ⟨_, hflags⟩ := (exists_flagProblems_iff flags).mpr hflags
    obtain ⟨_, hdialect⟩ := htext isDialect dialect _
    obtain ⟨_, hlevel⟩ := htext (Value.isOneOf logLevels) level _
    exact ⟨_, _, hseparators, _, hdialects, _, hflags, _, hdialect, _, hlevel, rfl⟩

end SettingsDraft

namespace Settings

/-! ### The shape -/

theorem exists_labelProblems_iff (config : Entries) (name : Text) :
    (∃ found, labelProblems config name = .ok found) ↔
      ∀ entry ∈ Entries.getMap (Entries.getMap config "dashboard") name,
        isText entry.2 = false → entry.1.isWritable = true := by
  rw [labelProblems]
  generalize Entries.getMap config "dashboard" = dashboard
  rw [Entries.getMap]
  cases Entries.getNamed dashboard name with
  | map entries =>
    refine (SettingsDraft.exists_complaints_keys_iff _ entries _).trans ?_
    simp only [Bool.not_eq_true']
  | _ => exact iff_of_true ⟨_, rfl⟩ fun _ hmem => absurd hmem List.not_mem_nil

theorem labelProblems_uncomplaining (config : Entries) (name : Text) :
    Uncomplaining (labelProblems config name) := by
  rw [labelProblems]
  split
  · exact failsAs_ok _
  · exact SettingsDraft.complaints_uncomplaining _ _
  · exact failsAs_ok _

theorem exists_keymapProblems_iff (config : Entries) :
    (∃ found, keymapProblems config = .ok found) ↔
      ∀ entry ∈ Entries.getMap config "keymaps", isEnableKey entry.1 = false →
        isText entry.2 = false → entry.2 ≠ .null → entry.1.isWritable = true := by
  have hnull : ∀ v : Value, v.sameKey .null = false ↔ v ≠ .null := by
    intro v
    cases v <;> simp [Value.sameKey, Value.asInt?]
  rw [keymapProblems, SettingsDraft.exists_complaints_keys_iff]
  simp only [Bool.and_eq_true, Bool.not_eq_true', hnull, and_imp]

theorem shapeProblems_uncomplaining (config : Entries) : Uncomplaining (shapeProblems config) :=
  (labelProblems_uncomplaining _ _).bind fun _ => (labelProblems_uncomplaining _ _).bind fun _ =>
    (SettingsDraft.complaints_uncomplaining _ _).bind fun _ => failsAs_ok _

/-- A name whose value has the wrong kind can be written, so that a complaint can show it. -/
structure Shapeable (config : Entries) : Prop where
  labels : ∀ name ∈ (["symbols", "styles"] : List Text),
    ∀ entry ∈ Entries.getMap (Entries.getMap config "dashboard") name,
      isText entry.2 = false → entry.1.isWritable = true
  keymaps : ∀ entry ∈ Entries.getMap config "keymaps", isEnableKey entry.1 = false →
    isText entry.2 = false → entry.2 ≠ .null → entry.1.isWritable = true

private theorem exists_shapeProblems_iff (config : Entries) :
    (∃ found, shapeProblems config = .ok found) ↔ Shapeable config := by
  simp only [shapeProblems, bind_eq_ok_iff, pure_eq_ok_iff]
  constructor
  · rintro ⟨_, _, hsymbols, _, hstyles, _, hkeymaps, -⟩
    refine ⟨?_, (exists_keymapProblems_iff config).mp ⟨_, hkeymaps⟩⟩
    intro name hname
    rcases List.mem_cons.mp hname with rfl | hname
    · exact (exists_labelProblems_iff config _).mp ⟨_, hsymbols⟩
    · rw [List.mem_singleton.mp hname]
      exact (exists_labelProblems_iff config _).mp ⟨_, hstyles⟩
  · rintro ⟨hlabels, hkeymaps⟩
    obtain ⟨_, hsymbols⟩ := (exists_labelProblems_iff config _).mpr (hlabels "symbols" (by simp))
    obtain ⟨_, hstyles⟩ := (exists_labelProblems_iff config _).mpr (hlabels "styles" (by simp))
    obtain ⟨_, hkeymaps⟩ := (exists_keymapProblems_iff config).mpr hkeymaps
    exact ⟨_, _, hsymbols, _, hstyles, _, hkeymaps, rfl⟩

/-! ### The values -/

private theorem shownNamed_eq_ok_iff (config : Entries) (name t : Text) :
    shownNamed config name = .ok t ↔
      (Entries.getNamed config name).isWritable = true ∧ (Entries.getNamed config name).shown = t := by
  rw [shownNamed]
  split <;> simp [*]

theorem shownNamed_uncomplaining (config : Entries) (name : Text) :
    Uncomplaining (shownNamed config name) := by
  rw [shownNamed]
  split
  · exact failsAs_ok _
  · intro e he
    exact .inl (Except.error.inj he).symm

/-- A name that is looked up is a text, and a text can always be written. -/
theorem warnable_iff (s : Settings) :
    s.Warnable ↔ ∀ label ∈ s.keymaps, label.1.isWritable = true := by
  simp only [Warnable, unknownKeymaps, List.mem_filter, List.mem_map]
  constructor
  · intro h label hmem
    cases hknown : s.knownKeymaps.any fun known => label.1.sameKey (.text known) with
    | false => exact h label.1 ⟨⟨label, hmem, rfl⟩, by rw [hknown]; rfl⟩
    | true =>
      obtain ⟨known, -, hsame⟩ := List.any_eq_true.mp hknown
      rw [Value.sameKey_text_iff.mp hsame]
      rfl
  · rintro h _ ⟨⟨label, hmem, rfl⟩, -⟩
    exact h label hmem

def draft (config : Entries) : SettingsDraft :=
  { separators := .list (cycleItems config "separators")
    dialects := .list (cycleItems config "dialects")
    flags := .list (cycleItems config "flags")
    defaultRange := .text (Entries.getNamed config "default_range").shown
    defaultDialect := .text (Entries.getNamed config "default_dialect").shown
    echoTimeout := Entries.getNamed config "echo_timeout"
    logLevel := .text (uppercase (Entries.getNamed config "log_level").shown) }

/-- Values that can be turned into texts where settings are texts, can be checked, and leave nothing to warn about that cannot be written. -/
structure Legible (config : Entries) : Prop where
  shown : ∀ name ∈ (["default_range", "default_flags", "default_dialect", "log_level"] : List Text),
    (Entries.getNamed config name).isWritable = true
  checkable : SettingsDraft.Checkable (cycleItems config "separators")
    (cycleItems config "dialects") (cycleItems config "flags")
  bound : (draft config).problems = .ok [] →
    ∀ label ∈ keymapLabels (Entries.getMap config "keymaps"), label.1.isWritable = true

/-- A configuration of which every fault can be reported. -/
structure Reportable (config : Entries) : Prop where
  shape : Shapeable config
  values : shapeProblems config = .ok [] → Legible config

theorem ofMerged_reports_iff (config : Entries) :
    Reports (ofMerged config) ↔ Reportable config := by
  have hwarnings : ∀ s : Settings, Uncomplaining s.warnings := by
    intro s
    exact SettingsDraft.complaints_uncomplaining _ _
  -- a step either makes no complaints of its own or refuses those that were made
  simp only [ofMerged, (shapeProblems_uncomplaining config).reports_bind_iff,
    (shownNamed_uncomplaining config _).reports_bind_iff,
    (SettingsDraft.problems_uncomplaining _ _ _ _ _ _ _).reports_bind_iff,
    (hwarnings _).reports_bind_iff, reports_refuse_bind_iff, exists_ok_and_iff,
    exists_shapeProblems_iff, shownNamed_eq_ok_iff, and_assoc, exists_and_left, exists_eq_left',
    SettingsDraft.exists_problems_iff, exists_and_right, exists_warnings_iff, warnable_iff]
  constructor
  · rintro ⟨hshape, hvalues⟩
    refine ⟨hshape, ?_⟩
    intro hnone
    obtain ⟨hrange, hflags, hdialect, hlevel, hcheckable, hbound⟩ := hvalues hnone
    refine ⟨?_, hcheckable, fun hproblems => (hbound hproblems).1⟩
    simpa only [List.forall_mem_cons, List.not_mem_nil, false_imp_iff, implies_true, and_true] using
      ⟨hrange, hflags, hdialect, hlevel⟩
  · rintro ⟨hshape, hvalues⟩
    refine ⟨hshape, ?_⟩
    intro hnone
    obtain ⟨hshown, hcheckable, hbound⟩ := hvalues hnone
    simp only [List.forall_mem_cons, List.not_mem_nil, false_imp_iff, implies_true,
      and_true] at hshown
    obtain ⟨hrange, hflags, hdialect, hlevel⟩ := hshown
    exact ⟨hrange, hflags, hdialect, hlevel, hcheckable, fun hproblems =>
      ⟨hbound hproblems, reports_ok _⟩⟩

theorem refuse_expected (problems : List Text) :
    FailsAs SettingsError.Expected (refuse problems) := by
  intro e he
  rw [refuse] at he
  split at he
  · cases he
  · exact .inl ⟨problems, (Except.error.inj he).symm⟩

theorem ofMerged_expected (config : Entries) : FailsAs SettingsError.Expected (ofMerged config) :=
  (shapeProblems_uncomplaining config).expected.bind fun _ => (refuse_expected _).bind fun _ =>
    (shownNamed_uncomplaining _ _).expected.bind fun _ =>
    (shownNamed_uncomplaining _ _).expected.bind fun _ =>
    (shownNamed_uncomplaining _ _).expected.bind fun _ =>
    (shownNamed_uncomplaining _ _).expected.bind fun _ =>
    (SettingsDraft.problems_uncomplaining _ _ _ _ _ _ _).expected.bind fun _ =>
    (refuse_expected _).bind fun _ =>
    (SettingsDraft.complaints_uncomplaining _ _).expected.bind fun _ => failsAs_ok _

/-! ### The configuration -/

theorem ofMerged_defaults : ofMerged defaults = .ok initial := rfl

/-- The failures that are not reported are an integer too long to be written and a value that no set can hold; a configuration meets with neither exactly when it is reportable. -/
theorem ofConfig_reports_iff (config : Value) :
    (((∃ s, ofConfig config = .ok s) ∨ ∃ problems, ofConfig config = .error (.invalid problems)) ↔
      ∀ entries, config = .map entries → Reportable (Entries.merge defaults entries)) ∧
    ∀ e, ofConfig config = .error e →
      (∃ problems, e = .invalid problems) ∨ e = .tooManyDigits ∨ ∃ kind, e = .unhashable kind := by
  have hdefaults : Reports (ofMerged defaults) := .inl ⟨initial, ofMerged_defaults⟩
  unfold ofConfig
  split
  · rename_i hempty
    refine ⟨iff_of_true hdefaults ?_, ofMerged_expected defaults⟩
    rintro entries rfl
    have hnil : entries = [] := by simpa [Value.isTruthy] using hempty
    rw [hnil]
    exact (ofMerged_reports_iff defaults).mp hdefaults
  · split
    · rename_i entries _
      refine ⟨(ofMerged_reports_iff _).trans ?_, ofMerged_expected _⟩
      constructor
      · rintro hreportable _ ⟨⟩
        exact hreportable
      · intro h
        exact h entries rfl
    · rename_i hkind
      refine ⟨iff_of_true (.inr ⟨_, rfl⟩) fun entries h => absurd h (hkind entries), ?_⟩
      intro e he
      exact .inl ⟨_, (Except.error.inj he).symm⟩

/-- A separator that is itself a list stops the check that would complain about it. -/
theorem ofConfig_nested_separator :
    ofConfig (.map [(.text "separators", .list [.list [.text "/"]])]) =
      .error (.unhashable "list") := by
  rfl

end Settings

end Substitute
