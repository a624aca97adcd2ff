import Substitute.Proofs.Steps
import Substitute.Settings.Source
import Substitute.Yaml.Writing

/-!
# Text that cannot be read

A typed line that YAML refuses is kept as it is, and a file that it refuses counts as empty. Only what the YAML library announces counts as a refusal. Any other failure of the library comes out of both.
-/

namespace Substitute

open Yaml

/-- A typed line that says null, without being read as YAML. -/
def IsTypedNull (t : Text) : Prop :=
  t.trim = "null".toList ∨ t.trim = ['~']

instance (t : Text) : Decidable (IsTypedNull t) :=
  inferInstanceAs (Decidable (_ ∨ _))

namespace Yaml.Library

variable {yaml : Library} {t : Text} {f : Failure}

/-- The library fails on a text in a way that it does not announce. -/
def Derails (yaml : Library) (t : Text) (f : Failure) : Prop :=
  yaml.load t = .error f ∧ ∀ message, f ≠ .announced message

theorem not_derails_of_ok {d : Document} (hload : yaml.load t = .ok d) : ¬ yaml.Derails t f :=
  fun hderails => nomatch hload.symm.trans hderails.1

theorem not_derails_of_announced {message : Text}
    (hload : yaml.load t = .error (.announced message)) : ¬ yaml.Derails t f := by
  rintro ⟨hfails, hother⟩
  cases hload.symm.trans hfails
  exact hother message rfl

theorem Derails.unique {g : Failure} (hf : yaml.Derails t f) (hg : yaml.Derails t g) : f = g :=
  Except.error.inj (hf.1.symm.trans hg.1)

theorem derails_iff_of_other {kind message : Text}
    (hload : yaml.load t = .error (.other kind message)) :
    yaml.Derails t f ↔ f = .other kind message := by
  rw [Derails, hload, Except.error.injEq, @eq_comm _ (Failure.other kind message),
    and_iff_left_iff_imp]
  rintro rfl _
  exact nofun

end Yaml.Library

open Yaml.Library

variable {yaml : Library}

theorem readTypedValue_cases (yaml : Library) (t : Text) :
    (∃ d, readTypedValue yaml t = .ok d) ∧ (IsTypedNull t ∨ ∀ f, ¬ yaml.Derails t f) ∨
      ¬ IsTypedNull t ∧ ∃ f, readTypedValue yaml t = .error f ∧ yaml.Derails t f := by
  rw [readTypedValue]
  by_cases hnull : IsTypedNull t
  · rw [if_pos (by simpa [IsTypedNull] using hnull)]
    exact .inl ⟨⟨_, rfl⟩, .inl hnull⟩
  · rw [if_neg (by simpa [IsTypedNull] using hnull)]
    cases hload : yaml.load t with
    | ok document =>
      refine .inl ⟨?_, .inr fun f => not_derails_of_ok hload⟩
      dsimp only
      split <;> exact ⟨_, rfl⟩
    | error failure =>
      cases failure with
      | announced message => exact .inl ⟨⟨_, rfl⟩, .inr fun f => not_derails_of_announced hload⟩
      | other kind message =>
        exact .inr ⟨hnull, _, rfl, (derails_iff_of_other hload).mpr rfl⟩

theorem isMapping_empty : Document.empty.isMapping = true := rfl

theorem ofFile_cases (yaml : Library) (t : Text) :
    (∃ source, ConfigSource.ofFile yaml (some t) = .ok source ∧ source.document.isMapping = true) ∧
        (∀ f, ¬ yaml.Derails (normalizeLineEnds t) f) ∨
      ∃ f, ConfigSource.ofFile yaml (some t) = .error f ∧ yaml.Derails (normalizeLineEnds t) f := by
  rw [ConfigSource.ofFile]
  cases hload : yaml.load (normalizeLineEnds t) with
  | ok document =>
    refine .inl ⟨⟨_, rfl, ?_⟩, fun f => not_derails_of_ok hload⟩
    dsimp only
    split
    · assumption
    · exact isMapping_empty
  | error failure =>
    cases failure with
    | announced message =>
      exact .inl ⟨⟨_, rfl, isMapping_empty⟩, fun f => not_derails_of_announced hload⟩
    | other kind message => exact .inr ⟨_, rfl, (derails_iff_of_other hload).mpr rfl⟩

private theorem readTypedValue_eq_error_iff (t : Text) (f : Failure) :
    readTypedValue yaml t = .error f ↔ ¬ IsTypedNull t ∧ yaml.Derails t f := by
  obtain ⟨⟨d, hd⟩, hreads⟩ | ⟨hnull, g, hg, hderails⟩ := readTypedValue_cases yaml t
  · refine iff_of_false (by simp [hd]) ?_
    rintro ⟨hnull, hderails⟩
    exact hreads.elim hnull fun hnever => hnever f hderails
  · rw [hg, and_iff_right hnull]
    exact ⟨fun h => Except.error.inj h ▸ hderails, fun h => congrArg _ (hderails.unique h)⟩

private theorem ofFile_eq_error_iff (t : Text) (f : Failure) :
    ConfigSource.ofFile yaml (some t) = .error f ↔ yaml.Derails (normalizeLineEnds t) f := by
  obtain ⟨⟨source, hsource, -⟩, hnever⟩ | ⟨g, hg, hderails⟩ := ofFile_cases yaml t
  · exact iff_of_false (by simp [hsource]) (hnever f)
  · rw [hg]
    exact ⟨fun h => Except.error.inj h ▸ hderails, fun h => congrArg _ (hderails.unique h)⟩

/-- A typed line and a configuration file can be read whatever their text is, unless the YAML library derails on it; both then break off, and with the failure of the library. A line that says null is not read as YAML at all. -/
theorem readable_iff (yaml : Library) (t : Text) :
    ((∃ d, readTypedValue yaml t = .ok d) ↔ IsTypedNull t ∨ ∀ f, ¬ yaml.Derails t f) ∧
    ((∃ source, ConfigSource.ofFile yaml (some t) = .ok source ∧
        source.document.isMapping = true) ↔ ∀ f, ¬ yaml.Derails (normalizeLineEnds t) f) ∧
    ∀ f, (readTypedValue yaml t = .error f ↔ ¬ IsTypedNull t ∧ yaml.Derails t f) ∧
      (ConfigSource.ofFile yaml (some t) = .error f ↔ yaml.Derails (normalizeLineEnds t) f) := by
  refine ⟨?_, ?_, fun f => ⟨readTypedValue_eq_error_iff t f, ofFile_eq_error_iff t f⟩⟩
  · obtain ⟨hreads, hnever⟩ | ⟨hnull, f, hf, hderails⟩ := readTypedValue_cases yaml t
    · exact iff_of_true hreads hnever
    · refine iff_of_false ?_ fun hnever => hnever.elim hnull fun hnever => hnever f hderails
      rintro ⟨d, hd⟩
      exact nomatch hf.symm.trans hd
  · obtain ⟨hreads, hnever⟩ | ⟨f, hf, hderails⟩ := ofFile_cases yaml t
    · exact iff_of_true hreads hnever
    · refine iff_of_false ?_ fun hnever => hnever f hderails
      rintro ⟨source, hsource, -⟩
      exact nomatch hf.symm.trans hsource

/-- A date outside the calendar is neither kept as typed nor ignored. -/
theorem unreadable_date :
    readTypedValue Yaml.library "2020-13-45" =
        .error (.other "ValueError" "month must be in 1..12") ∧
      ConfigSource.ofFile Yaml.library (some "since: 2020-13-45\n") =
        .error (.other "ValueError" "month must be in 1..12") := by
  simp only [← failure?_eq_some_iff]
  decide +kernel

end Substitute
