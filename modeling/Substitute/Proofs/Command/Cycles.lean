import Substitute.Proofs.Command.Toggle
import Substitute.Proofs.Settings.Accepted

/-!
# Stepping the separator

The cycle passes over candidates that stand in the search or the replace term, since such a separator would cut the field it stands in. That leaves one candidate under which a command is not read back: a backslash, which settings accept as a separator, pairs with the character after it and separates nothing.
-/

namespace Substitute.Command

variable {c : Command} {settings : Settings}

/-- The separator steps to a backslash only where one is configured and neither field holds any. -/
theorem backslash_of_cycleSeparator {candidates : List Text} (hc : c.separator ≠ ['\\'])
    (hslash : (c.cycleSeparator candidates).separator = ['\\']) :
    ['\\'] ∈ candidates ∧ '\\' ∉ c.search ∧ '\\' ∉ c.replace := by
  rcases c.cycleSeparator_cases candidates with ⟨separator, hmem, hsearch, hreplace, hcycle⟩ | hcycle
  · rw [hcycle] at hslash
    obtain rfl : separator = ['\\'] := hslash
    rw [← Bool.not_eq_true, Text.occursIn_singleton] at hsearch hreplace
    exact ⟨hmem, hsearch, hreplace⟩
  · rw [hcycle] at hslash
    exact absurd hslash hc

/-- Under accepted settings, stepping the separator of a command that its own text is read as changes nothing else about it. Its new text is read as the new command exactly when the new separator is no backslash; and a backslash it can be only where one is configured and neither field holds one. -/
theorem parse?_cycleSeparator_iff {config : Value}
    (hsettings : Settings.ofConfig config = .ok settings)
    (hread : parse? c.serialize = some c) :
    let changed := c.cycleSeparator settings.separators
    changed = { c with separator := changed.separator } ∧
      (parse? changed.serialize = some changed ↔ changed.separator ≠ ['\\']) ∧
      (changed.separator = ['\\'] →
        ['\\'] ∈ settings.separators ∧ '\\' ∉ c.search ∧ '\\' ∉ c.replace) := by
  intro changed
  have hvalid := (Settings.valid_of_ofConfig hsettings).separators_valid
  obtain ⟨mark, hc⟩ := exists_readable hread
  refine ⟨?_, ⟨?_, ?_⟩, ?_⟩
  · rcases c.cycleSeparator_cases settings.separators with ⟨separator, -, -, -, hcycle⟩ | hcycle <;>
      simp only [changed, hcycle]
  · exact fun h => ((parse?_serialize_iff changed).mp h).2.2.1
  · intro hne
    obtain ⟨mark, hchanged⟩ := hc.cycleSeparator_of_ne hvalid hne
    exact hchanged.parse?_serialize
  · have hc_ne : c.separator ≠ ['\\'] := by
      rw [hc.separator]
      exact fun heq => hc.mark_ne (List.cons.inj heq).1
    exact backslash_of_cycleSeparator hc_ne

theorem parse?_cycleSeparator_escaped :
    let c := make "/" "%s" "a\\/b?" [] "g"
    parse? c.serialize = some c ∧
      (c.cycleSeparator Settings.initial.separators).serialize = ("%s#a\\/b?##g" : Text) ∧
      parse? "%s#a\\/b?##g" = some (c.cycleSeparator Settings.initial.separators) := by
  intro c
  have haccepted : Settings.ofConfig .null = .ok .initial := rfl
  have hread : parse? c.serialize = some c := by decide
  have htext : (c.cycleSeparator Settings.initial.separators).serialize =
      ("%s#a\\/b?##g" : Text) := by
    decide
  have hchanged := (parse?_cycleSeparator_iff haccepted hread).2.1.mpr (by decide)
  rw [htext] at hchanged
  exact ⟨hread, htext, hchanged⟩

/-- A configuration with a backslash after the slash is accepted, and a command steps to it without being read back: both backslashes that are to separate pair with the character after them. -/
theorem cycleSeparator_backslash :
    let config : Value := .map [(.text "separators", .list [.text "/", .text "\\"])]
    let c := make "/" "%s" "foo" "bar" "g"
    ∃ settings, Settings.ofConfig config = .ok settings ∧ parse? c.serialize = some c ∧
      (c.cycleSeparator settings.separators).serialize = ("%s\\foo\\bar\\g" : Text) ∧
      parse? "%s\\foo\\bar\\g" = some (make "\\" "%s" "foo\\bar\\g" [] []) ∧
      parse? (c.cycleSeparator settings.separators).serialize ≠
        some (c.cycleSeparator settings.separators) := by
  intro config c
  exact ⟨{ Settings.initial with separators := ["/", "\\"] }, rfl, by decide, by decide, by decide,
    by decide⟩

end Substitute.Command
