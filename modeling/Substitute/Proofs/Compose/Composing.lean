import Substitute.Proofs.Command.Toggle
import Substitute.Proofs.Compose.Toggling

/-!
# Composed commands

A command is composed under the first separator that its word does not hold, and the word goes into search and replace term as it is. Whether the line is then read as the command that was composed depends on what the separator leaves open: the configured range has to be one, the separator no backslash, and the word must not end in a backslash that would pair with the separator after it.
-/

namespace Substitute

theorem exists_uniqueSeparator_free {candidates : List Text} {t : Text}
    (hfree : ∃ separator ∈ candidates, separator.occursIn t = false) :
    ∃ separator ∈ candidates,
      uniqueSeparator? candidates t = some separator ∧ separator.occursIn t = false := by
  rw [uniqueSeparator?]
  cases hfind : candidates.find? fun candidate => !candidate.occursIn t with
  | none =>
    obtain ⟨separator, hmem, hseparator⟩ := hfree
    have hheld := List.find?_eq_none.mp hfind separator hmem
    rw [hseparator] at hheld
    exact absurd rfl hheld
  | some separator =>
    have hseparator := List.find?_some hfind
    exact ⟨separator, List.mem_of_find?_eq_some hfind, rfl, Bool.not_eq_true' _ ▸ hseparator⟩

namespace Session

variable {s : Session} {settings : Settings} {w separator : Text}

theorem compose_of_inactive (hactive : s.active = false)
    (hseparator : uniqueSeparator? settings.separators w = some separator) :
    s.compose settings w =
      .ok (Revision.ofCommand (Command.make separator settings.defaultRange
          (settings.defaultDialect ++ w) w settings.defaultFlags),
        { active := true, captured := w, separator, dialect := settings.defaultDialect }) := by
  rw [compose, hseparator]
  simp [start, hactive]

end Session

/-- A word under a separator that it does not hold, behind a dialect: what is left to ask of the command. -/
theorem Command.exists_readable_make_iff (range flags : Text) {dialect w separator : Text}
    (hdialect : IsDialect dialect) (hvalid : isValidSeparator separator = true)
    (hfree : separator.occursIn w = false) :
    (∃ mark, (make separator range (dialect ++ w) w flags).Readable mark) ↔
      IsRange range ∧ separator ≠ ['\\'] ∧ Field.endsUnpaired w = false := by
  constructor
  · rintro ⟨mark, h⟩
    refine ⟨h.range, ?_, h.replace.paired⟩
    rintro rfl
    exact h.mark_ne (List.cons.inj h.separator).1.symm
  · rintro ⟨hrange, hne, hpaired⟩
    obtain ⟨mark, rfl, hmark, hmark_ne⟩ := exists_mark hvalid hne
    have hclosed : Field.Closed mark w := Field.closed_of_free hfree hpaired
    exact ⟨mark, hrange, rfl, hmark, hmark_ne, rfl,
      (Field.closed_append_iff (hdialect.closed mark)).mpr hclosed, hclosed⟩

namespace Session

/-- Under accepted settings, and with a separator that the word does not hold, composing succeeds with the word as replace term. The line is read as the composed command exactly when the configured range is a range, the separator is no backslash, and the word does not end in a backslash that pairs with nothing. -/
theorem parse?_compose_iff {config : Value} {settings : Settings}
    (hsettings : Settings.ofConfig config = .ok settings) {s : Session} (hactive : s.active = false)
    {w : Text} (hfree : ∃ separator ∈ settings.separators, separator.occursIn w = false) :
    ∃ r started, s.compose settings w = .ok (r, started) ∧ r.command.replace = w ∧
      (Command.parse? r.text = some r.command ↔
        IsRange settings.defaultRange ∧ r.command.separator ≠ ['\\'] ∧
          Field.endsUnpaired w = false) := by
  have hvalid := Settings.valid_of_ofConfig hsettings
  obtain ⟨separator, hmem, hunique, hnew⟩ := exists_uniqueSeparator_free hfree
  refine ⟨_, _, compose_of_inactive hactive hunique, rfl, ?_⟩
  have hreadable := Command.exists_readable_make_iff settings.defaultRange settings.defaultFlags
    hvalid.dialect_known (hvalid.separators_valid separator hmem) hnew
  exact Command.exists_readable_iff.symm.trans hreadable

theorem parse?_compose_escaped_end :
    ∃ r started, ({} : Session).compose .initial "a/\\?" = .ok (r, started) ∧
      r.text = (".,$s#\\Va/\\?#a/\\?#gc" : Text) ∧ Command.parse? r.text = some r.command := by
  have haccepted : Settings.ofConfig .null = .ok .initial := rfl
  have hactive : ({} : Session).active = false := rfl
  have hfree : ∃ separator ∈ Settings.initial.separators,
      Text.occursIn separator "a/\\?" = false := ⟨"#", by decide, by decide⟩
  obtain ⟨r, started, hcompose, -, hread⟩ := parse?_compose_iff haccepted hactive hfree
  have hknown : (({} : Session).compose .initial "a/\\?").map Prod.fst =
      .ok (Revision.ofCommand (Command.make "#" ".,$s" "\\Va/\\?" "a/\\?" "gc")) := by
    rfl
  rw [hcompose] at hknown
  obtain rfl := Except.ok.inj hknown
  have hrange : IsRange Settings.initial.defaultRange := isRange_append ".,$" (by decide)
  exact ⟨_, started, hcompose, by decide, hread.mpr ⟨hrange, by decide, by decide⟩⟩

/-- A word that ends in a lone backslash is composed into a line that is read as a command with nothing but a search, since the backslash pairs with the separator. -/
theorem compose_lone_backslash :
    ∃ r started, ({} : Session).compose .initial "a\\" = .ok (r, started) ∧
      (∃ separator ∈ Settings.initial.separators, Text.occursIn separator "a\\" = false) ∧
      Command.parse? r.text = some (Command.make "/" ".,$s" "\\Va\\/a\\/gc" [] []) ∧
      Command.parse? r.text ≠ some r.command := by
  refine ⟨Revision.ofCommand (Command.make "/" ".,$s" "\\Va\\" "a\\" "gc"), _, rfl, ?_, ?_, ?_⟩
  · exact ⟨"/", by decide, by decide⟩
  · decide
  · decide

end Session

end Substitute
