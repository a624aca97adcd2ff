import Substitute.Proofs.Command.Toggle
import Substitute.Proofs.Compose.Sequences

/-!
# Restoring the replace term

An emptied replace term is restored to the word that the session was started with. That word was free of the separator it was composed under, but the line may carry another one by now. So restoring leaves a line that is read back exactly when the word ends at the separator that stands on the line.
-/

namespace Substitute

/-- Switching the replace term leaves a readable command exactly when there was one to clear, or the restored text ends at the separator. -/
theorem Command.exists_readable_toggleReplace_iff {c : Command} {mark : Char}
    (hc : c.Readable mark) (restore : Text) :
    (∃ mark, (c.toggleReplace restore).Readable mark) ↔
      c.replace ≠ [] ∨ Field.Closed mark restore := by
  rw [toggleReplace]
  cases hreplace : c.replace with
  | nil =>
    constructor
    · rintro ⟨other, h⟩
      obtain rfl : mark = other := (List.cons.inj (hc.separator.symm.trans h.separator)).1
      exact .inr h.replace
    · rintro (hne | hrestore)
      · exact absurd rfl hne
      · exact ⟨mark, hc.withReplace hrestore⟩
  | cons first rest =>
    exact iff_of_true ⟨mark, hc.withReplace (Field.closed_nil mark)⟩ (.inl (List.cons_ne_nil _ _))

namespace Session

variable {s started : Session} {settings : Settings} {w t : Text} {composed : Revision} {c : Command}

theorem active_of_compose (hcompose : s.compose settings w = .ok (composed, started)) :
    started.active = true ∧ started.captured = w := by
  rw [compose] at hcompose
  cases hseparator : uniqueSeparator? settings.separators w with
  | none => simp [hseparator] at hcompose
  | some separator =>
    simp only [hseparator, start] at hcompose
    by_cases hactive : s.active = true
    · simp [hactive] at hcompose
    · simp only [hactive, Bool.false_eq_true, if_false, mapError_ok, ok_bind, pure_eq_ok_iff,
        Prod.mk.injEq] at hcompose
      rw [← hcompose.2]
      exact ⟨rfl, rfl⟩

/-- In a session that was started with a word, whatever separator and dialect it has noted since, switching the replace term of a line that is a command in full always gives a revision, with the term cleared or the word restored. Its text is read as its command exactly when there was a term to clear, or the word ends at the separator on the line: it holds that separator only in escape pairs and does not end in a backslash that pairs with nothing. -/
theorem parse?_apply_replace_iff (hcompose : s.compose settings w = .ok (composed, started))
    (separator dialect : Text) (hparse : Command.parse? t = some c) (hwhole : c.serialize = t)
    (flag : Option Text) :
    ∃ r after, (started.remember separator dialect).apply settings .replace t flag =
        .ok (some (r, after)) ∧
      r = Revision.ofCommand (c.toggleReplace w) ∧
      (Command.parse? r.text = some r.command ↔
        c.replace ≠ [] ∨ ∀ mark ∈ c.separator, Field.Closed mark w) := by
  obtain ⟨hactive, hcaptured⟩ := active_of_compose hcompose
  subst hwhole
  obtain ⟨mark, hc⟩ := Command.exists_readable hparse
  have htransform : (started.remember separator dialect).transform settings c flag .replace =
      .ok (c.toggleReplace w) := by
    simp only [transform, restoreText, remember, hactive, hcaptured, if_true]
  have hresolve := (started.remember separator dialect).resolve_serialize hc
  refine ⟨_, _, apply_of_resolve hresolve htransform, rfl, ?_⟩
  have hreadable := Command.exists_readable_toggleReplace_iff hc w
  simp only [hc.separator, List.forall_mem_singleton]
  exact Command.exists_readable_iff.symm.trans hreadable

theorem parse?_apply_replace_escaped :
    ∃ composed started, ({} : Session).compose .initial "a\\/b" = .ok (composed, started) ∧
      composed.text = (".,$s?\\Va\\/b?a\\/b?gc" : Text) ∧
      ∃ r after, started.apply .initial .replace "%s/x//g" none = .ok (some (r, after)) ∧
        r.text = ("%s/x/a\\/b/g" : Text) ∧ Command.parse? r.text = some r.command := by
  refine ⟨_, _, rfl, by decide, ?_⟩
  have hcompose : ({} : Session).compose .initial "a\\/b" =
      .ok (Revision.ofCommand (Command.make "?" ".,$s" "\\Va\\/b" "a\\/b" "gc"),
        { active := true, captured := "a\\/b", separator := "?", dialect := "\\V" }) := rfl
  have hparse : Command.parse? "%s/x//g" = some (Command.make "/" "%s" "x" [] "g") := by decide
  obtain ⟨r, after, happly, rfl, hread⟩ :=
    parse?_apply_replace_iff hcompose "?" "\\V" hparse (by decide) none
  have hclosed : Field.Closed '/' "a\\/b" := ⟨by decide, by decide⟩
  exact ⟨_, after, happly, by decide, hread.mpr (.inr (by simpa [Command.make] using hclosed))⟩

/-- A word with a slash is composed under a question mark. When the line is then typed anew with slashes and without a replace term, restoring the word cuts it in two. -/
theorem apply_replace_slash :
    ∃ composed started r after, ({} : Session).compose .initial "a/b" = .ok (composed, started) ∧
      Command.parse? "%s/x//g" = some (Command.make "/" "%s" "x" [] "g") ∧
      (Command.make "/" "%s" "x" [] "g").serialize = ("%s/x//g" : Text) ∧
      started.apply .initial .replace "%s/x//g" none = .ok (some (r, after)) ∧
      r.text = ("%s/x/a/b/g" : Text) ∧
      r.command = Command.make "/" "%s" "x" "a/b" "g" ∧
      Command.parse? r.text = some (Command.make "/" "%s" "x" "a" "b/g") ∧
      Command.parse? r.text ≠ some r.command :=
  ⟨_, _, _, _, rfl, by decide, by decide, rfl, by decide, by decide, by decide, by decide⟩

end Session

end Substitute
