import Substitute.Compose.Toggling
import Substitute.Proofs.Command.Toggle
import Substitute.Proofs.Settings.Accepted

/-!
# Toggling and composing under accepted settings

Every revision puts its cursor into its text. Under accepted settings a toggle fails only for want of a flag, and a compose that ends the session before it does not fail at all.
-/

namespace Substitute

/-! ### Revisions -/

theorem Command.serialize_eq (c : Command) :
    c.serialize = c.range ++ c.separator ++ c.search ++ c.separator ++ c.replace ++ c.separator ++
      c.flags := by
  simp [serialize, Field.join, fields, List.intercalate, List.intersperse]

def Revision.InText (r : Revision) : Prop :=
  0 ≤ r.cursor ∧ r.cursor ≤ r.text.length

theorem Revision.inText_ofCommand (c : Command) : (Revision.ofCommand c).InText := by
  have hlength : c.separator.length + c.flags.length ≤ c.serialize.length := by
    rw [c.serialize_eq]
    simp only [List.length_append]
    omega
  simp only [InText, ofCommand, Command.cursorIn]
  omega

namespace Session

variable {s : Session} {settings : Settings}

/-! ### Toggles -/

theorem exists_resolve (s : Session) (t : Text) : ∃ c, s.resolve t = .ok c := by
  have hfields : ∀ separator, ∃ c,
      (Command.ofFields (splitCommand t separator) separator).map some = .ok c := by
    intro separator
    obtain ⟨hlow, hhigh⟩ := length_splitCommand t separator
    obtain ⟨c, hc⟩ := exists_ofFields hlow hhigh separator
    exact ⟨some c, by rw [hc]; rfl⟩
  unfold resolve
  cases Command.parse? t with
  | some c => exact hfields c.separator
  | none =>
    by_cases hactive : s.active = true
    · simpa only [hactive, if_true] using hfields s.separator
    · exact ⟨none, by simp [hactive]⟩

theorem exists_transform (hdialects : settings.dialects ≠ []) (c : Command) {toggle : Toggle}
    {flag : Option Text} (hflag : toggle = .flag → ∃ f more, flag = some (f :: more)) :
    ∃ changed, s.transform settings c flag toggle = .ok changed := by
  cases toggle with
  | flag =>
    obtain ⟨f, more, rfl⟩ := hflag rfl
    exact ⟨_, rfl⟩
  | replace => exact ⟨_, rfl⟩
  | range => exact ⟨_, rfl⟩
  | separator => exact ⟨_, rfl⟩
  | dialect =>
    obtain ⟨dialect, hnext⟩ := Command.exists_nextDialect hdialects c.dialect
    exact ⟨c.withSearch (dialect ++ c.searchBody), by simp [transform, Command.cycleDialect?, hnext]⟩

theorem apply_eq (s : Session) (settings : Settings) (toggle : Toggle) (t : Text) (flag : Option Text) :
    s.apply settings toggle t flag =
      match s.resolve t with
      | .error e => .error (.fields e)
      | .ok none => .ok none
      | .ok (some c) => (s.transform settings c flag toggle).map fun changed =>
          some (Revision.ofCommand changed, s.remember changed.separator changed.dialect) := by
  rw [apply]
  cases s.resolve t with
  | error e => rfl
  | ok found =>
    cases found with
    | none => rfl
    | some c =>
      simp only [mapError_ok, ok_bind]
      cases s.transform settings c flag toggle <;> rfl

theorem exists_apply (s : Session) (hsettings : settings.Valid) (t : Text) {toggle : Toggle}
    {flag : Option Text} (hflag : toggle = .flag → ∃ f more, flag = some (f :: more)) :
    ∃ answer, s.apply settings toggle t flag = .ok answer := by
  obtain ⟨c, hc⟩ := s.exists_resolve t
  cases c with
  | none => exact ⟨none, by rw [apply_eq, hc]⟩
  | some c =>
    obtain ⟨changed, hchanged⟩ :=
      exists_transform (s := s) hsettings.dialects_ne_nil c hflag
    exact ⟨_, by rw [apply_eq, hc]; simp only [hchanged]; rfl⟩

theorem exists_of_apply {toggle : Toggle} {t : Text} {flag : Option Text} {r : Revision}
    {after : Session} (happly : s.apply settings toggle t flag = .ok (some (r, after))) :
    ∃ c changed : Command, s.resolve t = .ok (some c) ∧
      s.transform settings c flag toggle = .ok changed ∧ r = Revision.ofCommand changed ∧
      after = s.remember changed.separator changed.dialect := by
  obtain ⟨c, hc⟩ := s.exists_resolve t
  rw [apply_eq, hc] at happly
  cases c with
  | none => simp at happly
  | some c =>
    cases hchanged : s.transform settings c flag toggle with
    | error e => simp [hchanged] at happly
    | ok changed =>
      simp only [hchanged, map_ok, Except.ok.injEq, Option.some.injEq, Prod.mk.injEq] at happly
      exact ⟨c, changed, hc, hchanged, happly.1.symm, happly.2.symm⟩

theorem inText_of_apply {toggle : Toggle} {t : Text} {flag : Option Text} {r : Revision}
    {after : Session} (happly : s.apply settings toggle t flag = .ok (some (r, after))) :
    r.InText := by
  obtain ⟨c, changed, -, -, rfl, -⟩ := exists_of_apply happly
  exact Revision.inText_ofCommand changed

/-! ### Composing -/

theorem exists_uniqueSeparator {candidates : List Text} (hne : candidates ≠ []) (t : Text) :
    ∃ separator, uniqueSeparator? candidates t = some separator := by
  obtain ⟨first, rest, rfl⟩ := List.exists_cons_of_ne_nil hne
  rw [uniqueSeparator?]
  cases (first :: rest).find? fun candidate => !candidate.occursIn t with
  | none => exact ⟨first, rfl⟩
  | some free => exact ⟨free, rfl⟩

theorem exists_compose_leave (s : Session) (hsettings : settings.Valid) (captured : Text) :
    ∃ answer, s.leave.compose settings captured = .ok answer := by
  obtain ⟨separator, hseparator⟩ := exists_uniqueSeparator hsettings.separators_ne_nil captured
  exact ⟨_, by rw [compose, hseparator]; rfl⟩

/-- A compose puts the word on the line twice, under the separator that is chosen for it. -/
theorem exists_of_compose {captured : Text} {r : Revision} {after : Session}
    (hcompose : s.compose settings captured = .ok (r, after)) :
    ∃ separator, uniqueSeparator? settings.separators captured = some separator ∧
      r = Revision.ofCommand (Command.make separator settings.defaultRange
        (settings.defaultDialect ++ captured) captured settings.defaultFlags) := by
  rw [compose] at hcompose
  cases hseparator : uniqueSeparator? settings.separators captured with
  | none => simp [hseparator] at hcompose
  | some separator =>
    cases hstart : s.start captured separator settings.defaultDialect with
    | error e => simp [hseparator, hstart] at hcompose
    | ok started =>
      simp only [hseparator, hstart, mapError_ok, ok_bind, pure_eq_ok_iff, Prod.mk.injEq] at hcompose
      exact ⟨separator, rfl, hcompose.1.symm⟩

theorem inText_of_compose {captured : Text} {r : Revision} {after : Session}
    (hcompose : s.compose settings captured = .ok (r, after)) : r.InText := by
  obtain ⟨separator, -, rfl⟩ := exists_of_compose hcompose
  exact Revision.inText_ofCommand _

theorem compose_anew (s : Session) (settings : Settings) (captured : Text) :
    (match s.compose settings captured with
      | .error (.session .alreadyActive) => s.leave.compose settings captured
      | result => result) = s.leave.compose settings captured := by
  by_cases hactive : s.active = true
  · cases hseparator : uniqueSeparator? settings.separators captured with
    | none => simp [compose, hseparator]
    | some separator => simp [compose, hseparator, start, hactive]
  · have hleave : s.leave = s := by
      rw [leave, ← eq_false_of_ne_true hactive]
    rw [hleave]
    split <;> rfl

end Session

end Substitute
