import Substitute.Proofs.Compose.Toggling

/-!
# Calls that fail

A call changes the session step by step, so a failure on the way could leave it half changed. It never does: under accepted settings the two calls that can fail do so before their first step, and every session fails them in the same two ways.
-/

namespace Substitute

namespace Session

variable {settings : Settings}

/-! ### Calls step by step -/

/-- Starting as the steps it takes on the session, which stay taken when a later one fails. -/
def starting (captured separator dialect : Text) : EStateM SessionError Session Unit := do
  if (← get).active then throw .alreadyActive
  modify fun s => { s with active := true }
  modify fun s => { s with captured }
  modify fun s => { s with separator }
  modify fun s => { s with dialect }

/-- Applying as steps on the session, as in `starting`. -/
def applying (settings : Settings) (toggle : Toggle) (t : Text) (flag : Option Text) :
    EStateM ToggleError Session (Option Revision) := do
  match ← MonadExcept.ofExcept (((← get).resolve t).mapError ToggleError.fields) with
  | none => return none
  | some c =>
    let changed ← MonadExcept.ofExcept ((← get).transform settings c flag toggle)
    modify fun s => { s with separator := changed.separator }
    modify fun s => { s with dialect := changed.dialect }
    return some (Revision.ofCommand changed)

/-- Composing as steps on the session, as in `starting`. -/
def composing (settings : Settings) (captured : Text) : EStateM ComposeError Session Revision := do
  match uniqueSeparator? settings.separators captured with
  | none => throw .noSeparators
  | some separator =>
    EStateM.adaptExcept ComposeError.session (starting captured separator settings.defaultDialect)
    let search := settings.defaultDialect ++ captured
    return Revision.ofCommand
      (Command.make separator settings.defaultRange search captured settings.defaultFlags)

private theorem run_applying (s : Session) (toggle : Toggle) (t : Text) (flag : Option Text) :
    (applying settings toggle t flag).run s =
      match s.apply settings toggle t flag with
      | .ok (some (r, after)) => .ok (some r) after
      | .ok none => .ok none s
      | .error e => .error e s := by
  simp only [applying, EStateM.run_bind, EStateM.run_get, apply_eq]
  cases s.resolve t with
  | error e => rfl
  | ok found =>
    cases found with
    | none => rfl
    | some c =>
      simp only [Except.mapError, MonadExcept.ofExcept, EStateM.run_pure, EStateM.run_bind,
        EStateM.run_get]
      cases s.transform settings c flag toggle <;> rfl

private theorem run_starting (s : Session) (captured separator dialect : Text) :
    (starting captured separator dialect).run s =
      match s.start captured separator dialect with
      | .ok started => .ok () started
      | .error e => .error e s := by
  rw [start]
  cases hactive : s.active <;> simp [starting, hactive]

private theorem run_adaptExcept {ε ε' α : Type} (s : Session) (f : ε → ε') (call : EStateM ε Session α) :
    (EStateM.adaptExcept f call).run s =
      match call.run s with
      | .ok a after => .ok a after
      | .error e after => .error (f e) after := by
  simp only [EStateM.run, EStateM.adaptExcept]
  cases call s <;> rfl

private theorem run_composing (s : Session) (captured : Text) :
    (composing settings captured).run s =
      match s.compose settings captured with
      | .ok (r, after) => .ok r after
      | .error e => .error e s := by
  rw [compose]
  cases hseparator : uniqueSeparator? settings.separators captured with
  | none => simp only [composing, hseparator]; rfl
  | some separator =>
    simp only [composing, hseparator, EStateM.run_bind, run_adaptExcept, run_starting]
    cases s.start captured separator settings.defaultDialect <;> rfl

/-! ### When calls fail -/

private theorem shouldProcess_iff {s : Session} {t : Text} :
    s.shouldProcess t = true ↔ ∃ c, s.resolve t = .ok (some c) := by
  have hfields : ∀ separator, ∃ c,
      (Command.ofFields (splitCommand t separator) separator).map some = .ok (some c) := by
    intro separator
    obtain ⟨hlow, hhigh⟩ := length_splitCommand t separator
    obtain ⟨c, hc⟩ := exists_ofFields hlow hhigh separator
    exact ⟨c, by rw [hc]; rfl⟩
  rw [shouldProcess, resolve]
  cases Command.parse? t with
  | some c => simpa using hfields c.separator
  | none =>
    cases s.active with
    | true => simpa using hfields s.separator
    | false => simp

private theorem transform_eq_error_iff (s : Session) (hdialects : settings.dialects ≠ []) (c : Command)
    (toggle : Toggle) (flag : Option Text) {e : ToggleError} :
    s.transform settings c flag toggle = .error e ↔
      e = .missingFlag ∧ toggle = .flag ∧ (flag = none ∨ flag = some []) := by
  by_cases hlacks : toggle = .flag ∧ (flag = none ∨ flag = some [])
  · obtain ⟨rfl, rfl | rfl⟩ := hlacks <;> simp [transform, eq_comm]
  · have hflag : toggle = .flag → ∃ f more, flag = some (f :: more) := by
      intro htoggle
      rcases flag with - | - | ⟨f, more⟩
      · exact absurd ⟨htoggle, .inl rfl⟩ hlacks
      · exact absurd ⟨htoggle, .inr rfl⟩ hlacks
      · exact ⟨f, more, rfl⟩
    obtain ⟨changed, hchanged⟩ : ∃ changed, s.transform settings c flag toggle = .ok changed :=
      exists_transform hdialects c hflag
    simp only [hchanged, hlacks, and_false, reduceCtorEq]

private theorem apply_eq_error_iff {s : Session} (hdialects : settings.dialects ≠ []) {toggle : Toggle}
    {t : Text} {flag : Option Text} {e : ToggleError} :
    s.apply settings toggle t flag = .error e ↔
      e = .missingFlag ∧ toggle = .flag ∧ (flag = none ∨ flag = some []) ∧
        ∃ c, s.resolve t = .ok (some c) := by
  obtain ⟨found, hfound⟩ := s.exists_resolve t
  rw [apply_eq, hfound]
  cases found with
  | none => simp
  | some c =>
    have hmap : ∀ call : Except ToggleError Command,
        (call.map fun changed => some (Revision.ofCommand changed,
          s.remember changed.separator changed.dialect)) = .error e ↔ call = .error e := by
      intro call
      cases call <;> simp
    simp only [hmap, s.transform_eq_error_iff hdialects c toggle flag, Except.ok.injEq,
      Option.some.injEq, exists_eq', and_true]

private theorem compose_eq_error_iff {s : Session} (hseparators : settings.separators ≠ [])
    {captured : Text} {e : ComposeError} :
    s.compose settings captured = .error e ↔ e = .session .alreadyActive ∧ s.active = true := by
  obtain ⟨separator, hseparator⟩ := exists_uniqueSeparator hseparators captured
  rw [compose, hseparator]
  cases hactive : s.active with
  | true => simp [start, hactive, eq_comm]
  | false => simp [start, hactive]

/-- Under accepted settings, whatever the session remembers and whatever is on the line: reading the command never fails and finds one exactly on the texts that toggles act on; a toggle fails only for want of a flag, a compose only while a session is active; and a call that fails or finds no command leaves the session as it was. -/
theorem failing_calls_change_nothing {config : Value}
    (hsettings : Settings.ofConfig config = .ok settings) (s : Session) (t : Text) :
    (∃ found, s.resolve t = .ok found) ∧
    (∀ separator, 1 ≤ (splitCommand t separator).length ∧
      (splitCommand t separator).length ≤ 4) ∧
    (s.shouldProcess t = true ↔ ∃ c, s.resolve t = .ok (some c)) ∧
    (∀ toggle flag e, s.apply settings toggle t flag = .error e ↔
      e = .missingFlag ∧ toggle = .flag ∧ (flag = none ∨ flag = some []) ∧
        ∃ c, s.resolve t = .ok (some c)) ∧
    (∀ e, s.compose settings t = .error e ↔ e = .session .alreadyActive ∧ s.active = true) ∧
    (∀ toggle flag, (applying settings toggle t flag).run s =
      match s.apply settings toggle t flag with
      | .ok (some (r, after)) => .ok (some r) after
      | .ok none => .ok none s
      | .error e => .error e s) ∧
    ((composing settings t).run s =
      match s.compose settings t with
      | .ok (r, after) => .ok r after
      | .error e => .error e s) := by
  have hvalid := Settings.valid_of_ofConfig hsettings
  refine ⟨s.exists_resolve t, length_splitCommand t, shouldProcess_iff, ?_, ?_, ?_, s.run_composing t⟩
  · intro toggle flag e
    exact apply_eq_error_iff hvalid.dialects_ne_nil
  · intro e
    exact compose_eq_error_iff hvalid.separators_ne_nil
  · intro toggle flag
    exact s.run_applying toggle t flag

theorem failing_calls_change_nothing_uncut :
    let s : Session := { active := true, captured := "foo", separator := [], dialect := [] }
    s.apply .initial .flag "foo bar" none = .error .missingFlag ∧
      (applying .initial .flag "foo bar" none).run s = .error .missingFlag s ∧
      s.compose .initial "foo bar" = .error (.session .alreadyActive) ∧
      (composing .initial "foo bar").run s = .error (.session .alreadyActive) s := by
  intro s
  have haccepted : Settings.ofConfig .null = .ok .initial := rfl
  obtain ⟨-, -, hprocess, happly, hcompose, happlying, hcomposing⟩ :=
    failing_calls_change_nothing haccepted s "foo bar"
  have hfound : ∃ c, s.resolve "foo bar" = .ok (some c) := hprocess.mp rfl
  have hflag := (happly .flag none .missingFlag).mpr ⟨rfl, rfl, .inl rfl, hfound⟩
  have hactive := (hcompose (.session .alreadyActive)).mpr ⟨rfl, rfl⟩
  rw [happlying, hcomposing, hflag, hactive]
  exact ⟨rfl, rfl, rfl, rfl⟩

end Session

end Substitute
