import Substitute.Proofs.Command.Toggle
import Substitute.Proofs.Compose.Resolving
import Substitute.Proofs.Compose.Toggling

/-!
# Toggling text is toggling commands

A sequence of toggles can be applied to the text of the line, each toggle reading what the one before it wrote, or to the command that was on the line first, with no text in between. As long as every command on the way is readable the two agree, and without a session and without a backslash among the separators every command is.
-/

namespace Substitute

abbrev ToggleCall := Toggle × Option Text

/-- A flag is given where one is toggled. -/
def ToggleCall.NamesFlag (call : ToggleCall) : Prop :=
  call.1 = .flag → ∃ f more, call.2 = some (f :: more)

namespace Session

/-- The commands that toggles make of a command one after another. -/
def transformAll (s : Session) (settings : Settings) (c : Command) :
    List ToggleCall → Except ToggleError (List Command)
  | [] => .ok []
  | (toggle, flag) :: rest => do
    let changed ← s.transform settings c flag toggle
    let later ← s.transformAll settings changed rest
    return changed :: later

/-- The revisions that toggles make of a line one after another, each of the text that the one before put there. A toggle that finds no command leaves the line. -/
def applyAll (s : Session) (settings : Settings) (t : Text) :
    List ToggleCall → Except ToggleError (List Revision × Session)
  | [] => .ok ([], s)
  | (toggle, flag) :: rest => do
    match ← s.apply settings toggle t flag with
    | none => s.applyAll settings t rest
    | some (r, after) =>
      let (later, last) ← after.applyAll settings r.text rest
      return (r :: later, last)

variable {s : Session} {settings : Settings} {c changed : Command} {t : Text} {mark : Char}

/-! ### One toggle -/

theorem transform_remember (s : Session) (settings : Settings) (separator dialect : Text)
    (c : Command) (flag : Option Text) (toggle : Toggle) :
    (s.remember separator dialect).transform settings c flag toggle =
      s.transform settings c flag toggle := by
  cases toggle <;> rfl

private theorem transformAll_remember (s : Session) (settings : Settings) (separator dialect : Text)
    (c : Command) (calls : List ToggleCall) :
    (s.remember separator dialect).transformAll settings c calls =
      s.transformAll settings c calls := by
  induction calls generalizing c with
  | nil => rfl
  | cons call rest ih => simp only [transformAll, transform_remember, ih]

theorem apply_of_resolve {toggle : Toggle} {flag : Option Text}
    (hresolve : s.resolve t = .ok (some c))
    (htransform : s.transform settings c flag toggle = .ok changed) :
    s.apply settings toggle t flag =
      .ok (some (Revision.ofCommand changed, s.remember changed.separator changed.dialect)) := by
  rw [apply_eq, hresolve]
  simp only [htransform, map_ok]

/-- Accepted settings without a backslash among the separators, and no session: a toggle keeps a command readable. -/
theorem exists_transform_readable (hsettings : settings.Valid)
    (hplain : ∀ separator ∈ settings.separators, '\\' ∉ separator) (hactive : s.active = false)
    (hc : c.Readable mark) {call : ToggleCall} (hcall : call.NamesFlag) :
    ∃ changed, s.transform settings c call.2 call.1 = .ok changed ∧
      ∃ mark, changed.Readable mark := by
  obtain ⟨toggle, flag⟩ := call
  cases toggle with
  | flag =>
    obtain ⟨f, more, rfl⟩ := hcall rfl
    exact ⟨_, rfl, mark, hc.toggleFlag _ _⟩
  | replace =>
    refine ⟨_, rfl, mark, hc.toggleReplace ?_⟩
    rw [restoreText, hactive]
    exact hc.searchBody_closed
  | range => exact ⟨_, rfl, mark, hc.cycleRange⟩
  | separator => exact ⟨_, rfl, hc.cycleSeparator hsettings.separators_valid hplain⟩
  | dialect =>
    obtain ⟨next, hnext⟩ := Command.exists_nextDialect hsettings.dialects_ne_nil c.dialect
    have hknown : IsDialect next := hsettings.dialects_known next (Command.nextDialect?_mem hnext)
    refine ⟨c.withSearch (next ++ c.searchBody), ?_, mark, hc.withDialect hknown⟩
    rw [transform, Command.cycleDialect?, hnext]
    rfl

/-! ### Sequences of toggles -/

theorem transformAll_cons_eq_ok {call : ToggleCall} {rest : List ToggleCall}
    {commands : List Command} :
    s.transformAll settings c (call :: rest) = .ok commands ↔
      ∃ changed later, s.transform settings c call.2 call.1 = .ok changed ∧
        s.transformAll settings changed rest = .ok later ∧ commands = changed :: later := by
  obtain ⟨toggle, flag⟩ := call
  simp only [transformAll, bind_eq_ok_iff, pure_eq_ok_iff]
  constructor
  · rintro ⟨changed, htransform, later, hlater, rfl⟩
    exact ⟨changed, later, htransform, hlater, rfl⟩
  · rintro ⟨changed, later, htransform, hlater, rfl⟩
    exact ⟨changed, htransform, later, hlater, rfl⟩

theorem length_of_transformAll {calls : List ToggleCall} {commands : List Command}
    (hall : s.transformAll settings c calls = .ok commands) : commands.length = calls.length := by
  induction calls generalizing c commands with
  | nil =>
    obtain rfl := Except.ok.inj hall
    rfl
  | cons call rest ih =>
    obtain ⟨changed, later, -, hlater, rfl⟩ := transformAll_cons_eq_ok.mp hall
    rw [List.length_cons, List.length_cons, ih hlater]

private theorem exists_transformAll_readable (hsettings : settings.Valid)
    (hplain : ∀ separator ∈ settings.separators, '\\' ∉ separator) (hactive : s.active = false)
    (hc : ∃ mark, c.Readable mark) {calls : List ToggleCall}
    (hcalls : ∀ call ∈ calls, call.NamesFlag) :
    ∃ commands, s.transformAll settings c calls = .ok commands ∧
      ∀ command ∈ commands, ∃ mark, command.Readable mark := by
  induction calls generalizing c with
  | nil => exact ⟨[], rfl, by simp⟩
  | cons call rest ih =>
    obtain ⟨mark, hc⟩ := hc
    obtain ⟨changed, htransform, hchanged⟩ :=
      exists_transform_readable hsettings hplain hactive hc (hcalls call List.mem_cons_self)
    obtain ⟨later, hlater, hreadable⟩ :=
      ih hchanged fun other hmem => hcalls other (List.mem_cons_of_mem _ hmem)
    refine ⟨changed :: later,
      transformAll_cons_eq_ok.mpr ⟨changed, later, htransform, hlater, rfl⟩, ?_⟩
    intro command hmem
    rcases List.mem_cons.mp hmem with rfl | hmem
    · exact hchanged
    · exact hreadable command hmem

/-- Toggles on a line make the revisions of the commands that they make of the command on it, when all of these are readable. -/
theorem applyAll_of_transformAll {calls : List ToggleCall} {commands : List Command}
    (hresolve : s.resolve t = .ok (some c))
    (hall : s.transformAll settings c calls = .ok commands)
    (hreadable : ∀ command ∈ commands, ∃ mark, command.Readable mark) :
    ∃ last, s.applyAll settings t calls = .ok (commands.map Revision.ofCommand, last) := by
  induction calls generalizing s t c commands with
  | nil =>
    obtain rfl := Except.ok.inj hall
    exact ⟨s, rfl⟩
  | cons call rest ih =>
    obtain ⟨changed, later, htransform, hlater, rfl⟩ := transformAll_cons_eq_ok.mp hall
    -- the next toggle reads the text of the changed command as that command again
    obtain ⟨mark, hchanged⟩ := hreadable changed List.mem_cons_self
    have hnext := (s.remember changed.separator changed.dialect).resolve_serialize hchanged
    rw [← transformAll_remember s settings changed.separator changed.dialect] at hlater
    obtain ⟨last, hlast⟩ := ih hnext hlater
      fun command hmem => hreadable command (List.mem_cons_of_mem _ hmem)
    refine ⟨last, ?_⟩
    have htext : (Revision.ofCommand changed).text = changed.serialize := rfl
    simp only [applyAll, apply_of_resolve hresolve htransform, ok_bind, htext, hlast]
    rfl

/-- Under accepted settings without a backslash among the separators, and without a session, toggles applied to a line one after another make the same commands as when they are applied to the first of them; and each text on the way is the text of its command and is read as that command. -/
theorem applyAll_eq_transformAll {config : Value} {settings : Settings}
    (hsettings : Settings.ofConfig config = .ok settings)
    (hplain : ∀ separator ∈ settings.separators, '\\' ∉ separator) {s : Session}
    (hactive : s.active = false) {t : Text} {c : Command} (hresolve : s.resolve t = .ok (some c))
    (hseparator : c.separator ≠ ['\\']) (hsearch : Field.endsUnpaired c.search = false)
    (hreplace : Field.endsUnpaired c.replace = false) {calls : List ToggleCall}
    (hcalls : ∀ call ∈ calls, call.NamesFlag) :
    ∃ revisions last, s.applyAll settings t calls = .ok (revisions, last) ∧
      s.transformAll settings c calls = .ok (revisions.map Revision.command) ∧
      revisions.length = calls.length ∧
      ∀ r ∈ revisions, r.text = r.command.serialize ∧ Command.parse? r.text = some r.command := by
  have hvalid := Settings.valid_of_ofConfig hsettings
  have hc := exists_readable_of_resolve hactive hresolve hseparator hsearch hreplace
  obtain ⟨commands, hall, hreadable⟩ :=
    exists_transformAll_readable hvalid hplain hactive hc hcalls
  obtain ⟨last, hlast⟩ := applyAll_of_transformAll hresolve hall hreadable
  refine ⟨commands.map Revision.ofCommand, last, hlast, ?_, ?_, ?_⟩
  · rw [hall, List.map_map]
    exact congrArg Except.ok (List.map_id commands).symm
  · rw [List.length_map, length_of_transformAll hall]
  · intro r hr
    obtain ⟨command, hmem, rfl⟩ := List.mem_map.mp hr
    obtain ⟨mark, hcommand⟩ := hreadable command hmem
    exact ⟨rfl, hcommand.parse?_serialize⟩

theorem applyAll_eq_transformAll_incomplete :
    let t : Text := "1,3s,\\va\\,b"
    let c := Command.make "," "1,3s" "\\va\\,b" "\\va\\,b" []
    let calls : List ToggleCall :=
      [(.replace, none), (.dialect, none), (.separator, none), (.flag, some "i"), (.range, none)]
    ∃ revisions last, ({} : Session).applyAll .initial t calls = .ok (revisions, last) ∧
      ({} : Session).transformAll .initial c calls = .ok (revisions.map Revision.command) ∧
      revisions.length = 5 ∧
      ∀ r ∈ revisions, r.text = r.command.serialize ∧ Command.parse? r.text = some r.command := by
  intro t c calls
  have haccepted : Settings.ofConfig .null = .ok .initial := rfl
  have hresolve : ({} : Session).resolve t = .ok (some c) := rfl
  refine applyAll_eq_transformAll haccepted (by decide) rfl hresolve (by decide) (by decide)
    (by decide) ?_
  simp [calls, ToggleCall.NamesFlag]

end Session

end Substitute
