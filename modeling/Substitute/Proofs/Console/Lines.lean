import Substitute.Platform.Usual
import Substitute.Console.Basic
import Substitute.Proofs.Terminal.Lawful

/-!
# Lines the console survives

Nearly everything the console prints is either fixed or escaped, and what a console command prints beyond that is caught where the command is carried out. The exception is the complaint about a command that does not exist: it shows the name as markup, so a name with a closing tag can end the console.
-/

namespace Substitute

open Screen (isWord_red isWord_dim)

namespace Screen.Lawful

variable {screen : Screen}

theorem error (hscreen : screen.Lawful) (message : Text) : (screen.error message).failure = none :=
  hscreen.escaped isWord_red message

theorem hint (hscreen : screen.Lawful) {t : Text} (hfree : '[' ∉ t) :
    (screen.styled "dim" t).failure = none :=
  hscreen.bracketless isWord_dim hfree

private theorem not_mem_rangeDescription (range : Text) : '[' ∉ rangeDescription range := by
  unfold rangeDescription
  repeat' split
  all_goals decide

private theorem not_mem_dialectDescription (dialect : Text) : '[' ∉ dialectDescription dialect := by
  unfold dialectDescription
  split <;> decide

theorem command (hscreen : screen.Lawful) (c : Command) (title : Text) :
    (screen.command c title).failure = none := by
  rw [Screen.command, Printed.failure_ofRendering_eq_none_iff]
  refine hscreen.table _ ?_
  simp only [List.forall_mem_cons, List.map_cons, List.map_nil, Cell.IsBracketless, true_and]
  -- the parts stand for themselves; of what they mean only two are described
  refine ⟨?labels, nofun, ⟨not_mem_rangeDescription _, nofun, not_mem_dialectDescription _,
    nofun, nofun, nofun, nofun⟩, nofun⟩
  exact ⟨by decide, by decide, by decide, by decide, by decide, by decide, nofun⟩

end Screen.Lawful

namespace Console

variable {p : Platform}

theorem run_failure_eq_none (hscreen : p.screen.Lawful) (c : Console) (spec : CommandSpec)
    (l : SlashLine) : (c.run p spec l).2.failure = none := by
  rw [run]
  split
  · rfl
  · refine Printed.failure_followedBy_eq_none_iff.mpr ⟨rfl, ?_⟩
    split
    · rfl
    · exact hscreen.error _

theorem dispatch_cases (r : Registry) (l : SlashLine) :
    (r.lookup l.command = none ∧ r.dispatch l = .unknown) ∨
      ∃ spec, r.lookup l.command = some spec ∧
        (r.dispatch l = .run spec ∨ ∃ subcommand, r.dispatch l = .unexpected spec subcommand) := by
  rw [Registry.dispatch]
  cases r.lookup l.command with
  | none => exact .inl ⟨rfl, rfl⟩
  | some spec =>
    refine .inr ⟨spec, rfl, ?_⟩
    split
    · rename_i hfound
      exact nomatch hfound
    · rename_i hfound
      cases hfound
      split
      · split
        · exact .inl rfl
        · exact .inr ⟨_, rfl⟩
      · exact .inl rfl

theorem handleSlash_failure_of_lookup (hscreen : p.screen.Lawful) (c : Console) {l : SlashLine}
    (hknown : ConsoleCommand.registry.lookup l.command ≠ none) :
    (c.handleSlash p l).2.failure = none := by
  rw [handleSlash]
  obtain ⟨hlookup, -⟩ | ⟨spec, -, hdispatch⟩ := dispatch_cases ConsoleCommand.registry l
  · exact absurd hlookup hknown
  · obtain hrun | ⟨subcommand, hunexpected⟩ := hdispatch
    · rw [hrun]
      exact run_failure_eq_none hscreen c spec l
    · rw [hunexpected]
      refine Printed.failure_all_eq_none_iff.mpr ?_
      simp only [List.forall_mem_cons]
      exact ⟨hscreen.error _, hscreen.error _, nofun⟩

/-- A slash line that calls no command of the console says so, and leaves the console as it is. -/
theorem handleSlash_of_unknown {l : SlashLine}
    (hunknown : ConsoleCommand.registry.lookup l.command = none) (c : Console) :
    c.handleSlash p l = (c, Printed.all
      [Pages.unknownCommand p.screen l.command,
        p.screen.styled "dim" "Type /help for available commands."]) := by
  rw [handleSlash]
  obtain ⟨-, hdispatch⟩ | ⟨spec, hlookup, -⟩ := dispatch_cases ConsoleCommand.registry l
  · rw [hdispatch]
  · exact nomatch hlookup.symm.trans hunknown

/-- A slash line can only break off in the complaint about an unknown command. -/
theorem handleSlash_cases (hscreen : p.screen.Lawful) (c : Console) (l : SlashLine) :
    (c.handleSlash p l).2.failure = none ∧
        (ConsoleCommand.registry.lookup l.command = none →
          (Pages.unknownCommand p.screen l.command).failure = none) ∨
      (ConsoleCommand.registry.lookup l.command = none ∧
        (Pages.unknownCommand p.screen l.command).failure ≠ none) ∧
        c.handleSlash p l = (c, Pages.unknownCommand p.screen l.command) := by
  by_cases hlookup : ConsoleCommand.registry.lookup l.command = none
  · rw [handleSlash_of_unknown hlookup]
    by_cases hpage : (Pages.unknownCommand p.screen l.command).failure = none
    · refine .inl ⟨Printed.failure_all_eq_none_iff.mpr ?_, fun _ => hpage⟩
      simp only [List.forall_mem_cons]
      exact ⟨hpage, hscreen.hint (by decide), nofun⟩
    · exact .inr ⟨⟨hlookup, hpage⟩, by rw [Printed.all_eq_of_failure _ hpage]⟩
  · exact .inl ⟨handleSlash_failure_of_lookup hscreen c hlookup, fun h => absurd h hlookup⟩

theorem exists_unknown_of_failure (hscreen : p.screen.Lawful) {c : Console} {line : Text}
    (hfails : (c.handleLine p line).2.failure ≠ none) :
    ∃ l, SlashLine.parse? line.trim = some l ∧ ConsoleCommand.registry.lookup l.command = none := by
  rw [handleLine] at hfails
  by_cases hempty : line.trim.isEmpty = true
  · rw [if_pos hempty] at hfails
    exact absurd rfl hfails
  rw [if_neg hempty] at hfails
  cases hslash : SlashLine.parse? line.trim with
  | some l =>
    rw [hslash] at hfails
    refine ⟨l, rfl, by_contra fun hknown => ?_⟩
    exact hfails (handleSlash_failure_of_lookup hscreen c hknown)
  | none =>
    rw [hslash] at hfails
    cases hcommand : Command.parse? line.trim with
    | none =>
      rw [hcommand] at hfails
      exact absurd (hscreen.hint (by decide)) hfails
    | some command =>
      rw [hcommand] at hfails
      exact absurd (hscreen.command command line.trim) hfails

theorem unknownCommand_eq (screen : Screen) (name : Text) :
    Pages.unknownCommand screen name =
      .ofRendering (screen.markup ("[red]Unknown command: /" ++ name ++ "[/red]")) := by
  simp [Pages.unknownCommand, Screen.styled, Screen.print]

/-- The console survives a line unless the line calls a command that does not exist by a name that cannot be printed as markup in the complaint about it. Such a line changes nothing and prints nothing. -/
theorem handleLine_succeeds_iff (hscreen : p.screen.Lawful) (c : Console) (line : Text) :
    ((c.handleLine p line).2.failure = none ↔
      ∀ l, SlashLine.parse? line.trim = some l →
        ConsoleCommand.registry.lookup l.command = none →
        ∃ lines, p.screen.markup ("[red]Unknown command: /" ++ l.command ++ "[/red]") = .ok lines) ∧
    ((c.handleLine p line).2.failure ≠ none →
      (c.handleLine p line).1 = c ∧ (c.handleLine p line).2.lines = []) := by
  have hsurvives : ∀ {after : Console × Printed} {P : Prop}, after.2.failure = none → P →
      (after.2.failure = none ↔ P) ∧
        (after.2.failure ≠ none → after.1 = c ∧ after.2.lines = []) :=
    fun hprints hP => ⟨iff_of_true hprints hP, fun hfails => absurd hprints hfails⟩
  rw [handleLine]
  by_cases hempty : line.trim.isEmpty = true
  · rw [if_pos hempty, List.isEmpty_iff.mp hempty]
    exact hsurvives rfl nofun
  · rw [if_neg hempty]
    cases SlashLine.parse? line.trim with
    | some l =>
      simp only [Option.some.injEq, forall_eq', ← Printed.failure_ofRendering_eq_none_iff,
        ← unknownCommand_eq]
      obtain ⟨hprints, hknown⟩ | ⟨⟨hlookup, hpage⟩, heq⟩ := handleSlash_cases hscreen c l
      · exact hsurvives hprints hknown
      · rw [heq]
        refine ⟨iff_of_false hpage fun h => hpage (h hlookup), fun _ => ⟨rfl, ?_⟩⟩
        rw [unknownCommand_eq] at hpage ⊢
        exact Printed.lines_ofRendering_of_failure hpage
    | none =>
      -- A line without a slash is answered by a fixed text or by a table of its parts.
      cases Command.parse? line.trim with
      | none => exact hsurvives (hscreen.hint (by decide)) nofun
      | some command => exact hsurvives (hscreen.command command line.trim) nofun

def freshConsole : Console :=
  { places := .ofDirs "config" "cache", settings := .initial, file := none }

theorem handleLine_succeeds_opening_tag :
    Platform.usual.screen.Lawful ∧
      (freshConsole.handleLine .usual "/x[bold]").2.failure = none := by
  refine ⟨Screen.plain_lawful, (handleLine_succeeds_iff Screen.plain_lawful _ _).1.mpr ?_⟩
  intro l hl _
  have hcommand : SlashLine.parse? (Text.trim "/x[bold]") =
      some { command := "x[bold]", words := [] } := by decide
  obtain rfl := Option.some.inj (hcommand.symm.trans hl)
  exact ⟨_, rfl⟩

theorem handleLine_closing_tag :
    (freshConsole.handleLine .usual "/x[/bold]").2.failure =
      some (.unmatched "/bold" 24) := by
  rfl

end Console

end Substitute
