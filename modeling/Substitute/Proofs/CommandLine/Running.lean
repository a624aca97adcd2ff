import Substitute.CommandLine.Outcome
import Substitute.Proofs.Console.Sessions
import Substitute.Proofs.Settings.Absorbing
import Substitute.Proofs.Settings.Reporting
import Substitute.Proofs.Value.Identity

/-!
# What a run leaves behind

A run ends with one of three exit codes, and with one when something broke it off; a command that is asked for on the command line is parsed or toggled exactly when the exit code is zero. Two requests write the configuration file: one for the initial configuration while there is no file, and a console session. Neither turns a file that loads into one that does not.
-/

namespace Substitute

variable {p : Platform} {x : Surroundings}

/-- The exit code is known, and tells when a run broke off. -/
structure Outcome.Ends (o : Outcome) : Prop where
  exitCode_le : o.exitCode ≤ 2
  broken : o.error.isSome = true → o.exitCode = 1

namespace Surroundings

/-- A run that prints and ends, with no prompt and no write. -/
structure Answers (x : Surroundings) (o : Outcome) : Prop extends o.Ends where
  file : o.file = x.file
  prompts : o.prompts = []

theorem ends_ending (x : Surroundings) {exitCode : Nat} (hcode : exitCode ≤ 2) (printed : Printed) :
    (x.ending exitCode printed).Ends := by
  rw [ending]
  split
  · exact ⟨hcode, nofun⟩
  · exact ⟨Nat.le_succ 1, fun _ => rfl⟩

theorem file_ending (x : Surroundings) (exitCode : Nat) (printed : Printed) :
    (x.ending exitCode printed).file = x.file := by
  rw [ending]
  split <;> rfl

theorem exitCode_ending_eq_zero_iff {exitCode : Nat} {printed : Printed} :
    (x.ending exitCode printed).exitCode = 0 ↔ exitCode = 0 ∧ printed.failure = none := by
  rw [ending]
  split <;> simp [*]

theorem answers_ending (x : Surroundings) {exitCode : Nat} (hcode : exitCode ≤ 2) (printed : Printed) :
    x.Answers (x.ending exitCode printed) where
  toEnds := x.ends_ending hcode printed
  file := x.file_ending exitCode printed
  prompts := by
    rw [ending]
    split <;> rfl

theorem answers_broken (x : Surroundings) (error : RunError) : x.Answers (x.broken error) :=
  ⟨⟨Nat.le_succ 1, fun _ => rfl⟩, rfl, rfl⟩

theorem withSettings_cases (next : Settings → Outcome) :
    (∃ s, Settings.ofFile p.yaml p.sets x.file = .ok s ∧ x.withSettings p next = next s) ∨
      (∃ error, Settings.ofFile p.yaml p.sets x.file = .error error) ∧
        (x.withSettings p next).exitCode = 1 ∧ x.Answers (x.withSettings p next) := by
  rw [withSettings]
  split
  · rename_i s hs
    exact .inl ⟨s, hs, rfl⟩
  · rename_i problems hproblems
    refine .inr ⟨⟨_, hproblems⟩, ?_, x.answers_ending (Nat.le_succ 1) _⟩
    rw [ending]
    split <;> rfl
  · rename_i error _ herror
    exact .inr ⟨⟨error, herror⟩, rfl, x.answers_broken _⟩

theorem answers_withSettings {next : Settings → Outcome} (hnext : ∀ s, x.Answers (next s)) :
    x.Answers (x.withSettings p next) := by
  obtain ⟨s, -, heq⟩ | ⟨-, -, hanswers⟩ := withSettings_cases (p := p) (x := x) next
  · rw [heq]
    exact hnext s
  · exact hanswers

theorem answers_parse (p : Platform) (x : Surroundings) (text : Text) : x.Answers (x.parse p text) := by
  rw [parse]
  split
  · exact x.answers_ending (Nat.le_succ 1) _
  · exact x.answers_ending (Nat.zero_le 2) _

theorem answers_toggle (p : Platform) (x : Surroundings) (toggle : Toggle) (text : Text)
    (flag : Option Text) (cursor : Bool) : x.Answers (x.toggle p toggle text flag cursor) := by
  rw [Surroundings.toggle]
  split
  · exact x.answers_ending (Nat.le_refl 2) _
  · refine answers_withSettings fun s => ?_
    dsimp only
    split
    · exact x.answers_ending (Nat.le_refl 2) _
    · split
      · exact x.answers_broken _
      · exact x.answers_ending (Nat.le_succ 1) _
      · exact x.answers_ending (Nat.zero_le 2) _

/-- On a lawful screen a text is parsed exactly when the exit code is zero, and nothing breaks off. -/
theorem exitCode_parse_iff (hscreen : p.screen.Lawful) (x : Surroundings) (text : Text) :
    ((x.parse p text).exitCode = 0 ↔ (Command.parse? text).isSome = true) ∧
      (x.parse p text).error = none := by
  rw [parse]
  cases Command.parse? text with
  | none =>
    have hprints : (p.screen.styled "red" "Not a substitute command.").failure = none :=
      hscreen.bracketless Screen.isWord_red (by decide)
    dsimp only
    rw [exitCode_ending_eq_zero_iff, ending, hprints]
    exact ⟨iff_of_false (fun h => nomatch h.1) nofun, rfl⟩
  | some command =>
    have hprints := hscreen.command command []
    dsimp only
    rw [exitCode_ending_eq_zero_iff, ending, hprints]
    exact ⟨iff_of_true ⟨rfl, rfl⟩ rfl, rfl⟩

/-- A text is toggled exactly when the exit code is zero. A flag has to be named, and be one of the settings. -/
theorem exitCode_toggle_iff (p : Platform) (x : Surroundings) (toggle : Toggle) (text : Text)
    (flag : Option Text) (cursor : Bool) :
    (x.toggle p toggle text flag cursor).exitCode = 0 ↔
      ∃ s, Settings.ofFile p.yaml p.sets x.file = .ok s ∧
        (toggle = .flag → flag.getD [] ≠ [] ∧ flag.getD [] ∈ s.flags) ∧
        ∃ step, Session.apply {} s toggle text flag = .ok (some step) := by
  have hrefused : ∀ {code : Nat} {printed : Printed} {P : Prop}, code ≠ 0 → ¬ P →
      ((x.ending code printed).exitCode = 0 ↔ P) :=
    fun hcode hP => iff_of_false (fun h => hcode (exitCode_ending_eq_zero_iff.mp h).1) hP
  rw [Surroundings.toggle]
  split
  · rename_i hunnamed
    refine hrefused (by decide) ?_
    rintro ⟨s, -, hflag, -⟩
    obtain ⟨htoggle, hempty⟩ : toggle = .flag ∧ flag.getD [] = [] := by simpa using hunnamed
    exact (hflag htoggle).1 hempty
  · rename_i hnamed
    obtain ⟨s, hs, heq⟩ | ⟨⟨error, herror⟩, hcode, -⟩ := withSettings_cases (p := p) (x := x) _
    · rw [heq]
      simp only [hs, Except.ok.injEq, exists_eq_left']
      split
      · rename_i hunknown
        refine hrefused (by decide) ?_
        rintro ⟨hflag, -⟩
        obtain ⟨htoggle, habsent⟩ : toggle = .flag ∧ flag.getD [] ∉ s.flags := by
          simpa using hunknown
        exact habsent (hflag htoggle).2
      · rename_i hknown
        have hflag : toggle = .flag → flag.getD [] ≠ [] ∧ flag.getD [] ∈ s.flags := by
          rintro rfl
          exact ⟨by simpa using hnamed, by simpa using hknown⟩
        cases Session.apply {} s toggle text flag with
        | error error => exact iff_of_false nofun nofun
        | ok answer =>
          cases answer with
          | none => exact hrefused (by decide) nofun
          | some step =>
            refine iff_of_true (exitCode_ending_eq_zero_iff.mpr ⟨rfl, ?_⟩) ⟨hflag, step, rfl⟩
            refine Printed.failure_all_eq_none_iff.mpr (List.forall_mem_cons.mpr ⟨rfl, ?_⟩)
            cases cursor with
            | false => exact nofun
            | true => exact List.forall_mem_singleton.mpr rfl
    · refine iff_of_false (by rw [hcode]; decide) ?_
      rintro ⟨s, hs, -⟩
      exact nomatch herror.symm.trans hs

/-! ### What a run writes -/

def started (x : Surroundings) (settings : Settings) : Console :=
  { places := x.places, settings, file := x.file }

/-- The documents that a run writes to the configuration file one after the other, and their texts. -/
def written (p : Platform) (x : Surroundings) (words : List Text) : List (Document × Text) :=
  match Request.ofWords words with
  | .ok .console =>
    match Settings.ofFile p.yaml p.sets x.file with
    | .ok s => (x.started s).writtenByLines p ((x.started s).session p x.prompts).lines
    | .error _ => []
  | .ok (.config .init) =>
    let initial := Document.ofValue (.map Settings.initial.toConfig)
    match x.file, p.yaml.dump initial with
    | none, .ok text => [(initial, text)]
    | _, _ => []
  | _ => []

theorem console_cases (p : Platform) (x : Surroundings) :
    (∃ s, Settings.ofFile p.yaml p.sets x.file = .ok s ∧ (x.console p).Ends ∧
        (x.console p).file = ((x.started s).session p x.prompts).console.file) ∨
      (∃ error, Settings.ofFile p.yaml p.sets x.file = .error error) ∧ x.Answers (x.console p) := by
  rw [console]
  refine (withSettings_cases _).imp ?_ fun ⟨herror, _, hanswers⟩ => ⟨herror, hanswers⟩
  rintro ⟨s, hs, heq⟩
  refine ⟨s, hs, ?_⟩
  rw [heq]
  refine ⟨⟨?_, fun hbroken => if_pos (Option.isSome_map.symm.trans hbroken)⟩, rfl⟩
  dsimp only
  split <;> decide

theorem answers_effective (p : Platform) (x : Surroundings) : x.Answers (x.config p .effective) := by
  refine answers_withSettings fun s => ?_
  split
  · exact x.answers_ending (Nat.zero_le 2) _
  · exact x.answers_broken _

theorem ends_config (p : Platform) (x : Surroundings) (what : ConfigRequest) :
    (x.config p what).Ends := by
  cases what with
  | path | overview =>
    rw [config]
    exact x.ends_ending (Nat.zero_le 2) _
  | effective => exact (answers_effective p x).toEnds
  | init =>
    rw [config]
    split
    · exact x.ends_ending (Nat.le_succ 1) _
    · split
      · exact ends_ending _ (Nat.zero_le 2) _
      · exact (x.answers_broken _).toEnds

/-- Every run ends with a known exit code, and with one if it broke off. -/
theorem ends_run (p : Platform) (x : Surroundings) (words : List Text) : (x.run p words).Ends := by
  rw [run]
  split
  · exact x.ends_ending (Nat.le_refl 2) _
  · exact x.ends_ending (Nat.zero_le 2) _
  · obtain ⟨_, _, hends, _⟩ | ⟨_, hanswers⟩ := console_cases p x
    · exact hends
    · exact hanswers.toEnds
  · exact (answers_parse p x _).toEnds
  · exact (answers_toggle p x _ _ _ _).toEnds
  · exact ends_config p x _

/-- After a run the configuration file is what the run wrote last, or as it was. -/
theorem file_run (p : Platform) (x : Surroundings) (words : List Text) :
    (x.run p words).file = ((x.written p words).getLast?.map Prod.snd).or x.file := by
  rw [run, written]
  cases Request.ofWords words with
  | error error => exact x.file_ending 2 _
  | ok request =>
    cases request with
    | version => exact x.file_ending 0 _
    | parse text => exact (answers_parse p x text).file
    | toggle toggle text flag cursor => exact (answers_toggle p x toggle text flag cursor).file
    | console =>
      dsimp only
      obtain ⟨s, hs, -, hfile⟩ | ⟨⟨error, herror⟩, hanswers⟩ := console_cases p x
      · rw [hfile, hs, Console.console_session, Console.file_handled]
        rfl
      · rw [herror]
        exact hanswers.file
    | config what =>
      cases what with
      | path | overview => exact x.file_ending 0 _
      | effective => exact (answers_effective p x).file
      | init =>
        dsimp only
        rw [config]
        cases hfile : x.file with
        | some text => exact (x.file_ending 1 _).trans hfile
        | none =>
          dsimp only [Option.isSome_none]
          rw [if_neg Bool.false_ne_true]
          cases p.yaml.dump (.ofValue (.map Settings.initial.toConfig)) with
          | ok text => exact file_ending { x with file := some text } 0 _
          | error failure => exact hfile

/-! ### The configuration after a run -/

private theorem config_initial :
    (Document.ofValue (.map Settings.initial.toConfig)).config = .map Settings.defaults := by
  decide +kernel

theorem ofOverrides_initial (sets : SetOrder) :
    Settings.ofOverrides sets (Document.ofValue (.map Settings.initial.toConfig)).config =
      .ok .initial := by
  have hmerged : Entries.merge Settings.defaults Settings.defaults = Settings.defaults := rfl
  rw [config_initial, Settings.ofOverrides_eq_ofConfig sets Settings.keyed_defaults.wellFormed,
    (Settings.isFixed_defaults sets).of_map.1, Settings.ofConfig_map, hmerged,
    Settings.ofMerged_defaults]

/-- A configuration file that loads still loads after a run, if what the run writes reads back. -/
theorem exists_ofFile_run {words : List Text}
    (hloads : ∃ s, Settings.ofFile p.yaml p.sets x.file = .ok s)
    (hreads : ∀ w ∈ x.written p words,
      ∃ e, p.yaml.load (normalizeLineEnds w.2) = .ok e ∧ w.1.Alike e) :
    ∃ s, Settings.ofFile p.yaml p.sets (x.run p words).file = .ok s := by
  rw [file_run]
  cases hlast : (x.written p words).getLast? with
  | none => exact hloads
  | some w =>
    have hmem := List.mem_of_getLast? hlast
    obtain ⟨e, hread, halike⟩ := hreads w hmem
    refine Settings.exists_ofFile_of_alike ?_ hread halike
    rw [written] at hmem
    split at hmem
    · split at hmem
      · exact Console.accepted_of_mem_writtenByLines hmem
      · exact nomatch hmem
    · dsimp only at hmem
      split at hmem
      · cases List.mem_singleton.mp hmem
        exact ⟨_, ofOverrides_initial p.sets⟩
      · exact nomatch hmem
    · exact nomatch hmem

end Surroundings

end Substitute
