import Mathlib.Data.List.Find
import Mathlib.Data.List.Perm.Basic
import Substitute.Proofs.Command.Flags
import Substitute.Proofs.Compose.Composing
import Substitute.Proofs.Compose.Sequences

/-!
# Only how often each toggle is used counts

A command composed from a word without a backslash is a row of dials, one for each toggle: which flags are on, whether the replace term holds the word, and where range, separator and dialect stand in their cycles. A toggle turns its own dial and reads no other, so turns can be exchanged, and toggles lead to the same command in any order.
-/

namespace Substitute

theorem detectDialect_append {dialect w : Text} (h : IsDialect dialect) (hw : '\\' ∉ w) :
    detectDialect (dialect ++ w) = dialect := by
  rcases h with rfl | h
  · rw [List.nil_append]
    obtain ⟨hnone | hmem, body, hbody⟩ := exists_detectDialect w
    · exact hnone
    · -- a detected marker would bring its backslash into the word
      have hslash : '\\' ∈ detectDialect w := by
        obtain ⟨letter, hmarker, -⟩ := exists_letter hmem
        rw [hmarker]
        exact List.mem_cons_self
      exact absurd (hbody ▸ List.mem_append_left body hslash) hw
  · exact detectDialect_marker_append h w

/-- A flag of the settings is given where one is toggled. -/
def ToggleCall.NamesFlagOf (settings : Settings) (call : ToggleCall) : Prop :=
  call.1 = .flag → ∃ flag ∈ settings.flags, call.2 = some flag

/-- What there is to turn about a composed command. -/
structure Dials where
  range : Text
  separator : Text
  dialect : Text
  filled : Bool
  flagged : Text → Bool

namespace Dials

/-- The command composed from a word, as the dials stand. -/
def command (settings : Settings) (w : Text) (d : Dials) : Command :=
  { range := d.range
    separator := d.separator
    dialect := d.dialect
    search := d.dialect ++ w
    replace := if d.filled then w else []
    flags := Command.flagsOn settings.flags d.flagged }

/-- Each toggle turns its own dial. The separator steps over those that the word holds. -/
def turn (settings : Settings) (w : Text) (d : Dials) : ToggleCall → Dials
  | (.flag, flag) => { d with flagged := fun f => d.flagged f != decide (some f = flag) }
  | (.replace, _) => { d with filled := !d.filled }
  | (.range, _) => { d with range := (d.command settings w).cycleRange.range }
  | (.separator, _) =>
    let free := (candidatesAfter settings.separators d.separator).find? fun candidate =>
      !candidate.occursIn w
    { d with separator := free.getD d.separator }
  | (.dialect, _) =>
    { d with dialect := (Command.nextDialect? settings.dialects d.dialect).getD d.dialect }

theorem turn_comm (settings : Settings) (w : Text) (d : Dials) (call other : ToggleCall) :
    (d.turn settings w call).turn settings w other =
      (d.turn settings w other).turn settings w call := by
  obtain ⟨toggle, flag⟩ := call
  obtain ⟨toggle', flag'⟩ := other
  -- two dials, and two steps of one cycle, are exchanged by definition; this leaves two flags
  cases toggle <;> cases toggle' <;> try rfl
  simp only [turn, Dials.mk.injEq, true_and]
  funext f
  rw [Bool.bne_assoc, Bool.bne_assoc, bne_comm (a := decide (some f = flag))]

private theorem foldl_turn_of_perm (settings : Settings) (w : Text) (d : Dials)
    {calls others : List ToggleCall} (hperm : calls.Perm others) :
    calls.foldl (turn settings w) d = others.foldl (turn settings w) d :=
  hperm.foldl_eq' (fun call _ other _ d => turn_comm settings w d call other) d

/-- Dials where composing and toggling can leave them. -/
structure Proper (settings : Settings) (w : Text) (d : Dials) : Prop where
  range : IsRange d.range
  separator_mem : d.separator ∈ settings.separators
  separator_free : d.separator.occursIn w = false
  dialect : IsDialect d.dialect

variable {settings : Settings} {w : Text} {d : Dials}

theorem searchBody_command (settings : Settings) (w : Text) (d : Dials) :
    (d.command settings w).searchBody = w :=
  List.drop_left

theorem replace_command (settings : Settings) (w : Text) (d : Dials) :
    (d.command settings w).replace = w ∨ (d.command settings w).replace = [] := by
  cases hfilled : d.filled with
  | true => exact .inl (by simp [command, hfilled])
  | false => exact .inr (by simp [command, hfilled])

theorem Proper.readable (hd : d.Proper settings w) (hsettings : settings.Valid)
    (hplain : ∀ separator ∈ settings.separators, '\\' ∉ separator) (hw : '\\' ∉ w) :
    ∃ mark, (d.command settings w).Readable mark := by
  obtain ⟨mark, hseparator, hmark, hne⟩ :=
    exists_mark (hsettings.separators_valid _ hd.separator_mem)
      fun heq => hplain _ hd.separator_mem (heq ▸ List.mem_cons_self)
  have hword : Field.Closed mark w :=
    Field.closed_of_free (hseparator ▸ hd.separator_free) (Field.endsUnpaired_eq_false hw)
  have hreplace : Field.Closed mark (d.command settings w).replace := by
    rcases d.replace_command settings w with h | h
    · rw [h]
      exact hword
    · rw [h]
      exact Field.closed_nil mark
  exact ⟨mark, hd.range, hseparator, hmark, hne, (detectDialect_append hd.dialect hw).symm,
    (Field.closed_append_iff (hd.dialect.closed mark)).mpr hword, hreplace⟩

/-! ### One turn -/

theorem Proper.find_free (hd : d.Proper settings w) (hsettings : settings.Valid)
    (hplain : ∀ separator ∈ settings.separators, '\\' ∉ separator) :
    ((candidatesAfter settings.separators d.separator).find? fun candidate =>
        !candidate.occursIn (d.command settings w).search &&
          !candidate.occursIn (d.command settings w).replace) =
      (candidatesAfter settings.separators d.separator).find? fun candidate =>
        !candidate.occursIn w := by
  apply List.find?_congr
  intro candidate hcandidate
  have hmem := mem_of_mem_candidatesAfter hcandidate
  obtain ⟨mark, rfl, hmark, hne⟩ := exists_mark (hsettings.separators_valid _ hmem)
    fun heq => hplain _ hmem (heq ▸ List.mem_cons_self)
  have hdialect : mark ∉ d.dialect := hd.dialect.not_mem hmark hne
  have hsearch : Text.occursIn [mark] (d.dialect ++ w) = Text.occursIn [mark] w := by
    rw [Bool.eq_iff_iff, Text.occursIn_singleton, Text.occursIn_singleton, List.mem_append]
    simp [hdialect]
  rw [show (d.command settings w).search = d.dialect ++ w from rfl, hsearch]
  rcases d.replace_command settings w with h | h
  · rw [h, Bool.and_self]
  · rw [h]
    simp [Text.occursIn]

/-- A toggle turns a dial of the command, and the dials stay proper. -/
theorem Proper.turn (hd : d.Proper settings w) (hsettings : settings.Valid)
    (hplain : ∀ separator ∈ settings.separators, '\\' ∉ separator) (hw : '\\' ∉ w) {s : Session}
    (hactive : s.active = true) (hcaptured : s.captured = w) {call : ToggleCall}
    (hcall : call.NamesFlagOf settings) :
    (d.turn settings w call).Proper settings w ∧
      s.transform settings (d.command settings w) call.2 call.1 =
        .ok ((d.turn settings w call).command settings w) := by
  obtain ⟨toggle, flag⟩ := call
  cases toggle with
  | flag =>
    obtain ⟨flag, hflag, rfl⟩ := hcall rfl
    refine ⟨{ hd with }, ?_⟩
    obtain ⟨f, rfl⟩ := hsettings.flags_single flag hflag
    have hswitch := Command.toggleFlag_flagsOn (c := d.command settings w)
      hsettings.flags_single hflag rfl
    simp only [Session.transform, hswitch, Dials.turn, Option.some.injEq]
    rfl
  | replace =>
    refine ⟨{ hd with }, ?_⟩
    simp only [Session.transform, Session.restoreText, hactive, hcaptured, if_true,
      Command.toggleReplace]
    cases hfilled : d.filled <;> cases w <;> simp [command, Dials.turn, hfilled]
  | range => exact ⟨{ hd with range := Command.isRange_cycleRange _ }, rfl⟩
  | separator =>
    simp only [Session.transform, Command.cycleSeparator, Dials.turn,
      show (d.command settings w).separator = d.separator from rfl,
      hd.find_free hsettings hplain]
    cases hfree : (candidatesAfter settings.separators d.separator).find? fun candidate =>
        !candidate.occursIn w with
    | none => exact ⟨hd, rfl⟩
    | some separator =>
      have hmem := mem_of_mem_candidatesAfter (List.mem_of_find?_eq_some hfree)
      have hnew := List.find?_some hfree
      refine ⟨{ hd with separator_mem := hmem, separator_free := ?_ }, rfl⟩
      rwa [Bool.not_eq_true'] at hnew
  | dialect =>
    obtain ⟨next, hnext⟩ := Command.exists_nextDialect hsettings.dialects_ne_nil d.dialect
    have hknown : IsDialect next := hsettings.dialects_known next (Command.nextDialect?_mem hnext)
    have hcycle : (d.command settings w).cycleDialect? settings.dialects =
        some ((d.command settings w).withSearch (next ++ w)) := by
      rw [Command.cycleDialect?, searchBody_command]
      exact congrArg (Option.map _) hnext
    simp only [Session.transform, hcycle, Dials.turn, hnext, Option.getD_some]
    refine ⟨{ hd with dialect := hknown }, ?_⟩
    rw [Command.withSearch, detectDialect_append hknown hw]
    rfl

/-! ### Composing and toggling -/

/-- A run of toggles ends where their turns, taken together, leave the dials; and the dials are proper all the way. -/
theorem Proper.transformAll (hd : d.Proper settings w) (hsettings : settings.Valid)
    (hplain : ∀ separator ∈ settings.separators, '\\' ∉ separator) (hw : '\\' ∉ w) {s : Session}
    (hactive : s.active = true) (hcaptured : s.captured = w) {calls : List ToggleCall}
    (hcalls : ∀ call ∈ calls, call.NamesFlagOf settings) :
    ∃ commands, s.transformAll settings (d.command settings w) calls = .ok commands ∧
      (∀ c ∈ commands, ∃ d : Dials, d.Proper settings w ∧ c = d.command settings w) ∧
      commands.getLastD (d.command settings w) =
        (calls.foldl (Dials.turn settings w) d).command settings w := by
  induction calls generalizing d with
  | nil => exact ⟨[], rfl, by simp, rfl⟩
  | cons call rest ih =>
    obtain ⟨hturned, htransform⟩ :=
      hd.turn hsettings hplain hw hactive hcaptured (hcalls call List.mem_cons_self)
    obtain ⟨later, hlater, hproper, hlast⟩ :=
      ih hturned fun other hmem => hcalls other (List.mem_cons_of_mem _ hmem)
    refine ⟨_, Session.transformAll_cons_eq_ok.mpr ⟨_, later, htransform, hlater, rfl⟩, ?_, ?_⟩
    · intro c hmem
      rcases List.mem_cons.mp hmem with rfl | hmem
      · exact ⟨_, hturned, rfl⟩
      · exact hproper c hmem
    · rw [List.getLastD_cons, hlast, List.foldl_cons]

/-- The dials of a command that was just composed. -/
def ofCompose (settings : Settings) (separator : Text) : Dials :=
  { range := settings.defaultRange
    separator
    dialect := settings.defaultDialect
    filled := true
    flagged := fun f => f.occursIn settings.defaultFlags }

private theorem command_ofCompose (hsettings : settings.Valid) (hflags : settings.flags.Nodup)
    (hdefault : settings.defaultFlags.Sublist settings.flags.flatten) (hw : '\\' ∉ w)
    (separator : Text) :
    (ofCompose settings separator).command settings w =
      Command.make separator settings.defaultRange (settings.defaultDialect ++ w) w
        settings.defaultFlags := by
  simp only [command, ofCompose, if_true, Command.make,
    detectDialect_append hsettings.dialect_known hw,
    Command.flagsOn_of_sublist hsettings.flags_single hflags hdefault]

end Dials

namespace Session

/-- Toggles on the line of a composed command: every revision shows proper dials, and the last one shows where the turns, taken together, leave them. -/
theorem applyAll_of_proper {settings : Settings} (hsettings : settings.Valid)
    (hplain : ∀ separator ∈ settings.separators, '\\' ∉ separator) {w : Text} (hw : '\\' ∉ w)
    {d : Dials} (hd : d.Proper settings w) {s : Session} (hactive : s.active = true)
    (hcaptured : s.captured = w) {calls : List ToggleCall}
    (hcalls : ∀ call ∈ calls, call.NamesFlagOf settings) :
    ∃ revisions last,
      s.applyAll settings (d.command settings w).serialize calls = .ok (revisions, last) ∧
      revisions.length = calls.length ∧
      revisions.getLastD (Revision.ofCommand (d.command settings w)) =
        Revision.ofCommand ((calls.foldl (Dials.turn settings w) d).command settings w) ∧
      ∀ r ∈ revisions, ∃ d : Dials, d.Proper settings w ∧ r.command = d.command settings w := by
  obtain ⟨commands, hall, hproper, hlast⟩ :=
    hd.transformAll hsettings hplain hw hactive hcaptured hcalls
  have hreadable : ∀ c ∈ commands, ∃ mark, c.Readable mark := by
    intro c hc
    obtain ⟨d, hd, rfl⟩ := hproper c hc
    exact hd.readable hsettings hplain hw
  obtain ⟨mark, hstart⟩ := hd.readable hsettings hplain hw
  obtain ⟨last, happly⟩ := applyAll_of_transformAll (s.resolve_serialize hstart) hall hreadable
  refine ⟨_, last, happly, ?_, ?_, ?_⟩
  · rw [List.length_map, length_of_transformAll hall]
  · rw [← hlast, List.getLastD_map]
  · intro r hr
    obtain ⟨c, hc, rfl⟩ := List.mem_map.mp hr
    obtain ⟨d, hd, rfl⟩ := hproper c hc
    exact ⟨d, hd, rfl⟩

/-- Accepted settings without a backslash among the separators, with flags that differ, a default range that is one, and default flags in the order of the flags; a word without a backslash that some separator does not occur in. Composing from the word and then toggling leads to the same text and command in whatever order the toggles come. On the way the search is a dialect and the word, the replace term is the word or empty, and the separator is a configured one that the word does not hold. -/
theorem compose_applyAll_of_perm {config : Value} {settings : Settings}
    (hsettings : Settings.ofConfig config = .ok settings)
    (hplain : ∀ separator ∈ settings.separators, '\\' ∉ separator)
    (hflags : settings.flags.Nodup) (hrange : IsRange settings.defaultRange)
    (hdefault : settings.defaultFlags.Sublist settings.flags.flatten) {s : Session}
    (hactive : s.active = false) {w : Text} (hw : '\\' ∉ w)
    (hfree : ∃ separator ∈ settings.separators, separator.occursIn w = false)
    {calls others : List ToggleCall} (hperm : calls.Perm others)
    (hcalls : ∀ call ∈ calls, call.NamesFlagOf settings) :
    ∃ r started, s.compose settings w = .ok (r, started) ∧
      ∃ revisions last revisions' last',
        started.applyAll settings r.text calls = .ok (revisions, last) ∧
        started.applyAll settings r.text others = .ok (revisions', last') ∧
        revisions.length = calls.length ∧ revisions'.length = others.length ∧
        (revisions.getLastD r).text = (revisions'.getLastD r).text ∧
        (revisions.getLastD r).command = (revisions'.getLastD r).command ∧
        ∀ step ∈ r :: (revisions ++ revisions'),
          step.command.searchBody = w ∧ (step.command.replace = w ∨ step.command.replace = []) ∧
          step.command.separator ∈ settings.separators ∧
          step.command.separator.occursIn w = false := by
  have hvalid := Settings.valid_of_ofConfig hsettings
  obtain ⟨separator, hmem, hunique, hnew⟩ := exists_uniqueSeparator_free hfree
  have hstart : (Dials.ofCompose settings separator).Proper settings w :=
    ⟨hrange, hmem, hnew, hvalid.dialect_known⟩
  have hcomposed := compose_of_inactive hactive hunique
  rw [← Dials.command_ofCompose hvalid hflags hdefault hw separator] at hcomposed
  have hothers : ∀ call ∈ others, call.NamesFlagOf settings :=
    fun call hcall => hcalls call (hperm.mem_iff.mpr hcall)
  let started : Session :=
    { active := true, captured := w, separator, dialect := settings.defaultDialect }
  refine ⟨_, started, hcomposed, ?_⟩
  obtain ⟨revisions, last, happly, hlength, hlast, hproper⟩ :=
    applyAll_of_proper (s := started) hvalid hplain hw hstart rfl rfl hcalls
  obtain ⟨revisions', last', happly', hlength', hlast', hproper'⟩ :=
    applyAll_of_proper (s := started) hvalid hplain hw hstart rfl rfl hothers
  rw [Dials.foldl_turn_of_perm settings w _ hperm, ← hlast'] at hlast
  refine ⟨revisions, last, revisions', last', happly, happly', hlength, hlength',
    congrArg Revision.text hlast, congrArg Revision.command hlast, ?_⟩
  intro step hstep
  have hdials : ∃ d : Dials, d.Proper settings w ∧ step.command = d.command settings w := by
    rcases List.mem_cons.mp hstep with rfl | hstep
    · exact ⟨_, hstart, rfl⟩
    · rcases List.mem_append.mp hstep with hstep | hstep
      · exact hproper step hstep
      · exact hproper' step hstep
  obtain ⟨d, hd, hcommand⟩ := hdials
  rw [hcommand]
  exact ⟨d.searchBody_command settings w, d.replace_command settings w, hd.separator_mem,
    hd.separator_free⟩

theorem compose_applyAll_of_perm_reversed :
    let calls : List ToggleCall :=
      [(.flag, some "i"), (.separator, none), (.replace, none), (.flag, some "c"), (.separator, none)]
    ∃ r started revisions last revisions' last',
      ({} : Session).compose .initial "a/b" = .ok (r, started) ∧
      started.applyAll .initial r.text calls = .ok (revisions, last) ∧
      started.applyAll .initial r.text calls.reverse = .ok (revisions', last') ∧
      (revisions'.getLastD r).text = (revisions.getLastD r).text ∧
      (revisions'.getLastD r).command = (revisions.getLastD r).command ∧
      (revisions.getLastD r).text = (".,$s:\\Va/b::gi" : Text) := by
  intro calls
  have haccepted : Settings.ofConfig .null = .ok .initial := rfl
  have hplain : ∀ separator ∈ Settings.initial.separators, '\\' ∉ separator := by decide
  have hflags : Settings.initial.flags.Nodup := by decide
  have hrange : IsRange Settings.initial.defaultRange := isRange_append ".,$" (by decide)
  have hdefault : Settings.initial.defaultFlags.Sublist Settings.initial.flags.flatten := by decide
  have hfree : ∃ separator ∈ Settings.initial.separators, Text.occursIn separator "a/b" = false :=
    ⟨"#", by decide, by decide⟩
  have hcalls : ∀ call ∈ calls, call.NamesFlagOf .initial := by
    unfold ToggleCall.NamesFlagOf
    decide
  obtain ⟨r, started, hcompose, revisions, last, revisions', last', happly, happly', -, -, htext,
      hcommand, -⟩ :=
    compose_applyAll_of_perm haccepted hplain hflags hrange hdefault (s := {}) rfl
      (show '\\' ∉ ("a/b" : Text) by decide) hfree (List.reverse_perm calls).symm hcalls
  have hseen : ((({} : Session).compose .initial "a/b").toOption.bind fun step =>
      (step.2.applyAll .initial step.1.text calls).toOption.map fun run =>
        (run.1.getLastD step.1).text) = some ".,$s:\\Va/b::gi" := by
    decide
  simp only [hcompose, happly, Except.toOption, Option.bind_some, Option.map_some] at hseen
  exact ⟨r, started, revisions, last, revisions', last', hcompose, happly, happly', htext.symm,
    hcommand.symm, Option.some.inj hseen⟩

end Session

end Substitute
