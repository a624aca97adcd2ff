import Substitute.Platform.Usual
import Substitute.Proofs.Console.Lines
import Substitute.Proofs.Steps

/-!
# What storing a value does to the configuration file

A line writes the configuration file only when it stores a value, and then the file becomes the text of one document: the document of the file with the value assigned. A file that cannot be read, or holds no mapping, counts as empty, so that storing a value in it loses all it held.
-/

namespace Substitute

/-- The key and the value that a line asks to store in the configuration; the value is all words after the key. -/
def SlashLine.assignment? (l : SlashLine) : Option (Text × Text) :=
  if lowercase l.command = "config".toList ∧ l.subcommand? = some "set".toList then
    match l.args with
    | key :: word :: more => some (key, List.intercalate [' '] (word :: more))
    | _ => none
  else none

theorem SlashLine.assignment?_eq_some_iff {l : SlashLine} {key value : Text} :
    l.assignment? = some (key, value) ↔
      lowercase l.command = "config".toList ∧ l.subcommand? = some "set".toList ∧
        ∃ word more, l.args = key :: word :: more ∧ List.intercalate [' '] (word :: more) = value := by
  rw [assignment?]
  split
  · rename_i hset
    rw [and_iff_right hset.1, and_iff_right hset.2]
    split
    · rename_i hargs
      simp [hargs]
    · rename_i hshort
      refine iff_of_false nofun ?_
      rintro ⟨word, more, hargs, -⟩
      exact hshort _ _ _ hargs
  · rename_i hset
    exact iff_of_false nofun fun h => hset ⟨h.1, h.2.1⟩

namespace Console

variable {p : Platform} {c : Console} {l : SlashLine} {file : Option Text} {key value : Text}

/-- The document that storing a typed value makes of a configuration file, and its text. There is none when the file or the value cannot be read, when the settings would be invalid, or when the document has no text. -/
def stored? (p : Platform) (file : Option Text) (key value : Text) : Option (Document × Text) := do
  let document ← (updatedDocument p file key value).toOption
  let text ← (p.yaml.dump document).toOption
  return (document, text)

/-- The document that a line writes to the configuration file, and its text, if it writes any. -/
def written? (p : Platform) (c : Console) (l : SlashLine) : Option (Document × Text) :=
  l.assignment?.bind fun (key, value) => stored? p c.file key value

theorem updatedDocument_eq_ok_iff {document : Document} :
    updatedDocument p file key value = .ok document ↔
      ∃ source typed, ConfigSource.ofFile p.yaml file = .ok source ∧
        readTypedValue p.yaml value = .ok typed ∧
        (∃ s, Settings.ofOverrides p.sets (source.document.assign key typed).config = .ok s) ∧
        source.document.assign key typed = document := by
  simp only [updatedDocument, bind_eq_ok_iff, mapError_eq_ok_iff, pure_eq_ok_iff]
  constructor
  · rintro ⟨source, hsource, typed, htyped, s, hs, hdocument⟩
    exact ⟨source, typed, hsource, htyped, ⟨s, hs⟩, hdocument⟩
  · rintro ⟨source, typed, hsource, htyped, ⟨s, hs⟩, hdocument⟩
    exact ⟨source, hsource, typed, htyped, s, hs, hdocument⟩

theorem stored?_eq_some_iff {document : Document} {text : Text} :
    stored? p file key value = some (document, text) ↔
      updatedDocument p file key value = .ok document ∧ p.yaml.dump document = .ok text := by
  simp only [stored?, Option.bind_eq_bind, Option.bind_eq_some_iff, toOption_eq_some_iff]
  constructor
  · rintro ⟨document, hdocument, text, htext, hpair⟩
    cases hpair
    exact ⟨hdocument, htext⟩
  · rintro ⟨hdocument, htext⟩
    exact ⟨document, hdocument, text, htext, rfl⟩

private theorem updatedFile_toOption :
    (updatedFile p file key value).toOption = (stored? p file key value).map Prod.snd := by
  rw [updatedFile, stored?]
  cases updatedDocument p file key value with
  | error e => rfl
  | ok document =>
    show ((p.yaml.dump document).mapError _).toOption = _
    cases hdump : p.yaml.dump document <;> simp [Except.toOption, hdump]

/-! ### What a line does to the file -/

private theorem console_showConfig (c : Console) (key : Option Text) :
    (c.showConfig p key).console = c := by
  have hpage : ∀ d : Document, (c.showDocument p d).console = c := by
    intro d
    rw [showDocument]
    split <;> rfl
  unfold showConfig
  dsimp only
  split
  · exact hpage _
  · exact hpage _
  · split
    · rfl
    · exact hpage _

private theorem console_help (c : Console) (l : SlashLine) : (c.help p l).console = c := by
  unfold help
  dsimp only
  repeat' split
  all_goals rfl

private theorem console_setConfig (c : Console) (key value : Text) :
    (c.setConfig p key value).console =
      { c with file := ((stored? p c.file key value).map Prod.snd).or c.file } := by
  rw [← updatedFile_toOption, setConfig]
  split
  · rename_i hupdated
    rw [hupdated]
    rfl
  · rename_i hupdated
    rw [hupdated]
    rfl
  · rename_i hupdated
    rw [hupdated]
    rfl

theorem console_config (c : Console) (hcommand : lowercase l.command = "config".toList) :
    (c.config p l).console = { c with file := ((c.written? p l).map Prod.snd).or c.file } := by
  have hkeeps : l.assignment? = none →
      c = { c with file := ((c.written? p l).map Prod.snd).or c.file } := by
    intro hnone
    rw [written?, hnone]
    rfl
  rw [config]
  split
  · rename_i hset
    split
    · rename_i key word more hargs
      have hassigns := SlashLine.assignment?_eq_some_iff.mpr
        ⟨hcommand, hset, word, more, hargs, rfl⟩
      rw [console_setConfig, written?, hassigns]
      rfl
    · rename_i hshort
      refine hkeeps (Option.eq_none_iff_forall_ne_some.mpr ?_)
      rintro ⟨key, value⟩ hassigns
      obtain ⟨-, -, word, more, hargs, -⟩ := SlashLine.assignment?_eq_some_iff.mp hassigns
      exact hshort _ _ _ hargs
  · rename_i hset
    have hnone : l.assignment? = none := by
      refine Option.eq_none_iff_forall_ne_some.mpr ?_
      rintro ⟨key, value⟩ hassigns
      exact hset (SlashLine.assignment?_eq_some_iff.mp hassigns).2.1
    split
    · exact hkeeps hnone
    · rw [console_showConfig]
      exact hkeeps hnone

private theorem name_of_lookup {name : Text} {spec : CommandSpec} {command : ConsoleCommand}
    (hlookup : ConsoleCommand.registry.lookup name = some spec)
    (hcommand : ConsoleCommand.ofName? spec.name = some command) :
    command = .config ↔ lowercase name = "config".toList := by
  have hnames : ∀ entry ∈ ConsoleCommand.registry.names,
      (ConsoleCommand.ofName? entry.2.name = some .config ↔ entry.1 = "config".toList) := by
    decide
  obtain ⟨before, after, hsplit, -⟩ := List.lookup_eq_some_iff.mp hlookup
  have hmem : (lowercase name, spec) ∈ ConsoleCommand.registry.names := by
    rw [hsplit]
    exact List.mem_append_right before List.mem_cons_self
  rw [← hnames _ hmem, hcommand, Option.some.injEq]

theorem written?_of_command (hcommand : lowercase l.command ≠ "config".toList) :
    c.written? p l = none := by
  rw [written?, SlashLine.assignment?, if_neg fun h => hcommand h.1]
  rfl

private theorem dispatch_of_assigns (hassigns : l.assignment? = some (key, value)) :
    ConsoleCommand.registry.dispatch l = .run ConsoleCommand.config.spec := by
  obtain ⟨hcommand, hset, -⟩ := SlashLine.assignment?_eq_some_iff.mp hassigns
  have hlookup : ConsoleCommand.registry.lookup l.command = some ConsoleCommand.config.spec := by
    rw [Registry.lookup, hcommand]
    rfl
  rw [Registry.dispatch, hlookup, hset]
  rfl

/-- Carrying out a command of the console writes the file that it is expected to write, and ends the console at most beyond that. -/
theorem console_run {spec : CommandSpec} (c : Console)
    (hlookup : ConsoleCommand.registry.lookup l.command = some spec) :
    ∃ running, (running = true → c.running = true) ∧ (c.run p spec l).1 =
      { c with file := ((c.written? p l).map Prod.snd).or c.file, running } := by
  by_cases hcommand : lowercase l.command = "config".toList
  · have hspec : ConsoleCommand.registry.lookup l.command = some ConsoleCommand.config.spec := by
      rw [Registry.lookup, hcommand]
      rfl
    cases hlookup.symm.trans hspec
    exact ⟨c.running, id, console_config c hcommand⟩
  · rw [written?_of_command hcommand, run]
    split
    · exact ⟨c.running, id, rfl⟩
    · rename_i command hname
      cases command with
      | help => exact ⟨c.running, id, console_help c l⟩
      | quit => exact ⟨false, Bool.false_ne_true.elim, rfl⟩
      | config => exact absurd ((name_of_lookup hlookup hname).mp rfl) hcommand
      | keys => exact ⟨c.running, id, rfl⟩

theorem console_handleSlash (c : Console) (l : SlashLine) :
    ∃ running, (running = true → c.running = true) ∧ (c.handleSlash p l).1 =
      { c with file := ((c.written? p l).map Prod.snd).or c.file, running } := by
  rw [handleSlash]
  obtain ⟨hlookup, hdispatch⟩ | ⟨spec, hlookup, hdispatch⟩ :=
    dispatch_cases ConsoleCommand.registry l
  · have hwritten : c.written? p l = none := by
      refine written?_of_command fun hcommand => ?_
      rw [Registry.lookup, hcommand] at hlookup
      exact absurd hlookup (by decide)
    rw [hdispatch, hwritten]
    exact ⟨c.running, id, rfl⟩
  · obtain hrun | ⟨subcommand, hunexpected⟩ := hdispatch
    · rw [hrun]
      exact console_run c hlookup
    · have hwritten : c.written? p l = none := by
        cases hassigns : l.assignment? with
        | none => rw [written?, hassigns]; rfl
        | some pair => cases hunexpected.symm.trans (dispatch_of_assigns hassigns)
      rw [hunexpected, hwritten]
      exact ⟨c.running, id, rfl⟩

@[simp] theorem file_handleSlash (c : Console) (l : SlashLine) :
    (c.handleSlash p l).1.file = ((c.written? p l).map Prod.snd).or c.file := by
  obtain ⟨running, -, heq⟩ := console_handleSlash (p := p) c l
  rw [heq]

end Console

/-! ### What is kept of the file -/

def IsBlankFile (t : Text) : Prop :=
  ∀ line ∈ Text.cutAt '\n' t, line.trimLeft.head?.all (· == '#') = true

instance (t : Text) : Decidable (IsBlankFile t) :=
  List.decidableBAll (fun line : Text => line.trimLeft.head?.all (· == '#') = true) (Text.cutAt '\n' t)

/-- The mapping that a configuration file holds; an empty one when there is no file, or nothing in it. -/
def HoldsMapping (yaml : Yaml.Library) (d : Document) : Option Text → Prop
  | none => d = .empty
  | some t =>
    yaml.load (normalizeLineEnds t) = .ok d ∧ d.isMapping = true ∨
      IsBlankFile (normalizeLineEnds t) ∧ d = .empty ∧
        ∃ nothing, yaml.load (normalizeLineEnds t) = .ok nothing ∧ nothing.isNull = true

section

variable {yaml : Yaml.Library} {d : Document} {file : Option Text}

private theorem isMapping_of_isNull (hnull : d.isNull = true) : d.isMapping = false := by
  rw [Document.isNull] at hnull
  rw [Document.isMapping, Store.entries?]
  split at hnull
  · rename_i hpart
    rw [hpart]
    rfl
  · exact absurd hnull Bool.false_ne_true

theorem HoldsMapping.ofFile (h : HoldsMapping yaml d file) :
    ConfigSource.ofFile yaml file = .ok { document := d } := by
  cases file with
  | none =>
    obtain rfl : d = .empty := h
    rfl
  | some t =>
    rw [ConfigSource.ofFile]
    obtain ⟨hload, hmapping⟩ | ⟨-, rfl, nothing, hload, hnull⟩ := h
    · simp [hload, hmapping]
    · simp [hload, isMapping_of_isNull hnull]

private theorem HoldsMapping.exists_load {t : Text} (h : HoldsMapping yaml d (some t)) :
    ∃ e, yaml.load (normalizeLineEnds t) = .ok e := by
  obtain ⟨hload, -⟩ | ⟨-, -, nothing, hload, -⟩ := h
  · exact ⟨d, hload⟩
  · exact ⟨nothing, hload⟩

private theorem exists_holdsMapping {t : Text}
    (hload : (yaml.load (normalizeLineEnds t)).toOption.any Document.isMapping = true) :
    ∃ d, HoldsMapping yaml d (some t) := by
  obtain ⟨d, hd, hmapping⟩ := (Option.any_eq_true _ _).mp hload
  exact ⟨d, .inl ⟨toOption_eq_some_iff.mp hd, hmapping⟩⟩

theorem ofFile_of_no_mapping (hnone : ∀ d, ¬ HoldsMapping yaml d file) :
    (∃ ignored, ConfigSource.ofFile yaml file = .ok { document := .empty, ignored }) ∨
      ∃ failure, ConfigSource.ofFile yaml file = .error failure := by
  cases file with
  | none => exact absurd rfl (hnone .empty)
  | some t =>
    rw [ConfigSource.ofFile]
    cases hload : yaml.load (normalizeLineEnds t) with
    | error failure => cases failure <;> simp
    | ok document =>
      have hmapping : document.isMapping = false :=
        Bool.eq_false_iff.mpr fun hmapping => hnone document (.inl ⟨hload, hmapping⟩)
      simp [hmapping]

end

namespace Console

variable {p : Platform} {c : Console} {l : SlashLine} {file : Option Text} {key value : Text}

/-- How a file that holds a mapping is written again with a typed value under a key: as the text of the mapping with the value assigned, which the settings accept. -/
structure Updates (p : Platform) (file : Option Text) (key value text : Text)
    (d typed : Document) : Prop where
  holds : HoldsMapping p.yaml d file
  typed_read : readTypedValue p.yaml value = .ok typed
  accepted : ∃ s, Settings.ofOverrides p.sets (d.assign key typed).config = .ok s
  written : p.yaml.dump (d.assign key typed) = .ok text

private theorem updates_of_stored {d document : Document} {text : Text} (hholds : HoldsMapping p.yaml d file)
    (hstored : stored? p file key value = some (document, text)) :
    ∃ typed, Updates p file key value text d typed := by
  obtain ⟨hupdated, hdump⟩ := stored?_eq_some_iff.mp hstored
  obtain ⟨source, typed, hsource, htyped, haccepted, rfl⟩ := updatedDocument_eq_ok_iff.mp hupdated
  cases hsource.symm.trans hholds.ofFile
  exact ⟨typed, hholds, htyped, haccepted, hdump⟩

/-- A line that stores a value leaves the configuration file as it was, or writes what the file held with the value assigned. -/
def KeepsConfiguration (p : Platform) (c : Console) (l : SlashLine) (key value : Text) : Prop :=
  (c.handleSlash p l).1.file = c.file ∨
    ∃ text d typed, Updates p c.file key value text d typed ∧
      (c.handleSlash p l).1.file = some text

theorem file_handleSlash_of_assigns (hassigns : l.assignment? = some (key, value)) :
    (c.handleSlash p l).1.file = ((stored? p c.file key value).map Prod.snd).or c.file := by
  rw [file_handleSlash, written?, hassigns]
  rfl

theorem stored?_of_no_mapping (hnone : ∀ d, ¬ HoldsMapping p.yaml d file) (key value : Text) :
    stored? p file key value = none ∨ stored? p file key value = stored? p none key value := by
  obtain ⟨ignored, hempty⟩ | ⟨failure, hfails⟩ := ofFile_of_no_mapping hnone
  · right
    rw [stored?, stored?, updatedDocument, updatedDocument, hempty]
    rfl
  · left
    rw [stored?, updatedDocument, hfails]
    rfl

private theorem keepsConfiguration_of_holds {d : Document} (hassigns : l.assignment? = some (key, value))
    (hholds : HoldsMapping p.yaml d c.file) : KeepsConfiguration p c l key value := by
  rw [KeepsConfiguration, file_handleSlash_of_assigns hassigns]
  cases hstored : stored? p c.file key value with
  | none => exact .inl rfl
  | some stored =>
    obtain ⟨document, text⟩ := stored
    obtain ⟨typed, hupdates⟩ := updates_of_stored hholds hstored
    exact .inr ⟨text, d, typed, hupdates, rfl⟩

/-- A file that holds no mapping comes out as it was, or as if there had been none. -/
theorem file_handleSlash_of_no_mapping (hassigns : l.assignment? = some (key, value))
    (hnone : ∀ d, ¬ HoldsMapping p.yaml d c.file) :
    (c.handleSlash p l).1.file = c.file ∨
      (c.handleSlash p l).1.file = ({ c with file := none }.handleSlash p l).1.file := by
  rw [file_handleSlash_of_assigns hassigns, file_handleSlash_of_assigns hassigns]
  obtain hstored | hstored := stored?_of_no_mapping hnone key value
  · left
    rw [hstored]
    rfl
  · rw [hstored]
    cases stored? p none key value with
    | none => exact .inl rfl
    | some stored => exact .inr rfl

/-- Storing a value keeps the configuration exactly when the file holds a mapping or comes out as it was. What else a file held is lost: it comes out as if there had been no file. -/
theorem handleSlash_keeps_configuration_iff (hassigns : l.assignment? = some (key, value)) :
    (KeepsConfiguration p c l key value ↔
      (∃ d, HoldsMapping p.yaml d c.file) ∨
        ∀ document text, stored? p c.file key value = some (document, text) →
          c.file = some text) ∧
    ((∀ d, ¬ HoldsMapping p.yaml d c.file) → (c.handleSlash p l).1.file = c.file ∨
      (c.handleSlash p l).1.file = ({ c with file := none }.handleSlash p l).1.file) := by
  have hfile := file_handleSlash_of_assigns (p := p) (c := c) hassigns
  refine ⟨⟨?_, ?_⟩, file_handleSlash_of_no_mapping hassigns⟩
  · rintro (hsame | ⟨_, d, typed, hupdates, -⟩)
    · refine .inr fun document text hstored => ?_
      rw [hfile, hstored] at hsame
      exact hsame.symm
    · exact .inl ⟨d, hupdates.holds⟩
  · rintro (⟨d, hholds⟩ | hsame)
    · exact keepsConfiguration_of_holds hassigns hholds
    · refine .inl (hfile.trans ?_)
      cases hstored : stored? p c.file key value with
      | none => rfl
      | some stored => exact (hsame stored.1 stored.2 hstored).symm

def withFile (file : Text) : Console :=
  { freshConsole with file := some file }

def dashboardOff : SlashLine :=
  { command := "config", words := ["set", "dashboard.enable", "false"] }

theorem handleSlash_keeps_configuration_section :
    dashboardOff.assignment? = some ("dashboard.enable".toList, "false".toList) ∧
      KeepsConfiguration .usual (withFile "dashboard: &d {symbols: {g: G}}\nother: *d\n") dashboardOff
        "dashboard.enable" "false" ∧
      ((withFile "dashboard: &d {symbols: {g: G}}\nother: *d\n").handleSlash .usual dashboardOff).1.file =
        some "dashboard: &id001\n  symbols:\n    g: G\n  enable: false\nother: *id001\n".toList := by
  have hassigns : dashboardOff.assignment? = some ("dashboard.enable".toList, "false".toList) := by
    decide +kernel
  have hholds : ∃ d, HoldsMapping Platform.usual.yaml d
      (withFile "dashboard: &d {symbols: {g: G}}\nother: *d\n").file :=
    exists_holdsMapping (by decide +kernel)
  exact ⟨hassigns, (handleSlash_keeps_configuration_iff hassigns).1.mpr (.inl hholds),
    by decide +kernel⟩

/-- A file with a bracket that is not closed is lost, although nothing is wrong with the line. -/
theorem handleSlash_loses_malformed :
    dashboardOff.assignment? = some ("dashboard.enable".toList, "false".toList) ∧
      ((withFile "default_flags: g\nflags: [g, c\n").handleSlash .usual dashboardOff).1.file =
        some "dashboard:\n  enable: false\n".toList ∧
      ¬ KeepsConfiguration .usual (withFile "default_flags: g\nflags: [g, c\n") dashboardOff
        "dashboard.enable" "false" := by
  have hload : failure? (Platform.usual.yaml.load
      (normalizeLineEnds "default_flags: g\nflags: [g, c\n")) =
        some (.announced "malformed YAML") := by
    decide +kernel
  have hfile : ((withFile "default_flags: g\nflags: [g, c\n").handleSlash .usual
      dashboardOff).1.file = some "dashboard:\n  enable: false\n".toList := by
    decide +kernel
  refine ⟨by decide +kernel, hfile, ?_⟩
  rintro (hsame | ⟨_, d, typed, hupdates, -⟩)
  · exact absurd (hfile.symm.trans hsame) (by decide +kernel)
  · obtain ⟨e, he⟩ := hupdates.holds.exists_load
    exact nomatch (failure?_eq_some_iff.mp hload).symm.trans he

end Console

end Substitute
