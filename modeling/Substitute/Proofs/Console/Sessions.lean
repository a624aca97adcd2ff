import Substitute.Console.Repl
import Substitute.Proofs.Console.Loadable

/-!
# Console sessions

A session hands the lines that its prompts accept to the console, one after the other, and nothing else changes the console. So what holds of every line holds of the whole session: the settings stay what they were, the accepted commands are added up in order, and a configuration file that loads keeps loading. Between two prompts no compose session is active, no write is in flight and no preview is shown.
-/

namespace Substitute

variable {p : Platform}

namespace Console

variable {c : Console} {line : Text}

/-! ### One line -/

/-- The document that a line writes to the configuration file, and its text, if it writes any. -/
def writtenByLine? (p : Platform) (c : Console) (line : Text) : Option (Document × Text) :=
  (SlashLine.parse? line.trim).bind (c.written? p)

def acceptedLine? (line : Text) : Option Text :=
  if (SlashLine.parse? line.trim).isNone ∧ (Command.parse? line.trim).isSome then some line.trim
  else none

/-- A line writes the file that it is expected to write, is accepted if it is a substitute command, and ends the console at most beyond that. -/
theorem console_handleLine (c : Console) (line : Text) :
    ∃ running, (running = true → c.running = true) ∧ (c.handleLine p line).1 =
      { c with file := ((c.writtenByLine? p line).map Prod.snd).or c.file
               accepted := c.accepted ++ (acceptedLine? line).toList, running } := by
  have hnothing : ∀ {t : Text}, SlashLine.parse? t = none → Command.parse? t = none → line.trim = t →
      c = { c with file := ((c.writtenByLine? p line).map Prod.snd).or c.file
                   accepted := c.accepted ++ (acceptedLine? line).toList } := by
    rintro _ hslash hcommand rfl
    simp [writtenByLine?, acceptedLine?, hslash, hcommand]
  rw [handleLine]
  by_cases hempty : line.trim.isEmpty = true
  · rw [if_pos hempty]
    exact ⟨c.running, id, hnothing rfl rfl (List.isEmpty_iff.mp hempty)⟩
  rw [if_neg hempty]
  cases hslash : SlashLine.parse? line.trim with
  | some l =>
    obtain ⟨running, hrunning, heq⟩ := console_handleSlash (p := p) c l
    refine ⟨running, hrunning, heq.trans ?_⟩
    simp [writtenByLine?, acceptedLine?, hslash]
  | none =>
    cases hcommand : Command.parse? line.trim with
    | none => exact ⟨c.running, id, hnothing hslash hcommand rfl⟩
    | some command =>
      refine ⟨c.running, id, ?_⟩
      simp [writtenByLine?, acceptedLine?, hslash, hcommand]

@[simp] theorem settings_handleLine (c : Console) (line : Text) :
    (c.handleLine p line).1.settings = c.settings := by
  obtain ⟨running, -, heq⟩ := console_handleLine (p := p) c line
  rw [heq]

@[simp] theorem places_handleLine (c : Console) (line : Text) :
    (c.handleLine p line).1.places = c.places := by
  obtain ⟨running, -, heq⟩ := console_handleLine (p := p) c line
  rw [heq]

@[simp] theorem file_handleLine (c : Console) (line : Text) :
    (c.handleLine p line).1.file = ((c.writtenByLine? p line).map Prod.snd).or c.file := by
  obtain ⟨running, -, heq⟩ := console_handleLine (p := p) c line
  rw [heq]

@[simp] theorem accepted_handleLine (c : Console) (line : Text) :
    (c.handleLine p line).1.accepted = c.accepted ++ (acceptedLine? line).toList := by
  obtain ⟨running, -, heq⟩ := console_handleLine (p := p) c line
  rw [heq]

/-! ### One line after the other -/

def handled (p : Platform) (c : Console) (lines : List Text) : Console :=
  lines.foldl (fun c line => (c.handleLine p line).1) c

/-- The documents that lines write to the configuration file one after the other, and their texts. -/
def writtenByLines (p : Platform) (c : Console) : List Text → List (Document × Text)
  | [] => []
  | line :: rest => (c.writtenByLine? p line).toList ++ writtenByLines p (c.handleLine p line).1 rest

theorem handled_append (c : Console) (lines more : List Text) :
    c.handled p (lines ++ more) = (c.handled p lines).handled p more :=
  List.foldl_append

@[simp] theorem settings_handled (c : Console) (lines : List Text) :
    (c.handled p lines).settings = c.settings := by
  induction lines generalizing c with
  | nil => rfl
  | cons line rest ih => exact (ih _).trans (settings_handleLine c line)

@[simp] theorem places_handled (c : Console) (lines : List Text) :
    (c.handled p lines).places = c.places := by
  induction lines generalizing c with
  | nil => rfl
  | cons line rest ih => exact (ih _).trans (places_handleLine c line)

theorem accepted_handled (c : Console) (lines : List Text) :
    (c.handled p lines).accepted = c.accepted ++ lines.filterMap acceptedLine? := by
  induction lines generalizing c with
  | nil => exact (List.append_nil _).symm
  | cons line rest ih =>
    refine (ih _).trans ?_
    rw [accepted_handleLine, List.append_assoc, List.filterMap_cons]
    cases acceptedLine? line <;> rfl

theorem file_handled (c : Console) (lines : List Text) :
    (c.handled p lines).file = ((c.writtenByLines p lines).getLast?.map Prod.snd).or c.file := by
  induction lines generalizing c with
  | nil => rfl
  | cons line rest ih =>
    refine (ih _).trans ?_
    rw [file_handleLine, writtenByLines, List.getLast?_append, ← Option.or_assoc, ← Option.map_or]
    cases c.writtenByLine? p line <;> rfl

/-- Whatever lines write is accepted. -/
theorem accepted_of_mem_writtenByLines {lines : List Text} {w : Document × Text}
    (hw : w ∈ c.writtenByLines p lines) : ∃ s, Settings.ofOverrides p.sets w.1.config = .ok s := by
  induction lines generalizing c with
  | nil => exact nomatch hw
  | cons line rest ih =>
    rw [writtenByLines, List.mem_append, Option.mem_toList] at hw
    obtain hfirst | hrest := hw
    · obtain ⟨l, -, hwritten⟩ := Option.bind_eq_some_iff.mp hfirst
      exact accepted_of_written hwritten
    · exact ih hrest

/-- A configuration file that loads still loads after any lines, if what they write reads back. -/
theorem exists_ofFile_handled (c : Console) (lines : List Text)
    (hloads : ∃ s, Settings.ofFile p.yaml p.sets c.file = .ok s)
    (hreads : ∀ w ∈ c.writtenByLines p lines,
      ∃ e, p.yaml.load (normalizeLineEnds w.2) = .ok e ∧ w.1.Alike e) :
    ∃ s, Settings.ofFile p.yaml p.sets (c.handled p lines).file = .ok s := by
  rw [file_handled]
  cases hlast : (c.writtenByLines p lines).getLast? with
  | none => exact hloads
  | some w =>
    have hmem := List.mem_of_getLast? hlast
    obtain ⟨e, hread, halike⟩ := hreads w hmem
    exact Settings.exists_ofFile_of_alike (accepted_of_mem_writtenByLines hmem) hread halike

end Console

/-! ### One prompt -/

namespace Composer

/-- No compose session is active, no write is in flight and no preview is shown. -/
structure AtRest (c : Composer) : Prop where
  inactive : c.session.active = false
  idle : c.editor.scheduler.phase = .idle
  unguarded : c.editor.scheduler.guard = 0
  nothing_pending : c.editor.scheduler.pending = none
  hidden : c.dashboard.panel.lines = none

theorem atRest_left (s : Settings) (c : Composer) : (c.left s).1.AtRest where
  inactive := rfl
  idle := rfl
  unguarded := rfl
  nothing_pending := rfl
  hidden := by
    show c.dashboard.panel.close.lines = none
    rw [Panel.close]
    split
    · rfl
    · rename_i hdown
      simpa [Panel.isShown] using hdown

end Composer

/-- The line that a prompt ended with, if it accepted one. -/
def Ending.line? : Ending → Option Text
  | .accepted line => some line
  | _ => none

def PromptRecord.line? (record : PromptRecord) : Option Text :=
  record.ending.line?

/-- The line that a turn has handed to the console, if any. -/
def Turn.line? (t : Turn) : Option Text :=
  t.record.bind PromptRecord.line?

/-- The lines that a session has handed to the console. -/
def Transcript.lines (t : Transcript) : List Text :=
  t.prompts.filterMap PromptRecord.line?

namespace Repl

variable {r : Repl} {chunks : List Text}

theorem prompt_spec {after : Repl} {record : PromptRecord}
    (hprompt : r.prompt chunks = .ok (after, record)) :
    after.console = r.console ∧ after.bindings = r.bindings ∧ after.composer.AtRest := by
  rw [prompt] at hprompt
  obtain ⟨⟨q, ended⟩, -, hprompt⟩ := bind_eq_ok_iff.mp hprompt
  cases ended with
  | none =>
    obtain ⟨read, -, hprompt⟩ := bind_eq_ok_iff.mp hprompt
    cases hprompt
    exact ⟨rfl, rfl, Composer.atRest_left _ _⟩
  | some ended =>
    cases hprompt
    exact ⟨rfl, rfl, Composer.atRest_left _ _⟩

/-- What a turn comes to: an accepted line is handed to the console, and nothing else of it changes. -/
structure Takes (p : Platform) (r : Repl) (t : Turn) : Prop where
  console : t.repl.console = r.console.handled p t.line?.toList
  bindings : t.repl.bindings = r.bindings
  atRest : r.composer.AtRest → t.repl.composer.AtRest
  /-- Another prompt follows only while the console is running. -/
  running : t.goesOn = true → r.console.running = true → t.repl.console.running = true
  /-- A turn breaks off in printing at the line it accepted. -/
  broken {error : MarkupError} (herror : t.error = some (.markup error)) :
    ∃ line, t.line? = some line ∧ (r.console.handleLine p line).2.failure = some error

theorem turn_takes (p : Platform) (r : Repl) (chunks : List Text) : r.Takes p (r.turn p chunks) := by
  rw [turn]
  cases hprompt : r.prompt chunks with
  | error error => exact ⟨rfl, rfl, id, nofun, nofun⟩
  | ok ended =>
    obtain ⟨after, record⟩ := ended
    obtain ⟨hconsole, hbindings, hrest⟩ := prompt_spec hprompt
    have hline : ∀ {t : Turn}, t.record = some record → t.line? = record.ending.line? := by
      intro t ht
      rw [Turn.line?, ht]
      rfl
    dsimp only
    cases hending : record.ending with
    | closed | interrupted =>
      rw [hending] at hline
      exact
        { console := by rw [hline rfl]; exact hconsole
          bindings := hbindings
          atRest := fun _ => hrest
          running := fun _ hrunning => hconsole ▸ hrunning
          broken := nofun }
    | accepted line =>
      rw [hending] at hline
      exact
        { console := by rw [hline rfl, ← hconsole]; rfl
          bindings := hbindings
          atRest := fun _ => hrest
          running := fun hgoesOn _ => (Bool.and_eq_true_iff.mp hgoesOn).1
          broken := fun herror => by
            obtain ⟨_, hfailure, herror⟩ := Option.map_eq_some_iff.mp herror
            cases herror
            exact ⟨line, hline rfl, hconsole ▸ hfailure⟩ }

end Repl

/-! ### A session -/

namespace Transcript

variable (t : Transcript) (printed : Printed)

@[simp] theorem console_followedBy : (t.followedBy printed).console = t.console := by
  rw [followedBy]
  split <;> rfl

@[simp] theorem prompts_followedBy : (t.followedBy printed).prompts = t.prompts := by
  rw [followedBy]
  split <;> rfl

@[simp] theorem error_followedBy :
    (t.followedBy printed).error = t.error.or (printed.failure.map .markup) := by
  rw [followedBy]
  split <;> simp [*]

end Transcript

/-- What a session comes to: the accepted lines are handed to the console one after the other. -/
structure Transcript.Records (p : Platform) (c : Console) (t : Transcript) : Prop where
  console : t.console = c.handled p t.lines
  /-- No line is read after the one that quits. -/
  running (hrunning : c.running = true) {before after : List Text} (hlines : t.lines = before ++ after)
    (hmore : after ≠ []) : (c.handled p before).running = true
  /-- A session breaks off in printing at its last line or at the farewell. -/
  broken {error : MarkupError} (herror : t.error = some (.markup error)) :
    (Pages.farewell p.screen).failure = some error ∨
      ∃ before line, t.lines = before ++ [line] ∧
        ((c.handled p before).handleLine p line).2.failure = some error

namespace Transcript

variable {c next : Console} {t u : Transcript} {line? : Option Text}

private theorem eq_nil_of_toList {before after : List Text} (h : line?.toList = before ++ after)
    (hmore : after ≠ []) : before = [] := by
  cases before with
  | nil => rfl
  | cons line rest =>
    cases line? with
    | none => exact nomatch h
    | some first => exact absurd (List.append_eq_nil_iff.mp (List.cons.inj h).2.symm).2 hmore

theorem records_of_end (line? : Option Text) (hlines : t.lines = line?.toList)
    (hconsole : t.console = c.handled p line?.toList)
    (hbroken : ∀ error, t.error = some (.markup error) →
      (Pages.farewell p.screen).failure = some error ∨
        ∃ line, line? = some line ∧ (c.handleLine p line).2.failure = some error) :
    t.Records p c where
  console := hlines ▸ hconsole
  running := by
    intro hrunning before after hsplit hmore
    obtain rfl := eq_nil_of_toList (hlines.symm.trans hsplit) hmore
    exact hrunning
  broken := by
    intro error herror
    obtain hfarewell | ⟨line, rfl, hfailure⟩ := hbroken error herror
    · exact .inl hfarewell
    · exact .inr ⟨[], line, hlines, hfailure⟩

theorem Records.after (h : t.Records p next) (hnext : next = c.handled p line?.toList)
    (hrunning : c.running = true → next.running = true) (hlines : u.lines = line?.toList ++ t.lines)
    (hconsole : u.console = t.console) (herror : u.error = t.error) : u.Records p c where
  console := by rw [hconsole, h.console, hlines, Console.handled_append, hnext]
  running := by
    intro hstart before after hsplit hmore
    rw [hlines] at hsplit
    obtain ⟨middle, rfl, hrest⟩ | ⟨middle, hfirst, -⟩ := List.append_eq_append_iff.mp hsplit
    · rw [Console.handled_append, ← hnext]
      exact h.running (hrunning hstart) hrest hmore
    · by_cases hmiddle : middle = []
      · subst hmiddle
        rw [List.append_nil] at hfirst
        rw [← hfirst, ← hnext]
        exact hrunning hstart
      · obtain rfl := eq_nil_of_toList hfirst hmiddle
        exact hstart
  broken := by
    intro error he
    obtain hfarewell | ⟨before, line, hbefore, hfailure⟩ := h.broken (herror ▸ he)
    · exact .inl hfarewell
    · refine .inr ⟨line?.toList ++ before, line, ?_, ?_⟩
      · rw [hlines, hbefore, List.append_assoc]
      · rw [Console.handled_append, ← hnext]
        exact hfailure

end Transcript

namespace Repl

theorem loop_records (p : Platform) (r : Repl) (prompts : List (List Text)) :
    (r.loop p prompts).Records p r.console := by
  induction prompts generalizing r with
  | nil =>
    refine Transcript.records_of_end none ?_ ?_ fun error herror => .inl ?_
    · rw [loop, Transcript.lines, Transcript.prompts_followedBy]
      rfl
    · rw [loop, Transcript.console_followedBy]
      rfl
    · rw [loop, Transcript.error_followedBy, Option.none_or] at herror
      obtain ⟨_, hfailure, herror⟩ := Option.map_eq_some_iff.mp herror
      cases herror
      exact hfailure
  | cons chunks rest ih =>
    have htakes := turn_takes p r chunks
    have hrecord : ∀ more : List PromptRecord,
        ((r.turn p chunks).record.toList ++ more).filterMap PromptRecord.line? =
          (r.turn p chunks).line?.toList ++ more.filterMap PromptRecord.line? := by
      intro more
      rw [List.filterMap_append, Turn.line?]
      cases (r.turn p chunks).record with
      | none => rfl
      | some record => cases hline : record.line? <;> simp [hline]
    rw [loop]
    by_cases hgoesOn : (r.turn p chunks).goesOn = true
    · simp only [if_pos hgoesOn]
      exact (ih (r.turn p chunks).repl).after htakes.console (htakes.running hgoesOn) (hrecord _) rfl rfl
    · simp only [if_neg hgoesOn]
      refine Transcript.records_of_end (r.turn p chunks).line? ?_ ?_ fun error herror => ?_
      · rw [Transcript.lines, hrecord, Transcript.prompts_followedBy]
        exact List.append_nil _
      · rw [← htakes.console, Transcript.console_followedBy]
      · rw [Transcript.error_followedBy] at herror
        obtain hturn | ⟨-, hfarewell⟩ := Option.or_eq_some_iff.mp herror
        · exact .inr (htakes.broken hturn)
        · obtain ⟨_, hfailure, hmarkup⟩ := Option.map_eq_some_iff.mp hfarewell
          cases hmarkup
          exact .inl hfailure

/-- A composer that is at rest between two prompts stays so from prompt to prompt. -/
theorem atRest_turn (p : Platform) {r : Repl} (hrest : r.composer.AtRest) (chunks : List Text) :
    (r.turn p chunks).repl.composer.AtRest :=
  (turn_takes p r chunks).atRest hrest

end Repl

namespace Console

/-- A session does not get to its first prompt, or goes as its prompts go. -/
theorem session_cases (p : Platform) (c : Console) (prompts : List (List Text)) :
    ((c.session p prompts).lines = [] ∧ (c.session p prompts).console = c ∧
        ∀ error, (c.session p prompts).error = some (.markup error) →
          (Pages.banner p.screen c.settings).failure = some error) ∨
      (c.session p prompts).Records p c := by
  rw [session]
  dsimp only
  split
  · rename_i hbanner
    refine .inl ⟨rfl, rfl, ?_⟩
    rintro _ ⟨⟩
    exact hbanner
  · exact .inl ⟨rfl, rfl, nofun⟩
  · rename_i bindings _ _
    have hrecords := Repl.loop_records p { console := c, bindings } prompts
    exact .inr ⟨hrecords.console, hrecords.running, hrecords.broken⟩

theorem console_session (p : Platform) (c : Console) (prompts : List (List Text)) :
    (c.session p prompts).console = c.handled p (c.session p prompts).lines := by
  obtain ⟨hlines, hconsole, -⟩ | hrecords := session_cases p c prompts
  · rw [hlines, hconsole]
    rfl
  · exact hrecords.console

/-- A session leaves the settings it started with, and accepts the commands among its lines in order. -/
theorem settings_session (p : Platform) (c : Console) (prompts : List (List Text)) :
    (c.session p prompts).console.settings = c.settings ∧
      (c.session p prompts).console.accepted =
        c.accepted ++ (c.session p prompts).lines.filterMap acceptedLine? := by
  rw [console_session, settings_handled, accepted_handled]
  exact ⟨rfl, rfl⟩

/-- A configuration file that loads still loads after a session, if what the session writes reads back. -/
theorem exists_ofFile_session (c : Console) (prompts : List (List Text))
    (hloads : ∃ s, Settings.ofFile p.yaml p.sets c.file = .ok s)
    (hreads : ∀ w ∈ c.writtenByLines p (c.session p prompts).lines,
      ∃ e, p.yaml.load (normalizeLineEnds w.2) = .ok e ∧ w.1.Alike e) :
    ∃ s, Settings.ofFile p.yaml p.sets (c.session p prompts).console.file = .ok s := by
  rw [console_session]
  exact exists_ofFile_handled c _ hloads hreads

/-- On a lawful screen a session that has greeted breaks off in printing only at its last line, and only if that calls a command that does not exist. -/
theorem session_broken (hscreen : p.screen.Lawful) {c : Console} {prompts : List (List Text)}
    {error : MarkupError} (hbanner : (Pages.banner p.screen c.settings).failure = none)
    (herror : (c.session p prompts).error = some (.markup error)) :
    ∃ before line l, (c.session p prompts).lines = before ++ [line] ∧
      SlashLine.parse? line.trim = some l ∧ ConsoleCommand.registry.lookup l.command = none := by
  obtain ⟨-, -, hgreeting⟩ | hrecords := session_cases p c prompts
  · exact nomatch hbanner.symm.trans (hgreeting error herror)
  · obtain hfarewell | ⟨before, line, hlines, hfailure⟩ := hrecords.broken herror
    · exact nomatch (hscreen.hint (by decide)).symm.trans hfarewell
    · obtain ⟨l, hslash, hunknown⟩ := exists_unknown_of_failure hscreen
        fun hnone => nomatch hnone.symm.trans hfailure
      exact ⟨before, line, l, hlines, hslash, hunknown⟩

end Console

end Substitute
