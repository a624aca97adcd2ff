import Substitute.Proofs.Console.Prompting
import Substitute.Proofs.Console.Sessions
import Substitute.Proofs.Preview.Truthful

/-!
# What a prompt shows

After every chunk of input a prompt shows its line and the preview below it. Its editor is the one in memory, which echoes the fed keys before it is done with them unless a selection lasts that the write does not end. So as long as no selection is started, whatever is typed at the prompts of a session, a preview that is shown is that of the command on the line.
-/

namespace Substitute

variable {s : Settings}

namespace Composer

variable {c : Composer}

theorem Truthful.typed (hc : c.Truthful s) (hlistens : c.editor.host.listens = true) (line : Text)
    (cursor : Int) : (c.take s (c.editor.typed line cursor)).1.Truthful s := by
  rw [← next_typed_eq_typed hlistens]
  exact hc.next trivial

private theorem takesKeys_reception {h : Host} (hh : h.Obliging) (generation : Nat)
    (pending : Option (Text × Int)) :
    (Event.perform generation (h.reception pending)).TakesKeys := by
  intro _
  simp [Host.reception, hh.listens, hh.takesKeys]

theorem Truthful.runSoon (hc : c.Truthful s) (hhost : c.editor.host.Obliging) (generation : Nat) :
    (c.take s (c.editor.runSoon generation)).1.Truthful s := by
  -- an event erases its callback from the queue, so the callback is put there first
  let queued : Host := { c.editor.host with soon := generation :: c.editor.host.soon }
  have hqueued : Truthful s { c with editor := { c.editor with host := queued } } :=
    ⟨hc.quiet, hc.coherent, hc.tells⟩
  have htold := hqueued.next (takesKeys_reception hhost generation c.editor.scheduler.pending)
  obtain ⟨hscheduler, -, hdashboard, hline⟩ :=
    perform_reception (s := s) (c := { c with editor := { c.editor with host := queued } })
      hhost.listens generation
  simp only [queued, List.erase_cons_head] at hscheduler hdashboard hline
  exact htold.of_same (hscheduler ▸ htold.quiet) hline.symm (.inl hdashboard.symm)

theorem obliging_take (hhost : c.editor.host.Obliging) (step : Scheduler × List Effect) :
    (c.take s (c.editor.take step)).1.editor.host.Obliging :=
  hhost.absorb_all _

private theorem obliging_act (hhost : c.editor.host.Obliging) {captured : Text} {action : KeyAction}
    {after : Composer} {effects : List Effect} (hact : c.act s captured action = .ok (after, effects)) :
    after.editor.host.Obliging := by
  rcases act_cases hact with rfl | ⟨session, r, rfl⟩ | rfl
  · exact hhost
  · exact obliging_take (c := { c with session }) hhost _
  · rw [toggleDashboard]
    generalize c.dashboard.toggle = toggled
    obtain ⟨dashboard, _ | _⟩ := toggled
    · exact hhost
    · exact obliging_take (c := { c with dashboard }) hhost _

theorem AtRest.quiet (hc : c.AtRest) : c.editor.scheduler.Quiet :=
  ⟨hc.unguarded, by simp [hc.idle]⟩

end Composer

namespace Prompt

variable {bindings : List Binding} {p q : Prompt} {keys rest : List Text}

/-! ### Without a selection -/

/-- The key that starts a selection is not among the keys. -/
def NeverSelects (keys : List Text) : Prop :=
  "c-@".toList ∉ keys

theorem NeverSelects.of_suffix (h : NeverSelects keys) (hrest : rest <:+ keys) : NeverSelects rest :=
  fun hmem => h (hrest.mem hmem)

private theorem eq_of_unbound?_select (h : p.unbound? keys = some .select) : keys = ["c-@".toList] := by
  unfold unbound? at h
  split at h
  · rename_i key
    by_cases hkey : key = "c-@".toList
    · rw [hkey]
    · rw [if_neg hkey] at h
      repeat' split at h
      all_goals exact nomatch h
  · exact nomatch h

private theorem unbound?_of_meaning? (h : meaning? bindings p keys = some .select) :
    p.unbound? keys = some .select := by
  rw [meaning?] at h
  split at h
  · exact nomatch h
  · exact h

private theorem mem_of_longestMeaning {n : Nat} (h : longestMeaning bindings p keys n = (.select, rest)) :
    "c-@".toList ∈ keys := by
  induction n with
  | zero => exact nomatch h
  | succ n ih =>
    rw [longestMeaning] at h
    split at h
    · rename_i action hmeaning
      cases h
      have hkey := eq_of_unbound?_select (unbound?_of_meaning? hmeaning)
      exact List.mem_of_mem_take (hkey ▸ List.mem_singleton_self _)
    · exact ih h

theorem mem_of_reading?_select (h : reading? bindings p keys = some (.select, rest)) :
    "c-@".toList ∈ keys := by
  rw [reading?] at h
  split at h
  · cases h
  · split at h
    · cases h
    · exact mem_of_longestMeaning (Option.some.inj h)

/-! ### The preview of a prompt -/

/-- A prompt without a selection, whose preview tells the line. -/
structure Faithful (s : Settings) (p : Prompt) : Prop where
  obliging : p.composer.editor.host.Obliging
  truthful : p.composer.Truthful s
  unselected : p.anchor = none
  neverSelects : NeverSelects p.waiting

theorem faithful_opened {c : Composer} (hc : c.AtRest) : (opened c).Faithful s where
  obliging := ⟨rfl, rfl, rfl, rfl⟩
  truthful := by
    refine .of_down hc.quiet ?_
    simp [opened, Composer.entered, Dashboard.entered, Panel.isShown, hc.hidden]
  unselected := rfl
  neverSelects := List.not_mem_nil

theorem Faithful.edited (hp : p.Faithful s) (line : Text) (cursor : Nat) :
    (p.edited s line cursor).Faithful s := by
  rw [Prompt.edited]
  split
  · exact
      { obliging := hp.obliging.edited _ _ _ _
        truthful := ⟨hp.truthful.quiet, hp.truthful.coherent, hp.truthful.tells⟩
        unselected := hp.unselected
        neverSelects := hp.neverSelects }
  · refine ⟨?_, hp.truthful.typed hp.obliging.listens line cursor, rfl, hp.neverSelects⟩
    rw [Editor.typed]
    split
    · exact (hp.obliging.edited line cursor _ _).absorb_all _
    · exact hp.obliging.edited line cursor _ _

theorem Faithful.act (hp : p.Faithful s) {action : PromptAction} (haction : action ≠ .select)
    {ending : Option Ending} (h : act s p action = .ok (q, ending)) : q.Faithful s := by
  cases action with
  | bound action =>
    obtain ⟨⟨composer, effects⟩, hact, h⟩ := bind_eq_ok_iff.mp h
    cases h
    exact
      { obliging := Composer.obliging_act hp.obliging hact
        truthful := hp.truthful.act hact
        unselected := by simp [hp.unselected]
        neverSelects := hp.neverSelects }
  | edit edit =>
    cases h
    exact hp.edited _ _
  | select => exact absurd rfl haction
  | finish | nothing =>
    cases h
    exact hp

theorem Faithful.settleKeys (hbindings : ∀ b ∈ bindings, b.keys ≠ []) (hp : p.Faithful s) {fuel : Nat}
    {ending : Option Ending} (h : settleKeys s bindings fuel p = .ok (q, ending)) : q.Faithful s := by
  induction fuel generalizing p with
  | zero =>
    cases h
    exact hp
  | succ fuel ih =>
    rw [Prompt.settleKeys] at h
    split at h
    · cases h
      exact hp
    · rename_i action rest hreading
      have hrest := hp.neverSelects.of_suffix (reading?_spec hbindings hreading).1
      have haction : action ≠ .select := by
        rintro rfl
        exact hp.neverSelects (mem_of_reading?_select hreading)
      obtain ⟨⟨after, ended⟩, hact, h⟩ := bind_eq_ok_iff.mp h
      have hleft : Faithful s { p with waiting := rest } :=
        ⟨hp.obliging, hp.truthful, hp.unselected, hrest⟩
      have hafter := hleft.act haction hact
      cases ended with
      | none => exact ih hafter h
      | some ended =>
        cases h
        exact hafter

theorem Faithful.press (hbindings : ∀ b ∈ bindings, b.keys ≠ []) (hp : p.Faithful s)
    (hkeys : NeverSelects keys) {ended : Option (Ending × List Text)}
    (h : press s bindings p keys = .ok (q, ended)) : q.Faithful s := by
  induction keys generalizing p with
  | nil =>
    cases h
    exact hp
  | cons key rest ih =>
    have hwaiting : NeverSelects (p.waiting ++ [key]) := by
      rw [NeverSelects, List.mem_append, List.mem_singleton]
      rintro (hmem | rfl)
      · exact hp.neverSelects hmem
      · exact hkeys List.mem_cons_self
    obtain ⟨⟨after, ending⟩, hsettle, h⟩ := bind_eq_ok_iff.mp h
    have hpressed : Faithful s { p with waiting := p.waiting ++ [key] } :=
      ⟨hp.obliging, hp.truthful, hp.unselected, hwaiting⟩
    have hafter := hpressed.settleKeys hbindings hsettle
    cases ending with
    | none => exact ih hafter (hkeys.of_suffix (List.suffix_cons key rest)) h
    | some ending =>
      cases h
      exact hafter

theorem Faithful.perform (hp : p.Faithful s) (generation : Nat) : (perform s p generation).Faithful s := by
  have hheard : { p.composer.editor.host with listens := true } = p.composer.editor.host := by
    rw [← hp.obliging.listens]
  have hran : (p.composer.editor.runSoon generation).1.host.Obliging := hp.obliging.absorb_all _
  have hstays : { (p.composer.editor.runSoon generation).1.host with listens := true } =
      (p.composer.editor.runSoon generation).1.host := by
    rw [← hran.listens]
  rw [Prompt.perform]
  simp only [hp.unselected, Option.isSome_none, Bool.false_and, Bool.not_false, hheard, hstays]
  exact
    { obliging := hran
      truthful := hp.truthful.runSoon hp.obliging generation
      unselected := by simp
      neverSelects := hp.neverSelects }

theorem Faithful.settle (hp : p.Faithful s) : (settle s p).Faithful s := by
  refine List.foldlRecOn (motive := Faithful s) _ (Prompt.perform s) ?_ fun p hp generation _ =>
    hp.perform generation
  exact
    { obliging := hp.obliging.edited _ _ _ _
      truthful := ⟨hp.truthful.quiet, hp.truthful.coherent, hp.truthful.tells⟩
      unselected := hp.unselected
      neverSelects := hp.neverSelects }

end Prompt

/-! ### Sessions -/

/-- A preview that is shown is that of the command on the line. -/
def Snapshot.Tells (s : Settings) (shown : Snapshot) : Prop :=
  ∀ panel, shown.panel = some panel → s.dashboard.enabled = true ∧
    ∃ command, Command.parse? shown.line = some command ∧ panel = plainText (panelLines s command)

private theorem Prompt.Faithful.tells_snapshot {p : Prompt} (hp : p.Faithful s) : p.snapshot.Tells s := by
  intro panel hpanel
  obtain ⟨lines, hlines, rfl⟩ := Option.map_eq_some_iff.mp hpanel
  have hshown : p.composer.dashboard.panel.isShown = true := by simp [Panel.isShown, hlines]
  have henabled := hp.truthful.coherent.enabled hshown
  have hpreview := hp.truthful.tells hshown
  rw [hlines, Settings.preview?] at hpreview
  obtain ⟨command, hparse, hpanelLines⟩ := Option.map_eq_some_iff.mp hpreview.symm
  exact ⟨(Bool.and_eq_true_iff.mp henabled).1, command, hparse, congrArg plainText hpanelLines.symm⟩

namespace Repl

variable {bindings : List Binding}

private theorem readChunks_tells (hbindings : ∀ b ∈ bindings, b.keys ≠ []) {p q : Prompt}
    {steps : List Snapshot} {chunks : List Text} {record : PromptRecord} {left : List Text}
    (hp : p.Faithful s) (hsteps : ∀ shown ∈ steps, shown.Tells s)
    (hchunks : ∀ chunk ∈ chunks, Prompt.NeverSelects (keysTyped chunk))
    (h : readChunks s bindings p steps chunks = .ok (q, record, left)) :
    (∀ shown ∈ record.steps, shown.Tells s) ∧ Prompt.NeverSelects left := by
  induction chunks generalizing p steps with
  | nil =>
    cases h
    exact ⟨hsteps, List.not_mem_nil⟩
  | cons chunk rest ih =>
    obtain ⟨hchunk, hrest⟩ := List.forall_mem_cons.mp hchunks
    obtain ⟨⟨after, ended⟩, hpress, h⟩ := bind_eq_ok_iff.mp h
    have hafter := hp.press hbindings hchunk hpress
    cases ended with
    | none =>
      refine ih hafter.settle ?_ hrest h
      exact List.forall_mem_append.mpr
        ⟨hsteps, List.forall_mem_singleton.mpr hafter.settle.tells_snapshot⟩
    | some ended =>
      cases h
      obtain ⟨before, key, -, hkeys, -⟩ := Prompt.press_left hpress
      exact ⟨hsteps, hchunk.of_suffix ⟨before ++ [key], by simp [hkeys]⟩⟩

/-- The keys that a prompt may take do not start a selection, and its composer is at rest. -/
structure Plain (r : Repl) : Prop where
  bound : ∀ b ∈ r.bindings, b.keys ≠ []
  atRest : r.composer.AtRest
  neverSelects : Prompt.NeverSelects r.typedAhead

variable {r : Repl} {chunks : List Text}

theorem prompt_tells (hr : r.Plain) (hchunks : ∀ chunk ∈ chunks, Prompt.NeverSelects (keysTyped chunk))
    {after : Repl} {record : PromptRecord} (h : r.prompt chunks = .ok (after, record)) :
    (∀ shown ∈ record.steps, shown.Tells r.console.settings) ∧ after.Plain := by
  obtain ⟨-, hbindings, hrest⟩ := prompt_spec h
  have hplain : Prompt.NeverSelects after.typedAhead → after.Plain :=
    fun hleft => ⟨hbindings ▸ hr.bound, hrest, hleft⟩
  rw [prompt] at h
  obtain ⟨⟨p, ended⟩, hpress, h⟩ := bind_eq_ok_iff.mp h
  have hp := (Prompt.faithful_opened hr.atRest).press hr.bound hr.neverSelects hpress
  cases ended with
  | none =>
    obtain ⟨⟨q, read, left⟩, hread, h⟩ := bind_eq_ok_iff.mp h
    cases h
    obtain ⟨hsteps, hleft⟩ := readChunks_tells hr.bound hp (List.forall_mem_nil _) hchunks hread
    exact ⟨hsteps, hplain hleft⟩
  | some ended =>
    cases h
    obtain ⟨before, key, -, hkeys, -⟩ := Prompt.press_left hpress
    exact ⟨List.forall_mem_nil _, hplain (hr.neverSelects.of_suffix ⟨before ++ [key], by simp [hkeys]⟩)⟩

theorem turn_tells (p : Platform) (hr : r.Plain)
    (hchunks : ∀ chunk ∈ chunks, Prompt.NeverSelects (keysTyped chunk)) :
    (∀ record ∈ (r.turn p chunks).record, ∀ shown ∈ record.steps, shown.Tells r.console.settings) ∧
      (r.turn p chunks).repl.Plain := by
  rw [turn]
  cases hprompt : r.prompt chunks with
  | error error => exact ⟨fun _ hrecord => absurd hrecord (Option.not_mem_none _), hr⟩
  | ok ended =>
    obtain ⟨after, record⟩ := ended
    obtain ⟨hsteps, hafter⟩ := prompt_tells hr hchunks hprompt
    have hrecord : ∀ read ∈ some record, ∀ shown ∈ read.steps, shown.Tells r.console.settings := by
      rintro _ ⟨⟩
      exact hsteps
    dsimp only
    cases record.ending with
    | closed | interrupted => exact ⟨hrecord, hafter⟩
    | accepted line => exact ⟨hrecord, hafter.bound, hafter.atRest, hafter.neverSelects⟩

theorem loop_tells (p : Platform) (hr : r.Plain) {prompts : List (List Text)}
    (hprompts : ∀ chunks ∈ prompts, ∀ chunk ∈ chunks, Prompt.NeverSelects (keysTyped chunk)) :
    ∀ record ∈ (r.loop p prompts).prompts, ∀ shown ∈ record.steps,
      shown.Tells r.console.settings := by
  induction prompts generalizing r with
  | nil =>
    rw [loop, Transcript.prompts_followedBy]
    exact List.forall_mem_nil _
  | cons chunks rest ih =>
    obtain ⟨hchunks, hrest⟩ := List.forall_mem_cons.mp hprompts
    obtain ⟨hrecord, hafter⟩ := turn_tells p hr hchunks
    have hsettings : (r.turn p chunks).repl.console.settings = r.console.settings := by
      rw [(turn_takes p r chunks).console, Console.settings_handled]
    rw [loop]
    refine List.forall_mem_append.mpr ⟨fun record hmem => hrecord record (Option.mem_toList.mp hmem), ?_⟩
    split
    · rw [← hsettings]
      exact ih hafter hrest
    · rw [Transcript.prompts_followedBy]
      exact List.forall_mem_nil _

end Repl

/-- Whatever else is typed in a session, as long as it starts no selection every preview that is shown is that of the command on the line. -/
theorem Console.session_tells (p : Platform) (c : Console) {prompts : List (List Text)}
    (hprompts : ∀ chunks ∈ prompts, ∀ chunk ∈ chunks, Prompt.NeverSelects (keysTyped chunk)) :
    ∀ record ∈ (c.session p prompts).prompts, ∀ shown ∈ record.steps, shown.Tells c.settings := by
  rw [session]
  dsimp only
  split
  · exact List.forall_mem_nil _
  · exact List.forall_mem_nil _
  · rename_i bindings _ hbindings
    have hplain : Repl.Plain { console := c, bindings } :=
      { bound := ne_nil_of_keyBindings hbindings
        atRest := ⟨rfl, rfl, rfl, rfl, rfl⟩
        neverSelects := List.not_mem_nil }
    exact Repl.loop_tells p hplain hprompts

end Substitute
