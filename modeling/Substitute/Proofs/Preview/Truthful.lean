import Substitute.Proofs.Preview.Dashboard
import Substitute.Proofs.Preview.Events
import Substitute.Proofs.Preview.Typing

/-!
# The preview tells the line

Line, panel and scheduler change at different moments: writes are deferred and may be refused, and the dashboard may be hidden while one is queued. On a host that echoes the fed keys before it is done with them there is nevertheless no moment between events at which the panel shows anything but the command on the line. An event either leaves the line alone, or it ends in a redraw from the line it leaves.
-/

namespace Substitute

namespace Composer

/-- Whether a host that is there takes the keys typed on it, with one change event for each before it is done with them. -/
def Event.TakesKeys : Event → Prop
  | .perform _ r => r.live = true → r.acceptsKeys = true ∧ r.echoes.length = 2
  | _ => True

/-- Whether an event is typing or carries out what is queued. -/
def Redraws (c : Composer) : Event → Prop
  | .typed _ _ => True
  | .perform generation r =>
    generation = c.editor.scheduler.generation ∧ r.live = true ∧
      (c.editor.scheduler.pending.isSome = true → r.acceptsLine = true)
  | _ => False

/-- Nothing is still to be echoed, and what is up belongs to the line. -/
structure Truthful (s : Settings) (c : Composer) : Prop where
  quiet : c.editor.scheduler.Quiet
  coherent : c.dashboard.Coherent s
  tells : c.dashboard.panel.isShown = true →
    c.dashboard.panel.lines = s.preview? c.editor.host.line

variable {s : Settings} {c : Composer}

/-! ### Events that redraw -/

private theorem next_typed (quiet : c.editor.scheduler.Quiet) (line : Text) (cursor : Int) :
    c.next s (.typed line cursor) =
      { c with
        editor :=
          { host := { c.editor.host with line, cursor }
            scheduler := (c.editor.scheduler.lineChanged line).1 }
        dashboard := c.dashboard.refresh s line } := by
  rw [next, Editor.lineChanged, c.editor.scheduler.lineChanged_typing quiet.1]
  rfl

/-- A host that takes the line and the keys is left with the line that the second key leaves. -/
theorem line_receive_landing {r : Reception} (hkeys : r.acceptsKeys = true) {spaced restored : Text}
    (hechoes : r.echoes = [spaced, restored]) (scheduler : Scheduler) (host : Host) (t : Text) :
    ((scheduler.landing t).foldl (Host.receive r) host).line = restored := by
  rw [Scheduler.landing, List.foldl_append]
  simp [Host.receive, Host.absorb, hkeys, hechoes]

theorem perform_landing (quiet : c.editor.scheduler.Quiet) {r : Reception} (hlive : r.live = true)
    (hline : c.editor.scheduler.pending.isSome = true → r.acceptsLine = true)
    (hkeys : r.acceptsKeys = true) {spaced restored : Text} (hechoes : r.echoes = [spaced, restored]) :
    let landed := c.perform s c.editor.scheduler.generation r
    landed.editor.host.line = restored ∧ landed.editor.scheduler.Quiet ∧
      landed.dashboard = c.dashboard.invalidate.refresh s restored := by
  have hstep := c.editor.scheduler.perform_landing quiet.1 hlive hline hkeys hechoes
  simp only [perform, take, hstep]
  exact ⟨line_receive_landing hkeys hechoes _ _ _, ⟨rfl, by simp [Scheduler.reset]⟩,
    Dashboard.absorb_landing s _ _ _⟩

theorem Truthful.redraw (hc : c.Truthful s) {e : Event} (hkeys : e.TakesKeys)
    (hredraws : c.Redraws e) :
    (c.next s e).editor.scheduler.Quiet ∧ ∃ d : Dashboard, d.Coherent s ∧
      (c.next s e).dashboard = d.refresh s (c.next s e).editor.host.line := by
  cases e with
  | typed line cursor =>
    rw [next_typed hc.quiet]
    exact ⟨hc.quiet.react (.change line) trivial, c.dashboard, hc.coherent, rfl⟩
  | perform generation r =>
    obtain ⟨rfl, hlive, hline⟩ := hredraws
    obtain ⟨haccepts, htwo⟩ := hkeys hlive
    obtain ⟨spaced, restored, hechoes⟩ := List.length_eq_two.mp htwo
    obtain ⟨hleft, quiet, hdashboard⟩ :=
      perform_landing (s := s) hc.quiet hlive hline haccepts hechoes
    refine ⟨quiet, c.dashboard.invalidate, hc.coherent.invalidate, ?_⟩
    rw [next, hdashboard, hleft]
  | entered | left | key | expire => exact hredraws.elim

private theorem Truthful.of_refresh (quiet : c.editor.scheduler.Quiet) {d : Dashboard} (hd : d.Coherent s)
    (hdashboard : c.dashboard = d.refresh s c.editor.host.line) : c.Truthful s where
  quiet := quiet
  coherent := hdashboard ▸ hd.refresh c.editor.host.line
  tells := by
    rw [hdashboard]
    exact hd.lines_of_isShown_refresh

/-! ### Events that leave the line alone -/

theorem Truthful.of_down (quiet : c.editor.scheduler.Quiet)
    (down : c.dashboard.panel.isShown = false) : c.Truthful s where
  quiet := quiet
  coherent := .of_down down
  tells hshown := absurd hshown (by simp [down])

theorem Truthful.of_same (hc : c.Truthful s) {after : Composer}
    (quiet : after.editor.scheduler.Quiet) (hline : after.editor.host.line = c.editor.host.line)
    (hdashboard : after.dashboard = c.dashboard ∨ after.dashboard = c.dashboard.invalidate) :
    after.Truthful s := by
  rcases hdashboard with hsame | hforgot
  · refine ⟨quiet, hsame ▸ hc.coherent, ?_⟩
    rw [hline, hsame]
    exact hc.tells
  · refine ⟨quiet, hforgot ▸ hc.coherent.invalidate, ?_⟩
    rw [hline, hforgot]
    exact hc.tells

theorem Truthful.revise (hc : c.Truthful s) (session : Session) (r : Revision) :
    ({ c with session }.revise s r).1.Truthful s where
  quiet := hc.quiet.react (.write r.text r.cursor) trivial
  coherent := hc.coherent
  tells := hc.tells

theorem Truthful.toggleDashboard (hc : c.Truthful s) : (c.toggleDashboard s).1.Truthful s := by
  -- hidden or shown again, the dashboard has its panel down until a redraw lands
  have hdown := hc.coherent.toggle
  rw [Composer.toggleDashboard]
  generalize c.dashboard.toggle = toggled at hdown
  obtain ⟨dashboard, shown⟩ := toggled
  cases shown with
  | true => exact .of_down (hc.quiet.react .refresh trivial) hdown
  | false => exact .of_down hc.quiet hdown

theorem Truthful.act (hc : c.Truthful s) {captured : Text} {action : KeyAction} {after : Composer}
    {effects : List Effect} (hact : c.act s captured action = .ok (after, effects)) :
    after.Truthful s := by
  rcases act_cases hact with rfl | ⟨session, r, rfl⟩ | rfl
  · exact hc
  · exact hc.revise session r
  · exact hc.toggleDashboard

private theorem line_receive_refused {r : Reception} (hline : r.acceptsLine = false)
    (pending : Option (Text × Int)) (host : Host) :
    ((Effect.invalidate :: Scheduler.handOver pending).foldl (Host.receive r) host).line =
      host.line := by
  cases pending with
  | none => rfl
  | some write => simp [Scheduler.handOver, Host.receive, Host.absorb, hline]

theorem perform_idle {generation : Nat} {r : Reception}
    (hidle : ¬ c.Redraws (.perform generation r)) :
    (c.perform s generation r).editor.host.line = c.editor.host.line ∧
      ((c.perform s generation r).dashboard = c.dashboard ∨
        (c.perform s generation r).dashboard = c.dashboard.invalidate) := by
  by_cases hgen : generation = c.editor.scheduler.generation
  · subst hgen
    cases hlive : r.live with
    | false =>
      simp only [perform, take, c.editor.scheduler.perform_dead hlive]
      exact ⟨rfl, .inl rfl⟩
    | true =>
      obtain ⟨hpending, hrefused⟩ := Classical.not_imp.mp fun hline => hidle ⟨rfl, hlive, hline⟩
      have hline := eq_false_of_ne_true hrefused
      simp only [perform, take, c.editor.scheduler.perform_refused hlive hpending hline]
      refine ⟨line_receive_refused hline _ _, .inr ?_⟩
      cases c.editor.scheduler.pending <;> rfl
  · simp only [perform, take, c.editor.scheduler.perform_stale hgen]
    exact ⟨rfl, .inl rfl⟩

private theorem expire_quiet (quiet : c.editor.scheduler.Quiet) (generation : Nat) (live : Bool) :
    c.expire s generation live =
      { c with editor :=
        { c.editor with host :=
          { c.editor.host with later := c.editor.host.later.erase generation } } } := by
  have hstep : ∀ line, c.editor.scheduler.expire generation line = (c.editor.scheduler, []) := by
    intro line
    -- a timeout ends a wait for echoes, and there is none
    rcases c.editor.scheduler.expire_cases generation line with ⟨-, h⟩ | ⟨-, hwaiting, -⟩
    · exact h
    · exact absurd hwaiting quiet.2
  rw [expire, hstep]
  rfl

theorem Truthful.next (hc : c.Truthful s) {e : Event} (hkeys : e.TakesKeys) :
    (c.next s e).Truthful s := by
  by_cases hredraws : c.Redraws e
  · obtain ⟨quiet, d, hd, hdashboard⟩ := hc.redraw hkeys hredraws
    exact .of_refresh quiet hd hdashboard
  · cases e with
    | entered => exact ⟨hc.quiet, hc.coherent.entered, hc.tells⟩
    | left => exact .of_down (hc.quiet.react .cancel trivial) c.dashboard.isShown_close
    | typed line cursor => exact absurd trivial hredraws
    | key captured action =>
      rw [Composer.next]
      split
      · exact hc.act ‹_›
      · exact hc
    | perform generation r =>
      have quiet := hc.quiet.react (.perform generation r) fun hlive _ => (hkeys hlive).2
      obtain ⟨hline, hdashboard⟩ := perform_idle (s := s) hredraws
      exact hc.of_same quiet hline hdashboard
    | expire generation live =>
      rw [Composer.next, expire_quiet hc.quiet]
      exact ⟨hc.quiet, hc.coherent, hc.tells⟩

theorem Truthful.after (hc : c.Truthful s) {events : List Event}
    (hkeys : ∀ e ∈ events, e.TakesKeys) : (c.after s events).Truthful s :=
  after_induct (fun _ _ hc hkeys => hc.next hkeys) hc hkeys

/-! ### Runs -/

/-- On a host that takes the keys typed on it and echoes them at once, a composer that starts with its panel down never shows a panel that is not that of the command on the line, nor one of a dashboard that is not enabled. Typing, and a write that lands, bring the panel up whenever there is one to show. -/
theorem preview_tells_line (s : Settings) (line : Text) (cursor : Int) (session : Session)
    {dashboard : Dashboard} (down : dashboard.panel.isShown = false) {events : List Event}
    (hkeys : ∀ e ∈ events, e.TakesKeys) :
    let c : Composer :=
      after s { editor := { host := { line, cursor } }, session, dashboard } events
    (∀ lines, c.dashboard.panel.lines = some lines →
      c.dashboard.isEnabled s = true ∧
        ∃ command, Command.parse? c.editor.host.line = some command ∧
          lines = panelLines s command) ∧
    ∀ e : Event, e.TakesKeys → c.Redraws e →
      ((c.next s e).dashboard.panel.isShown = true ↔
        (c.next s e).dashboard.isEnabled s = true ∧
          (Command.parse? (c.next s e).editor.host.line).isSome = true) := by
  intro c
  have fresh : Truthful s { editor := { host := { line, cursor } }, session, dashboard } :=
    .of_down ⟨rfl, by simp⟩ down
  have hc : c.Truthful s := fresh.after hkeys
  refine ⟨fun lines hlines => ?_, fun e hkeys hredraws => ?_⟩
  · have hshown : c.dashboard.panel.isShown = true := by simp [Panel.isShown, hlines]
    have hpreview := hc.tells hshown
    rw [hlines, Settings.preview?] at hpreview
    obtain ⟨command, hparse, hpanel⟩ := Option.map_eq_some_iff.mp hpreview.symm
    exact ⟨hc.coherent.enabled hshown, command, hparse, hpanel.symm⟩
  · obtain ⟨-, d, hd, hdashboard⟩ := hc.redraw hkeys hredraws
    rw [hdashboard, hd.isShown_refresh, Dashboard.isEnabled_refresh, Bool.and_eq_true]

/-- A flag is toggled, the host refuses the write, the dashboard is hidden and shown, and what is queued then lands. -/
theorem preview_tells_line_after_refusal :
    let typed : Text := "%s/foo/bar/"
    let refusing : Reception := ⟨true, false, true, [typed ++ [' '], typed]⟩
    let willing : Reception := ⟨true, true, true, [typed ++ [' '], typed]⟩
    let events : List Event :=
      [.typed typed 11, .key [] (.toggle .flag (some "c")), .perform 1 refusing,
        .key [] .dashboard, .key [] .dashboard]
    let c : Composer := ({} : Composer).after .initial events
    (∀ e ∈ events, e.TakesKeys) ∧ c.editor.host.soon = [2] ∧ c.Redraws (.perform 2 willing) ∧
      c.dashboard.panel.isShown = false ∧
      (c.next .initial (.perform 2 willing)).dashboard.panel.isShown = true := by
  intro typed refusing willing events c
  have hkeys : ∀ e ∈ events, e.TakesKeys := by
    simp [events, Event.TakesKeys, refusing]
  have hstate : c.editor.host.soon = [2] ∧ c.editor.scheduler.generation = 2 ∧
      c.dashboard.panel.isShown = false := by
    decide +kernel
  have hredraws : c.Redraws (.perform 2 willing) := ⟨hstate.2.1.symm, rfl, fun _ => rfl⟩
  have hlanded : (c.next .initial (.perform 2 willing)).dashboard.isEnabled .initial = true ∧
      (Command.parse? (c.next .initial (.perform 2 willing)).editor.host.line).isSome = true := by
    decide +kernel
  have down : ({} : Dashboard).panel.isShown = false := rfl
  obtain ⟨-, hshown⟩ := preview_tells_line .initial [] 0 {} down hkeys
  exact ⟨hkeys, hstate.1, hredraws, hstate.2.2,
    (hshown (.perform 2 willing) (fun _ => ⟨rfl, rfl⟩) hredraws).mpr hlanded⟩

end Composer

end Substitute
