import Substitute.Proofs.Preview.Dashboard
import Substitute.Proofs.Preview.Events

/-!
# Coalescing is invisible

Keys act on a composer whose writes are deferred, and several of them may act before the queue is emptied. What they come to is what they would come to if every write landed at once: `Outlook.act` says it without a scheduler, and the outcome of a composer, which is what emptying its queue leads to, follows it step by step. So it does not matter when the queue is emptied.
-/

namespace Substitute

/-- What there is to be seen of a composer, and its session. -/
structure Outlook where
  line : Text
  cursor : Int
  session : Session
  hidden : Bool
  panel : Option (List PanelLine)

namespace Outlook

/-- The panel while the line is the given one; a dashboard that shows nothing leaves it alone. -/
def preview (s : Settings) (o : Outlook) (t : Text) : Option (List PanelLine) :=
  if s.dashboard.enabled && !o.hidden then s.preview? t else o.panel

def revise (s : Settings) (o : Outlook) (step : Revision × Session) : Outlook :=
  { line := step.1.text
    cursor := step.1.cursor
    session := step.2
    hidden := o.hidden
    panel := o.preview s step.1.text }

def toggleDashboard (s : Settings) (o : Outlook) : Outlook :=
  if o.hidden then { o with hidden := false, panel := { o with hidden := false }.preview s o.line }
  else { o with hidden := true, panel := none }

/-- Does what a bound key does, with every write landing at once. -/
def act (s : Settings) (o : Outlook) (captured : Text) : KeyAction → Except ActionError Outlook
  | .compose =>
    if captured.isEmpty then .ok o
    else ((o.session.leave.compose s captured).mapError .compose).map (o.revise s)
  | .toggle toggle flag =>
    if !o.session.shouldProcess o.line then .ok o
    else ((o.session.apply s toggle o.line flag).mapError .toggle).map fun
      | some step => o.revise s step
      | none => o
  | .dashboard => .ok (o.toggleDashboard s)

def actAll (s : Settings) (o : Outlook) : List (Text × KeyAction) → Except ActionError Outlook
  | [] => .ok o
  | (captured, action) :: rest => do actAll s (← o.act s captured action) rest

end Outlook

namespace Composer

def outlook (c : Composer) : Outlook :=
  { line := c.editor.host.line
    cursor := c.editor.host.cursor
    session := c.session
    hidden := c.dashboard.hidden
    panel := c.dashboard.panel.lines }

/-- What there is to be seen once a queued write has landed. -/
def outcome (s : Settings) (c : Composer) : Outlook :=
  { line := c.editor.target.1
    cursor := c.editor.target.2
    session := c.session
    hidden := c.dashboard.hidden
    panel :=
      if c.editor.scheduler.phase = .pendingWrite then c.outlook.preview s c.editor.target.1
      else c.dashboard.panel.lines }

def drain (s : Settings) (c : Composer) : Composer :=
  (c.take s c.editor.drainSoon).1

/-- Does what bound keys do one after another, and settles after each. -/
def actAll (s : Settings) (settle : Composer → Composer) (c : Composer) :
    List (Text × KeyAction) → Except ActionError Composer
  | [] => .ok c
  | (captured, action) :: rest => do
    let (c, _) ← c.act s captured action
    actAll s settle (settle c) rest

variable {s : Settings} {c : Composer}

/-! ### Emptying the queue -/

theorem outcome_of_landed (hc : c.editor.Ready) (hlanded : c.editor.scheduler.phase ≠ .pendingWrite) :
    c.outcome s = c.outlook := by
  have hnone : c.editor.scheduler.pending = none := hc.consistent.pending hlanded
  simp only [outcome, outlook, Editor.target, hnone, Option.getD_none, if_neg hlanded]

@[simp] theorem phase_drain (hc : c.editor.Ready) : (c.drain s).editor.scheduler.phase ≠ .pendingWrite := by
  by_cases hphase : c.editor.scheduler.phase = .pendingWrite
  · simp [drain, take, hc.drainSoon_pending hphase, Scheduler.reset]
  · simpa [drain, take, hc.drainSoon_idle hphase] using hphase

@[simp] theorem outlook_drain (hc : c.editor.Ready) : (c.drain s).outlook = c.outcome s := by
  by_cases hphase : c.editor.scheduler.phase = .pendingWrite
  · simp only [drain, take, hc.drainSoon_pending hphase, outlook, outcome, if_pos hphase,
      Dashboard.absorb_landing, Dashboard.lines_refresh_invalidate, Dashboard.hidden_refresh,
      Outlook.preview]
    rfl
  · rw [outcome_of_landed hc hphase]
    simp only [drain, take, hc.drainSoon_idle hphase, outlook, List.foldl_nil]

private theorem outcome_drain (hc : c.editor.Ready) : (c.drain s).outcome s = c.outcome s := by
  rw [outcome_of_landed hc.drainSoon (phase_drain hc), outlook_drain hc]

/-! ### One key -/

theorem panel_outcome (hquiet : (s.dashboard.enabled && !c.dashboard.hidden) = false) :
    (c.outcome s).panel = c.dashboard.panel.lines := by
  simp only [outcome, Outlook.preview, outlook, hquiet, Bool.false_eq_true, if_false, ite_self]

private theorem preview_outcome (t : Text) : (c.outcome s).preview s t = c.outlook.preview s t := by
  cases hshows : s.dashboard.enabled && !c.dashboard.hidden with
  | true => simp only [Outlook.preview, outcome, outlook, hshows, if_true]
  | false =>
    have hpanel := panel_outcome hshows
    have hhidden : (c.outcome s).hidden = c.dashboard.hidden := rfl
    simp only [Outlook.preview, hhidden, hpanel, hshows, outlook, Bool.false_eq_true, if_false]

theorem currentText_eq (hc : c.editor.Ready) : c.currentText = (c.outcome s).line := by
  rw [currentText, Scheduler.pendingText?]
  by_cases hphase : c.editor.scheduler.phase = .pendingWrite
  · rw [if_pos hphase]
    cases hpending : c.editor.scheduler.pending <;> simp [outcome, Editor.target, hpending]
  · rw [if_neg hphase, outcome_of_landed hc hphase]
    rfl

theorem revise_outcome (hc : c.editor.Ready) {r : Revision} (hr : r.InText) (session : Session) :
    ({ c with session }.revise s r).1.editor.Ready ∧
      ({ c with session }.revise s r).1.outcome s = (c.outcome s).revise s (r, session) := by
  refine ⟨hc.write hr.1 hr.2, ?_⟩
  rw [Outlook.revise, preview_outcome]
  rfl

private theorem toggleDashboard_outcome (hc : c.editor.Ready) :
    (c.toggleDashboard s).1.editor.Ready ∧
      (c.toggleDashboard s).1.outcome s = (c.outcome s).toggleDashboard s := by
  cases hhidden : c.dashboard.hidden with
  | true =>
    have hpanel : (c.outcome s).panel = c.dashboard.panel.lines :=
      panel_outcome (by simp [hhidden])
    have hseen : (c.outcome s).hidden = true := hhidden
    have hpreview : Outlook.preview s { c.outcome s with hidden := false } (c.outcome s).line =
        Outlook.preview s { c.outlook with hidden := false } c.editor.target.1 := by
      simp only [Outlook.preview, hpanel]
      rfl
    simp only [toggleDashboard, Dashboard.toggle, hhidden, if_true, Outlook.toggleDashboard, hseen]
    refine ⟨hc.refresh, ?_⟩
    rw [hpreview, hc.refresh_eq]
    rfl
  | false =>
    have hseen : (c.outcome s).hidden = false := hhidden
    simp only [toggleDashboard, Dashboard.toggle, hhidden, Outlook.toggleDashboard, hseen]
    refine ⟨hc, ?_⟩
    simp [outcome, Outlook.preview, outlook, Dashboard.close]

/-- A key fails alike however late writes land, and otherwise it comes to what it would do at once. -/
theorem act_outcome (hc : c.editor.Ready) (captured : Text) (action : KeyAction) :
    (∃ e, c.act s captured action = .error e ∧
      (c.outcome s).act s captured action = .error e) ∨
    ∃ d effects, c.act s captured action = .ok (d, effects) ∧ d.editor.Ready ∧
      (c.outcome s).act s captured action = .ok (d.outcome s) := by
  cases action with
  | compose =>
    have hsession : (c.outcome s).session = c.session := rfl
    rw [act, Outlook.act, hsession]
    cases hcaptured : captured.isEmpty with
    | true => exact .inr ⟨c, [], by rw [compose, hcaptured]; rfl, hc, rfl⟩
    | false =>
      rw [compose_eq hcaptured]
      cases hcompose : c.session.leave.compose s captured with
      | error e => exact .inl ⟨.compose e, rfl, rfl⟩
      | ok step =>
        obtain ⟨hready, houtcome⟩ :=
          revise_outcome (s := s) hc (Session.inText_of_compose hcompose) step.2
        exact .inr ⟨({ c with session := step.2 }.revise s step.1).1, _, rfl, hready,
          by rw [houtcome]; rfl⟩
  | toggle toggle flag =>
    have hsession : (c.outcome s).session = c.session := rfl
    rw [act, Outlook.act, hsession, Composer.toggle, currentText_eq (s := s) hc]
    cases hprocess : c.session.shouldProcess (c.outcome s).line with
    | false => exact .inr ⟨c, [], rfl, hc, rfl⟩
    | true =>
      cases happly : c.session.apply s toggle (c.outcome s).line flag with
      | error e => exact .inl ⟨.toggle e, rfl, rfl⟩
      | ok answer =>
        cases answer with
        | none => exact .inr ⟨c, [], rfl, hc, rfl⟩
        | some step =>
          obtain ⟨hready, houtcome⟩ :=
            revise_outcome (s := s) hc (Session.inText_of_apply happly) step.2
          exact .inr ⟨({ c with session := step.2 }.revise s step.1).1, _, rfl, hready,
            by rw [houtcome]; rfl⟩
  | dashboard =>
    obtain ⟨hready, houtcome⟩ := toggleDashboard_outcome (s := s) hc
    exact .inr ⟨(c.toggleDashboard s).1, (c.toggleDashboard s).2, rfl, hready, by rw [houtcome]; rfl⟩

/-! ### Keys one after another -/

/-- Keys come to what they would do at once when settling after each keeps a composer ready for its outcome. -/
theorem actAll_outcome (settle : Composer → Composer) (P : Composer → Prop)
    (hready : ∀ c, P c → c.editor.Ready)
    (hsettle : ∀ c : Composer, c.editor.Ready → P (settle c) ∧ (settle c).outcome s = c.outcome s)
    (hc : P c) (actions : List (Text × KeyAction)) :
    (∃ e, c.actAll s settle actions = .error e ∧ (c.outcome s).actAll s actions = .error e) ∨
    ∃ d, c.actAll s settle actions = .ok d ∧ P d ∧
      (c.outcome s).actAll s actions = .ok (d.outcome s) := by
  induction actions generalizing c with
  | nil => exact .inr ⟨c, rfl, hc, rfl⟩
  | cons first rest ih =>
    obtain ⟨captured, action⟩ := first
    rcases act_outcome (s := s) (hready c hc) captured action with
      ⟨e, hact, honce⟩ | ⟨d, effects, hact, hd, honce⟩
    · exact .inl ⟨e, by rw [actAll, hact]; rfl, by rw [Outlook.actAll, honce]; rfl⟩
    · obtain ⟨hsettled, hsame⟩ := hsettle d hd
      have hrest := ih hsettled
      have hlate : c.actAll s settle ((captured, action) :: rest) =
          (settle d).actAll s settle rest := by
        rw [actAll, hact]
        rfl
      have hatonce : (c.outcome s).actAll s ((captured, action) :: rest) =
          (d.outcome s).actAll s rest := by
        rw [Outlook.actAll, honce]
        rfl
      rw [hsame] at hrest
      rwa [hlate, hatonce]

end Composer

/-! ### Keys that can act -/

/-- Whether a key that toggles a flag says which; an empty flag is none. -/
def KeyAction.NamesFlag : KeyAction → Prop
  | .toggle .flag flag => ∃ f more, flag = some (f :: more)
  | _ => True

namespace Outlook

variable {s : Settings}

private theorem exists_act (hs : s.Valid) (o : Outlook) (captured : Text) {action : KeyAction}
    (hflag : action.NamesFlag) : ∃ after, o.act s captured action = .ok after := by
  cases action with
  | compose =>
    obtain ⟨step, hstep⟩ := o.session.exists_compose_leave hs captured
    rw [act, hstep]
    split <;> exact ⟨_, rfl⟩
  | toggle toggle flag =>
    have hnamed : toggle = .flag → ∃ f more, flag = some (f :: more) := by
      rintro rfl
      exact hflag
    obtain ⟨answer, hanswer⟩ := o.session.exists_apply hs o.line hnamed
    rw [act, hanswer]
    split <;> exact ⟨_, rfl⟩
  | dashboard => exact ⟨_, rfl⟩

private theorem exists_actAll (hs : s.Valid) (o : Outlook) {actions : List (Text × KeyAction)}
    (hflags : ∀ action ∈ actions, action.2.NamesFlag) : ∃ after, o.actAll s actions = .ok after := by
  induction actions generalizing o with
  | nil => exact ⟨o, rfl⟩
  | cons first rest ih =>
    obtain ⟨now, hnow⟩ := exists_act hs o first.1 (hflags first List.mem_cons_self)
    obtain ⟨after, hafter⟩ := ih now fun action hmem => hflags action (List.mem_cons_of_mem _ hmem)
    exact ⟨after, by rw [actAll, hnow]; exact hafter⟩

end Outlook

namespace Composer

variable {s : Settings} {c : Composer}

/-- From a composer on which nothing is queued, keys that act before the queue is emptied once, and keys after each of which it is emptied, both come to what they would do at once. -/
theorem drained_outcome (hc : c.editor.Ready) (hlanded : c.editor.scheduler.phase ≠ .pendingWrite)
    (actions : List (Text × KeyAction)) :
    (c.actAll s id actions).map (fun late => (late.drain s).outlook) =
        c.outlook.actAll s actions ∧
      (c.actAll s (drain s) actions).map outlook = c.outlook.actAll s actions := by
  have hlate := actAll_outcome (s := s) id (fun c => c.editor.Ready)
    (fun _ h => h) (fun _ h => ⟨h, rfl⟩) hc actions
  -- with nothing queued after each key, the last composer already shows its outcome
  have hearly := actAll_outcome (s := s) (drain s)
    (fun c => c.editor.Ready ∧ c.editor.scheduler.phase ≠ .pendingWrite)
    (fun _ h => h.1) (fun _ h => ⟨⟨h.drainSoon, phase_drain h⟩, outcome_drain h⟩)
    ⟨hc, hlanded⟩ actions
  rw [outcome_of_landed hc hlanded] at hlate hearly
  constructor
  · rcases hlate with ⟨e, hact, honce⟩ | ⟨d, hact, hd, honce⟩
    · rw [hact, honce]
      rfl
    · rw [hact, honce, ← outlook_drain hd]
      rfl
  · rcases hearly with ⟨e, hact, honce⟩ | ⟨d, hact, hd, honce⟩
    · rw [hact, honce]
      rfl
    · rw [hact, honce, outcome_of_landed hd.1 hd.2]
      rfl

theorem ready_fresh {line : Text} {cursor : Int} (hlow : 0 ≤ cursor) (hhigh : cursor ≤ line.length) :
    Editor.Ready { host := { line, cursor } } where
  obliging := ⟨rfl, rfl, rfl, rfl⟩
  quiet := rfl
  cursor_nonneg := hlow
  cursor_le := hhigh
  consistent := Run.start.consistent

/-- Under accepted settings, with the cursor anywhere in the line, keys that act one after another leave the same line, cursor, session and panel whether the queue is emptied once in the end or after each of them. No key fails that names its flag, and any other fails alike. -/
theorem coalescing_invisible {config : Value} {s : Settings} (hs : Settings.ofConfig config = .ok s)
    {line : Text} {cursor : Int} (hlow : 0 ≤ cursor) (hhigh : cursor ≤ line.length)
    (session : Session) (dashboard : Dashboard) (actions : List (Text × KeyAction)) :
    let c : Composer := { editor := { host := { line, cursor } }, session, dashboard }
    (c.actAll s id actions).map (fun late => (late.drain s).outlook) =
        (c.actAll s (drain s) actions).map outlook ∧
      ((∀ action ∈ actions, action.2.NamesFlag) →
        ∃ early, c.actAll s (drain s) actions = .ok early) := by
  intro c
  have hready : c.editor.Ready := ready_fresh hlow hhigh
  have hlanded : c.editor.scheduler.phase ≠ .pendingWrite := by simp [c]
  obtain ⟨hlate, hearly⟩ := drained_outcome (s := s) hready hlanded actions
  refine ⟨hlate.trans hearly.symm, fun hflags => ?_⟩
  obtain ⟨after, hafter⟩ :=
    Outlook.exists_actAll (Settings.valid_of_ofConfig hs) c.outlook hflags
  rw [hafter] at hearly
  cases hact : c.actAll s (drain s) actions with
  | ok early => exact ⟨early, rfl⟩
  | error e =>
    rw [hact] at hearly
    simp at hearly

theorem coalescing_invisible_two_flags :
    let c : Composer := { editor := { host := { line := "%s/foo/bar/g", cursor := 12 } } }
    let actions : List (Text × KeyAction) :=
      [([], .toggle .flag (some "c")), ([], .dashboard), ([], .toggle .flag (some "i")),
        ([], .dashboard)]
    ∃ early, c.actAll .initial (drain .initial) actions = .ok early ∧
      (c.actAll .initial id actions).map (fun late => (late.drain .initial).outlook) =
        .ok early.outlook ∧
      early.outlook.line = "%s/foo/bar/gci" ∧ early.outlook.panel.isSome = true := by
  intro c actions
  have haccepted : Settings.ofConfig .null = .ok .initial := rfl
  have hhigh : (12 : Int) ≤ ("%s/foo/bar/g" : Text).length := by decide
  obtain ⟨hsame, hacts⟩ := coalescing_invisible haccepted (by decide) hhigh {} {} actions
  obtain ⟨early, hearly⟩ := hacts (by simp [actions, KeyAction.NamesFlag])
  have hseen : (c.actAll .initial (drain .initial) actions).toOption.map
      (fun early => (early.outlook.line, early.outlook.panel.isSome)) =
        some ("%s/foo/bar/gci".toList, true) := by
    decide +kernel
  rw [hearly] at hsame hseen
  obtain ⟨hline, hpanel⟩ := Prod.mk.inj (Option.some.inj hseen)
  exact ⟨early, hearly, hsame, hline, hpanel⟩

end Composer

end Substitute
