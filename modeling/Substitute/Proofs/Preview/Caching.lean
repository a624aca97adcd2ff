import Substitute.Proofs.Preview.Dashboard
import Substitute.Settings.Loading

/-!
# The dashboard and its cache

A dashboard remembers the text that was drawn last, so as not to draw it again. What it shows does not depend on that: it is what a dashboard that remembers nothing and draws on every redraw would show, whatever the two are told and even when the panel is taken down behind their backs. A step keeps what the dashboard remembers true, and while that is true both take the step alike.
-/

namespace Substitute

inductive DashboardAction where
  | refresh (text : Text)
  | invalidate
  | close
  | toggle
  | entered
  /-- The panel is taken down, and the dashboard hears nothing of it. -/
  | panelClosed

def Dashboard.act (s : Settings) (d : Dashboard) : DashboardAction → Dashboard
  | .refresh text => d.refresh s text
  | .invalidate => d.invalidate
  | .close => d.close
  | .toggle => d.toggle.1
  | .entered => d.entered
  | .panelClosed => { d with panel := d.panel.close }

def Dashboard.actAll (s : Settings) (d : Dashboard) (actions : List DashboardAction) : Dashboard :=
  actions.foldl (act s) d

/-- A dashboard that does not remember what it drew, and the lines its panel shows. -/
structure UncachedDashboard where
  hidden : Bool
  lines : Option (List PanelLine)

namespace UncachedDashboard

/-- Draws the panel of a text, or takes the panel down when the text is no command. -/
def refresh (s : Settings) (u : UncachedDashboard) (text : Text) : UncachedDashboard :=
  if s.dashboard.enabled && !u.hidden then { u with lines := s.preview? text } else u

def act (s : Settings) (u : UncachedDashboard) : DashboardAction → UncachedDashboard
  | .refresh text => u.refresh s text
  | .invalidate => u
  | .close | .panelClosed => { u with lines := none }
  | .toggle => if u.hidden then { u with hidden := false } else { hidden := true, lines := none }
  | .entered => { u with hidden := false }

def actAll (s : Settings) (u : UncachedDashboard) (actions : List DashboardAction) :
    UncachedDashboard :=
  actions.foldl (act s) u

end UncachedDashboard

namespace Dashboard

variable {s : Settings} {d : Dashboard}

def uncached (d : Dashboard) : UncachedDashboard :=
  { hidden := d.hidden, lines := d.panel.lines }

/-! ### One action -/

theorem Coherent.act (hd : d.Coherent s) (action : DashboardAction) :
    (d.act s action).Coherent s := by
  cases action with
  | refresh text => exact hd.refresh text
  | invalidate => exact hd.invalidate
  | close => exact .of_down (isShown_close d)
  | toggle => exact .of_down hd.toggle
  | entered => exact hd.entered
  | panelClosed => exact .of_down d.panel.isShown_close

private theorem uncached_refresh (hd : d.Coherent s) (text : Text) :
    (d.refresh s text).uncached = d.uncached.refresh s text := by
  -- a redraw is left out only where the panel already shows the text
  have hlines : (d.refresh s text).panel.lines =
      if d.isEnabled s then s.preview? text else d.panel.lines :=
    lines_refresh s d (hd.drawn text)
  rw [isEnabled] at hlines
  rw [uncached, hidden_refresh, hlines, UncachedDashboard.refresh]
  show _ = if (s.dashboard.enabled && !d.hidden) = true then _ else _
  split <;> rfl

private theorem uncached_toggle (d : Dashboard) (s : Settings) :
    d.toggle.1.uncached = d.uncached.act s .toggle := by
  rw [toggle, UncachedDashboard.act]
  cases hhidden : d.hidden with
  | true => simp [uncached, hhidden]
  | false => simp [uncached, hhidden, close]

theorem uncached_act (hd : d.Coherent s) (action : DashboardAction) :
    (d.act s action).uncached = d.uncached.act s action := by
  have hdown : d.panel.close.lines = none := d.panel.lines_close
  cases action with
  | refresh text => exact uncached_refresh hd text
  | invalidate => rfl
  | close => simp only [act, close, uncached, hdown, UncachedDashboard.act]
  | toggle => exact d.uncached_toggle s
  | entered => rfl
  | panelClosed => simp only [act, uncached, hdown, UncachedDashboard.act]

/-! ### Actions one after another -/

theorem Coherent.actAll (hd : d.Coherent s) (actions : List DashboardAction) :
    (d.actAll s actions).Coherent s ∧
      (d.actAll s actions).uncached = d.uncached.actAll s actions := by
  induction actions generalizing d with
  | nil => exact ⟨hd, rfl⟩
  | cons action rest ih =>
    obtain ⟨hcoherent, hsame⟩ := ih (hd.act action)
    rw [uncached_act hd action] at hsame
    exact ⟨hcoherent, hsame⟩

/-- From a dashboard whose panel is down, whatever it remembers, every sequence of actions leads to the lines that a dashboard without a memory shows, and the panel is down while the dashboard is not enabled. -/
theorem cache_invisible (s : Settings) (down : d.panel.isShown = false)
    (actions : List DashboardAction) :
    (d.actAll s actions).uncached = d.uncached.actAll s actions ∧
      ((d.actAll s actions).isEnabled s = false →
        (d.actAll s actions).panel.isShown = false) := by
  have fresh : d.Coherent s := .of_down down
  obtain ⟨hcoherent, hsame⟩ := fresh.actAll actions
  refine ⟨hsame, fun hdisabled => ?_⟩
  by_contra hshown
  have henabled := hcoherent.enabled (eq_true_of_ne_false hshown)
  simp [hdisabled] at henabled

theorem cache_invisible_panel_closed :
    let text : Text := "%s/foo/bar/g"
    let actions : List DashboardAction :=
      [.refresh text, .panelClosed, .refresh text, .toggle, .refresh text, .entered, .refresh text]
    ({} : Dashboard).panel.isShown = false ∧
      (({} : Dashboard).actAll .initial actions).panel.lines =
        (({} : Dashboard).uncached.actAll .initial actions).lines ∧
      (({} : Dashboard).actAll .initial actions).panel.lines.isSome = true := by
  intro text actions
  have down : ({} : Dashboard).panel.isShown = false := rfl
  have hsame := (cache_invisible .initial down actions).1
  have hshown : (({} : Dashboard).actAll .initial actions).panel.lines.isSome = true := by
    decide +kernel
  exact ⟨down, congrArg UncachedDashboard.lines hsame, hshown⟩

end Dashboard

end Substitute
