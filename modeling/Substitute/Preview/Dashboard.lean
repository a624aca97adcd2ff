import Substitute.Preview.Line

/-!
# The dashboard

The dashboard keeps a panel in step with the line. It remembers the text it drew last, so drawing the same text again changes nothing while the panel is up. A hidden dashboard shows no panel.
-/

namespace Substitute

/-- The panel, and how often it has asked to be drawn. -/
structure Panel where
  lines : Option (List PanelLine) := none
  redraws : Nat := 0

namespace Panel

def isShown (p : Panel) : Bool :=
  p.lines.isSome

def draw (p : Panel) (lines : List PanelLine) : Panel :=
  { lines := some lines, redraws := p.redraws + 1 }

def close (p : Panel) : Panel :=
  if p.isShown then { lines := none, redraws := p.redraws + 1 } else p

def text? (p : Panel) : Option Text :=
  p.lines.map plainText

end Panel

structure Dashboard where
  hidden : Bool := false
  drawn : Option Text := none
  panel : Panel := {}

namespace Dashboard

def isEnabled (d : Dashboard) (s : Settings) : Bool :=
  s.dashboard.enabled && !d.hidden

/-- Forgets what was drawn, so the next refresh draws again. -/
def invalidate (d : Dashboard) : Dashboard :=
  { d with drawn := none }

def close (d : Dashboard) : Dashboard :=
  { d with panel := d.panel.close, drawn := none }

/-- Brings the panel in step with the text of the line. -/
def refresh (s : Settings) (t : Text) (d : Dashboard) : Dashboard :=
  if !d.isEnabled s then d
  else match Command.parse? t with
    | none => if d.panel.isShown then d.close else d
    | some command =>
      if d.drawn = some t && d.panel.isShown then d
      else { d with drawn := some t, panel := d.panel.draw (panelLines s command) }

/-- Hides or shows the dashboard; true when it is to be shown now. -/
def toggle (d : Dashboard) : Dashboard × Bool :=
  if d.hidden then ({ d with hidden := false }, true)
  else ({ d with hidden := true }.close, false)

def entered (d : Dashboard) : Dashboard :=
  { d with hidden := false, drawn := none }

end Dashboard

end Substitute
