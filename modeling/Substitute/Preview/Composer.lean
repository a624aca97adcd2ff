import Substitute.Compose.Toggling
import Substitute.Preview.Dashboard
import Substitute.Preview.Host

/-!
# Composing on a line

The composer joins the compose session, the toggles, the dashboard and the deferred writes of a line editor. Keys compose and toggle; the editor reports when it opens, when its line changes, and when it closes.
-/

namespace Substitute

structure Composer where
  editor : Editor := {}
  session : Session := {}
  dashboard : Dashboard := {}

def Dashboard.absorb (s : Settings) (d : Dashboard) : Effect → Dashboard
  | .invalidate => d.invalidate
  | .refresh text => d.refresh s text
  | .teardown => d.close
  | .soon _ | .later _ | .setLine _ _ | .feed => d

namespace Composer

/-- Takes over a step of the editor; the effects are those of the step. -/
def take (s : Settings) (c : Composer) (step : Editor × List Effect) : Composer × List Effect :=
  ({ c with editor := step.1, dashboard := step.2.foldl (Dashboard.absorb s) c.dashboard }, step.2)

/-- The line as it will read once a queued write has landed. -/
def currentText (c : Composer) : Text :=
  c.editor.scheduler.pendingText?.getD c.editor.host.line

def revise (s : Settings) (c : Composer) (r : Revision) : Composer × List Effect :=
  c.take s (c.editor.take (c.editor.scheduler.requestWrite r.text r.cursor))

def entered (c : Composer) : Composer :=
  { c with dashboard := c.dashboard.entered }

/-- The editor closes, which ends the session and drops what is in flight. -/
def left (s : Settings) (c : Composer) : Composer × List Effect :=
  let c := { c with session := c.session.leave }
  c.take s (c.editor.take c.editor.scheduler.cancel)

def lineChanged (s : Settings) (c : Composer) (text : Text) : Composer × List Effect :=
  c.take s (c.editor.lineChanged text)

/-- Composes from a captured text; a new compose replaces one that is outstanding. Nothing happens for an empty text, and then the answer is false. -/
def compose (s : Settings) (c : Composer) (captured : Text) :
    Except ComposeError (Composer × List Effect × Bool) :=
  if captured.isEmpty then .ok (c, [], false)
  else do
    let (revision, session) ← match c.session.compose s captured with
      | .error (.session .alreadyActive) => c.session.leave.compose s captured
      | result => result
    let (c, effects) := Composer.revise s { c with session } revision
    return (c, effects, true)

/-- Applies a toggle to the line. Nothing happens without a command on it, and then the answer is false. -/
def toggle (s : Settings) (c : Composer) (toggle : Toggle) (flag : Option Text) :
    Except ToggleError (Composer × List Effect × Bool) :=
  let text := c.currentText
  if !c.session.shouldProcess text then .ok (c, [], false)
  else do
    match ← c.session.apply s toggle text flag with
    | none => return (c, [], false)
    | some (revision, session) =>
      let (c, effects) := Composer.revise s { c with session } revision
      return (c, effects, true)

/-- Hides or shows the dashboard; a dashboard that comes back is drawn again. -/
def toggleDashboard (s : Settings) (c : Composer) : Composer × List Effect :=
  let (dashboard, shown) := c.dashboard.toggle
  let c := { c with dashboard }
  if shown then c.take s (c.editor.take c.editor.scheduler.requestRefresh) else (c, [])

end Composer

end Substitute
