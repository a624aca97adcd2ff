import Substitute.Preview.Scheduler

/-!
# A line editor in memory

The editor holds a line, a cursor that is trusted as it is given, and two queues of callbacks named by their generations. It can be gone, refuse to have its line replaced, or refuse keys. Each edit delivers one change event, which may go unheard.
-/

namespace Substitute

/-- The position in a text that a cursor stands for: a negative one counts from the end, and none lies outside the text. -/
def clipPosition (t : Text) (cursor : Int) : Nat :=
  if cursor < 0 then (t.length + cursor).toNat else min cursor.toNat t.length

structure Host where
  line : Text := []
  cursor : Int := 0
  soon : List Nat := []
  later : List Nat := []
  live : Bool := true
  rejectsLine : Bool := false
  rejectsKeys : Bool := false
  listens : Bool := true

namespace Host

def afterSpace (line : Text) (cursor : Int) : Text × Int :=
  let at_ := clipPosition line cursor
  (line.take at_ ++ ' ' :: line.drop at_, cursor + 1)

def afterBackspace (line : Text) (cursor : Int) : Text × Int :=
  if 0 < cursor then
    (line.take (cursor - 1).toNat ++ line.drop (clipPosition line cursor), cursor - 1)
  else (line, cursor)

/-- How the editor takes a deferred write of the given line, or of its own line. -/
def reception (h : Host) (pending : Option (Text × Int)) : Reception :=
  let (line, cursor) := pending.getD (h.line, h.cursor)
  let spaced := afterSpace line cursor
  let restored := afterBackspace spaced.1 spaced.2
  { live := h.live
    acceptsLine := !h.rejectsLine
    acceptsKeys := !h.rejectsKeys
    echoes := if h.listens && !h.rejectsKeys then [spaced.1, restored.1] else [] }

/-- The editor after an effect. What it refuses changes nothing. -/
def absorb (h : Host) : Effect → Host
  | .soon generation => { h with soon := h.soon ++ [generation] }
  | .later generation => { h with later := h.later ++ [generation] }
  | .setLine line cursor => if h.rejectsLine then h else { h with line, cursor }
  | .feed =>
    let spaced := afterSpace h.line h.cursor
    let restored := afterBackspace spaced.1 spaced.2
    if h.rejectsKeys then h else { h with line := restored.1, cursor := restored.2 }
  | .invalidate | .refresh _ | .teardown => h

def liveLine? (h : Host) : Option Text :=
  if h.live then some h.line else none

end Host

/-- A line editor together with the scheduler that writes its line. -/
structure Editor where
  host : Host := {}
  scheduler : Scheduler := {}

namespace Editor

def take (e : Editor) (step : Scheduler × List Effect) : Editor × List Effect :=
  ({ host := step.2.foldl Host.absorb e.host, scheduler := step.1 }, step.2)

/-- Runs the callback that writes for a generation. -/
def runSoon (e : Editor) (generation : Nat) : Editor × List Effect :=
  e.take (e.scheduler.perform generation (e.host.reception e.scheduler.pending))

/-- Runs the callback that stops waiting for the echoes of a generation. -/
def runLater (e : Editor) (generation : Nat) : Editor × List Effect :=
  e.take (e.scheduler.expire generation e.host.liveLine?)

/-- Runs callbacks in order, each in the state the one before it left. -/
def runAll (run : Editor → Nat → Editor × List Effect) (e : Editor) :
    List Nat → Editor × List Effect
  | [] => (e, [])
  | generation :: rest =>
    let (e, now) := run e generation
    let (e, after) := runAll run e rest
    (e, now ++ after)

/-- Empties the queue of writes and runs what was in it. -/
def drainSoon (e : Editor) : Editor × List Effect :=
  runAll runSoon { e with host := { e.host with soon := [] } } e.host.soon

/-- Empties the queue of timeouts and runs what was in it. -/
def drainLater (e : Editor) : Editor × List Effect :=
  runAll runLater { e with host := { e.host with later := [] } } e.host.later

def lineChanged (e : Editor) (text : Text) : Editor × List Effect :=
  e.take (e.scheduler.lineChanged text)

/-- Replaces line and cursor as a user would, with one change event if anyone listens. -/
def typed (e : Editor) (line : Text) (cursor : Int) : Editor × List Effect :=
  let e := { e with host := { e.host with line, cursor } }
  if e.host.listens then e.lineChanged line else (e, [])

end Editor

end Substitute
