import Substitute.Text.Basic

/-!
# Deferred writes

The preview is redrawn on typing only, and the line may not change while a key is still being handled. A write is therefore queued, carried out silently on the next turn, and followed by a space and a backspace that count as typing. The two change events of that pair are echoes: a guard counts them off, and only the last one redraws the preview.

Every write has a generation. A callback carries the generation it was queued for and does nothing once a newer one exists. The scheduler never touches a host: it says what is to happen as a list of effects, and how a host took a deferred write reaches it as a `Reception`.
-/

namespace Substitute

inductive Phase where
  | idle
  | pendingWrite
  | suppressingEcho
deriving DecidableEq, Repr

def Phase.name : Phase → Text
  | .idle => "idle"
  | .pendingWrite => "pending_write"
  | .suppressingEcho => "suppressing_echo"

/-- What the scheduler asks of others, in order. A host may refuse to replace the line or to type the keys. -/
inductive Effect where
  /-- Queue the write of a generation for the next turn. -/
  | soon (generation : Nat)
  /-- Queue the end of waiting for the echoes of a generation. -/
  | later (generation : Nat)
  /-- Replace the line and the cursor without a change event. -/
  | setLine (text : Text) (cursor : Int)
  /-- Type a space and a backspace. -/
  | feed
  /-- Forget the cached preview. -/
  | invalidate
  /-- Bring the preview in step with a text. -/
  | refresh (text : Text)
  /-- Remove the preview. -/
  | teardown
deriving DecidableEq, Repr

/-- How a host takes a deferred write: whether it is there at all, whether it accepts the line and the keys, and the change events it delivers while the keys are typed. -/
structure Reception where
  live : Bool
  acceptsLine : Bool
  acceptsKeys : Bool
  echoes : List Text

/-- How far the writes have come, and the one that is queued. -/
structure Scheduler where
  phase : Phase := .idle
  guard : Nat := 0
  generation : Nat := 0
  pending : Option (Text × Int) := none
deriving DecidableEq, Repr

namespace Scheduler

/-- Text of the queued write, which the line does not show yet. -/
def pendingText? (s : Scheduler) : Option Text :=
  if s.phase = .pendingWrite then s.pending.map Prod.fst else none

/-- Drops everything in flight; the generation stays. -/
def reset (s : Scheduler) : Scheduler :=
  { s with phase := .idle, guard := 0, pending := none }

/-- Opens a new generation and queues its write. Echoes still awaited keep the guard. -/
def schedule (s : Scheduler) : Scheduler × List Effect :=
  ({ s with phase := .pendingWrite, generation := s.generation + 1 }, [.soon (s.generation + 1)])

/-- Queues a write of the line, in place of one that is queued already. -/
def requestWrite (s : Scheduler) (text : Text) (cursor : Int) : Scheduler × List Effect :=
  schedule { s with pending := some (text, cursor) }

/-- Queues a redraw of the preview. A write that is queued is kept and goes with it. -/
def requestRefresh (s : Scheduler) : Scheduler × List Effect :=
  schedule (if s.phase = .pendingWrite then s else { s with pending := none })

/-- Whether a change event is an echo of the keys that were fed. -/
def awaitsEcho (s : Scheduler) : Bool :=
  0 < s.guard

/-- Takes a change event. An echo is counted off, and the last one redraws the preview unless a write is queued; anything else is typing, which drops a queued write. -/
def lineChanged (s : Scheduler) (text : Text) : Scheduler × List Effect :=
  if s.guard = 0 then
    if s.phase = .pendingWrite then
      ({ s with phase := .idle, generation := s.generation + 1, pending := none }, [.refresh text])
    else (s, [.refresh text])
  else if s.guard = 1 && s.phase == .suppressingEcho then
    ({ s with phase := .idle, guard := 0 }, [.refresh text])
  else ({ s with guard := s.guard - 1 }, [])

def linesChanged (s : Scheduler) : List Text → Scheduler × List Effect
  | [] => (s, [])
  | text :: rest =>
    let (s, now) := s.lineChanged text
    let (s, after) := linesChanged s rest
    (s, now ++ after)

/-- The scheduler before the pair of keys is typed, with two more echoes to await. -/
def armed (s : Scheduler) : Scheduler :=
  { s with phase := .suppressingEcho, guard := s.guard + 2, pending := none }

/-- Types the pair of keys after a write. A host that refuses them ends the write. -/
def feed (s : Scheduler) (generation : Nat) (r : Reception) : Scheduler × List Effect :=
  let (echoed, effects) := s.armed.linesChanged r.echoes
  (if r.acceptsKeys then echoed else echoed.reset, .later generation :: .feed :: effects)

/-- Carries out the write queued for a generation, unless a newer one exists. -/
def perform (s : Scheduler) (generation : Nat) (r : Reception) : Scheduler × List Effect :=
  if generation ≠ s.generation then (s, [])
  else if !r.live then (s.reset, [])
  else match s.pending with
    | none =>
      let (s, effects) := s.feed generation r
      (s, .invalidate :: effects)
    | some (text, cursor) =>
      if r.acceptsLine then
        let (s, effects) := s.feed generation r
        (s, .invalidate :: .setLine text cursor :: effects)
      else (s.reset, [.invalidate, .setLine text cursor])

/-- Stops waiting for echoes that never came; `line` is the line of a host that is still there. -/
def expire (s : Scheduler) (generation : Nat) (line : Option Text) : Scheduler × List Effect :=
  if generation ≠ s.generation || s.phase ≠ .suppressingEcho then (s, [])
  else ({ s with phase := .idle, guard := 0 }, line.toList.map .refresh)

/-- Drops everything in flight and removes the preview. -/
def cancel (s : Scheduler) : Scheduler × List Effect :=
  (reset { s with generation := s.generation + 1 }, [.teardown])

end Scheduler

end Substitute
