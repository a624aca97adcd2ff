import Substitute.Proofs.Preview.Consistency

/-!
# Late echoes are counted exactly

A host may take its time over the change events of the keys that were fed: the two of a pair wait and are delivered one by one. Several writes can then have echoes on their way at once, and the guard is all that tells these from typing. As long as the user types only while none is on its way, and no timeout, cancel or refusal comes in between, the guard is the number of them.
-/

namespace Substitute

/-- A live host that takes everything and echoes nothing yet. -/
def Reception.late : Reception :=
  { live := true, acceptsLine := true, acceptsKeys := true, echoes := [] }

/-- A scheduler on a host that delivers echoes later: which of them are on their way, and whether a write or a redraw is still to be carried out. -/
structure Lagging extends Flight where
  echoes : List Text := []
  queued : Bool := false
deriving DecidableEq

namespace Lagging

/-- What can happen while nothing goes wrong. -/
inductive Event where
  | write (text : Text) (cursor : Int)
  | refresh
  | typed (line : Text)
  /-- The host runs a callback of the next turn. If keys are fed, the line is `spaced` after the first and `restored` after the second. -/
  | callback (generation : Nat) (spaced restored : Text)
  /-- The host delivers an echo. -/
  | echo (line : Text)

/-- The scheduler is not told whether a change is an echo. -/
def Event.happening : Event → Happening
  | .write text cursor => .write text cursor
  | .refresh => .refresh
  | .typed line | .echo line => .change line
  | .callback generation _ _ => .perform generation .late

def effects (l : Lagging) (e : Event) : List Effect :=
  l.toFlight.effects e.happening

/-- Whether the keys are fed, which carries out what was queued. -/
def feeds (l : Lagging) (e : Event) : Bool :=
  (l.effects e).contains .feed

def echoesAfter (l : Lagging) (e : Event) : List Text :=
  match e with
  | .echo line => l.echoes.erase line
  | .callback _ spaced restored => if l.feeds e then l.echoes ++ [spaced, restored] else l.echoes
  | .write _ _ | .refresh | .typed _ => l.echoes

/-- Requests queue something, typing supersedes it, and feeding the keys carries it out. -/
def queuedAfter (l : Lagging) (e : Event) : Bool :=
  match e with
  | .write _ _ | .refresh => true
  | .typed _ => false
  | .callback _ _ _ => l.queued && !l.feeds e
  | .echo _ => l.queued

def next (l : Lagging) (e : Event) : Lagging :=
  { toFlight := l.toFlight.next e.happening, echoes := l.echoesAfter e, queued := l.queuedAfter e }

/-- Only callbacks that wait run, only echoes on their way arrive, and nobody types before they have. -/
def Allows (l : Lagging) : Event → Prop
  | .typed _ => l.echoes = []
  | .callback generation _ _ => generation ∈ l.soon
  | .echo line => line ∈ l.echoes
  | .write _ _ | .refresh => True

instance (l : Lagging) : (e : Event) → Decidable (l.Allows e)
  | .typed _ => inferInstanceAs (Decidable (l.echoes = []))
  | .callback generation _ _ => inferInstanceAs (Decidable (generation ∈ l.soon))
  | .echo line => inferInstanceAs (Decidable (line ∈ l.echoes))
  | .write _ _ | .refresh => inferInstanceAs (Decidable True)

/-- What the events on such a host can lead to. -/
inductive Reachable : Lagging → Prop
  | start : Reachable {}
  | next {l : Lagging} (e : Event) (reached : Reachable l) (allowed : l.Allows e) : Reachable (l.next e)

/-- The guard agrees with the echoes, and the phase with what is queued. -/
structure Counted (l : Lagging) : Prop where
  consistent : l.toFlight.Consistent
  guard : l.scheduler.guard = l.echoes.length
  queued : l.queued = true ↔ l.scheduler.phase = .pendingWrite

variable {l : Lagging}

private theorem allows_happening {e : Event} (allowed : l.Allows e) : l.toFlight.Allows e.happening := by
  cases e with
  | callback generation spaced restored => exact allowed
  | _ => trivial

theorem Counted.guard_eq_zero (hl : l.Counted) (hnone : l.echoes = []) : l.scheduler.guard = 0 := by
  rw [hl.guard, hnone]
  rfl

theorem Counted.guard_pos (hl : l.Counted) {line : Text} (hmem : line ∈ l.echoes) :
    0 < l.scheduler.guard := by
  rw [hl.guard]
  exact List.length_pos_of_mem hmem

/-! ### Each event keeps count -/

theorem next_callback (l : Lagging) (spaced restored : Text) :
    l.next (.callback l.scheduler.generation spaced restored) =
      { scheduler := l.scheduler.armed
        soon := l.soon.erase l.scheduler.generation
        later := l.later ++ [l.scheduler.generation]
        echoes := l.echoes ++ [spaced, restored]
        queued := false } := by
  have hperform : l.scheduler.perform l.scheduler.generation .late =
      (l.scheduler.armed, .invalidate :: Scheduler.handOver l.scheduler.pending ++
        [.later l.scheduler.generation, .feed]) :=
    l.scheduler.perform_accepted rfl fun _ => rfl
  have hfeeds : l.feeds (.callback l.scheduler.generation spaced restored) = true := by
    simp [feeds, effects, Event.happening, Flight.effects, Scheduler.react, hperform]
  have hlater : (Effect.invalidate :: Scheduler.handOver l.scheduler.pending ++
      [Effect.later l.scheduler.generation, Effect.feed]).filterMap Effect.later? =
        [l.scheduler.generation] := by
    cases l.scheduler.pending <;> rfl
  simp only [next, echoesAfter, queuedAfter, hfeeds, Event.happening, Flight.next_perform, hperform,
    hlater, if_true, Bool.not_true, Bool.and_false]

private theorem next_stale (l : Lagging) {generation : Nat} (hgen : generation ≠ l.scheduler.generation)
    (spaced restored : Text) :
    l.next (.callback generation spaced restored) =
      { l with soon := l.soon.erase generation } := by
  have hfeeds : l.feeds (.callback generation spaced restored) = false := by
    simp [feeds, effects, Event.happening, Flight.effects, Scheduler.react,
      Scheduler.perform_stale _ hgen]
  simp [next, echoesAfter, queuedAfter, hfeeds, Event.happening, Scheduler.perform_stale _ hgen]

theorem Counted.next (hl : l.Counted) (e : Event) (allowed : l.Allows e) : (l.next e).Counted := by
  have hconsistent : (l.next e).toFlight.Consistent :=
    hl.consistent.next e.happening (allows_happening allowed)
  cases e with
  | write text cursor => exact ⟨hconsistent, hl.guard, iff_of_true rfl rfl⟩
  | refresh =>
    have hrequest := hl.consistent.requestRefresh_eq
    have hguard : l.scheduler.requestRefresh.1.guard = l.echoes.length := by
      rw [hrequest]
      exact hl.guard
    have hphase : l.scheduler.requestRefresh.1.phase = .pendingWrite := by
      rw [hrequest]
      rfl
    exact ⟨hconsistent, hguard, iff_of_true rfl hphase⟩
  | typed line =>
    have htyping := l.scheduler.lineChanged_typing (hl.guard_eq_zero allowed) line
    refine ⟨hconsistent, ?_, iff_of_false Bool.false_ne_true ?_⟩
    · change (l.scheduler.lineChanged line).1.guard = l.echoes.length
      rw [htyping]
      exact hl.guard
    · change (l.scheduler.lineChanged line).1.phase ≠ .pendingWrite
      rw [htyping]
      change (if _ then _ else _) ≠ Phase.pendingWrite
      split
      · simp
      · assumption
  | callback generation spaced restored =>
    by_cases hgen : generation = l.scheduler.generation
    · subst hgen
      rw [next_callback] at hconsistent ⊢
      refine ⟨hconsistent, ?_, iff_of_false Bool.false_ne_true (by simp [Scheduler.armed])⟩
      rw [List.length_append, ← hl.guard]
      rfl
    · rw [next_stale l hgen] at hconsistent ⊢
      exact ⟨hconsistent, hl.guard, hl.queued⟩
  | echo line =>
    have hecho := l.scheduler.lineChanged_echo (hl.guard_pos allowed) line
    have herase : (l.echoes.erase line).length = l.scheduler.guard - 1 := by
      rw [List.length_erase_of_mem allowed, hl.guard]
    refine ⟨hconsistent, ?_, ?_⟩
    · change (l.scheduler.lineChanged line).1.guard = (l.echoes.erase line).length
      rw [hecho, herase]
      split
      · rename_i hlast
        rw [hlast.1]
      · rfl
    · change l.queued = true ↔ (l.scheduler.lineChanged line).1.phase = .pendingWrite
      rw [hecho, hl.queued]
      split
      · rename_i hlast
        simp [hlast.2]
      · rfl

theorem Reachable.counted (reached : l.Reachable) : l.Counted := by
  induction reached with
  | start => exact ⟨Run.start.consistent, rfl, by simp⟩
  | next e _ allowed ih => exact ih.next e allowed

/-! ### What the count tells -/

/-- While echoes are on their way, the scheduler waits for them unless something is queued. -/
theorem Counted.suppressing_iff (hl : l.Counted) (hup : 0 < l.scheduler.guard) :
    l.scheduler.phase = .suppressingEcho ↔ l.queued = false := by
  rw [← Bool.not_eq_true, hl.queued]
  cases hphase : l.scheduler.phase with
  | idle =>
    have hdown := hl.consistent.idle hphase
    omega
  | pendingWrite => simp
  | suppressingEcho => simp

/-- On a host that delivers echoes late the guard is, in every reachable state, the number of those on their way. So each echo is taken for one, and each change that the user makes for typing; an echo redraws the preview exactly when it is the last one and nothing is queued; and once everything has been delivered the scheduler is idle. -/
theorem Reachable.echoes_counted (reached : l.Reachable) :
    l.scheduler.guard = l.echoes.length ∧
    (∀ line, l.Allows (.echo line) → l.scheduler.awaitsEcho = true ∧
      l.effects (.echo line) =
        if l.echoes.length = 1 ∧ l.queued = false then [.refresh line] else []) ∧
    (∀ line, l.Allows (.typed line) → l.scheduler.awaitsEcho = false ∧
      l.effects (.typed line) = [.refresh line]) ∧
    (l.echoes = [] → l.soon = [] → l.scheduler.phase = .idle) := by
  have hl := reached.counted
  refine ⟨hl.guard, fun line hecho => ?_, fun line htyped => ?_, fun hnone hsoon => ?_⟩
  · have hup := hl.guard_pos hecho
    have heffects : l.effects (.echo line) = (l.scheduler.lineChanged line).2 := rfl
    refine ⟨by simp [Scheduler.awaitsEcho, hup], ?_⟩
    rw [heffects, Scheduler.lineChanged_echo _ hup]
    simp only [hl.suppressing_iff hup, hl.guard]
    split <;> rfl
  · have hdown := hl.guard_eq_zero htyped
    have heffects : l.effects (.typed line) = (l.scheduler.lineChanged line).2 := rfl
    refine ⟨by simp [Scheduler.awaitsEcho, hdown], ?_⟩
    rw [heffects, Scheduler.lineChanged_typing _ hdown]
  · have hdown := hl.guard_eq_zero hnone
    cases hphase : l.scheduler.phase with
    | idle => rfl
    | pendingWrite =>
      have hmem := hl.consistent.mem_soon_iff.mpr hphase
      simp [hsoon] at hmem
    | suppressingEcho =>
      have hup := (hl.consistent.suppressing hphase).1
      omega

/-- Three of the four echoes of two writes have come when the last one arrives, once while a redraw is queued and once while nothing is. -/
theorem echoes_counted_two_writes :
    let events : List Event :=
      [.write ['a'] 1, .callback 1 ['a', ' '] ['a'], .echo ['a', ' '], .write ['b'] 1,
        .callback 2 ['b', ' '] ['b'], .echo ['a'], .echo ['b', ' ']]
    let l := events.foldl next {}
    l.Reachable ∧ l.echoes = [['b']] ∧ l.scheduler.guard = 1 ∧
      l.effects (.echo ['b']) = [.refresh ['b']] ∧
      (l.next .refresh).effects (.echo ['b']) = [] := by
  intro events l
  have reached : l.Reachable := by
    refine .next (.echo ['b', ' ']) (.next (.echo ['a']) (.next (.callback 2 ['b', ' '] ['b'])
      (.next (.write ['b'] 1) (.next (.echo ['a', ' ']) (.next (.callback 1 ['a', ' '] ['a'])
        (.next (.write ['a'] 1) .start ?_) ?_) ?_) ?_) ?_) ?_) ?_
    all_goals decide
  obtain ⟨hguard, hecho, -, -⟩ := reached.echoes_counted
  obtain ⟨-, hqueued, -, -⟩ := (reached.next .refresh trivial).echoes_counted
  exact ⟨reached, by decide, hguard, (hecho ['b'] (by decide)).2, (hqueued ['b'] (by decide)).2⟩

end Lagging

end Substitute
