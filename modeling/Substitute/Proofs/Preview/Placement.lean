import Substitute.Proofs.Preview.Events
import Substitute.Settings.Loading

/-!
# Where a key leaves the line

A key that toggles or composes queues the text of a command together with a cursor. Once that write has landed the line is the text, the cursor stands between the replace term and the separator before the flags, and nothing is awaited any more. The space that is typed on the way is never seen by the preview, which is redrawn once, with the line as it stays.
-/

namespace Substitute

def Effect.refreshed? : Effect → Option Text
  | .refresh text => some text
  | _ => none

/-- The cursor of a revision cuts its text before the separator of the flags, however long the separator is. -/
theorem Revision.cut_ofCommand (c : Command) :
    ∃ n : Nat, (ofCommand c).cursor = n ∧
      c.serialize.take n = c.range ++ c.separator ++ c.search ++ c.separator ++ c.replace ∧
      c.serialize.drop n = c.separator ++ c.flags := by
  have htext : c.serialize =
      (c.range ++ c.separator ++ c.search ++ c.separator ++ c.replace) ++
        (c.separator ++ c.flags) := by
    rw [c.serialize_eq, List.append_assoc _ c.separator c.flags]
  refine ⟨(c.range ++ c.separator ++ c.search ++ c.separator ++ c.replace).length, ?_, ?_, ?_⟩
  · have hlength := congrArg List.length htext
    rw [List.length_append, @List.length_append _ c.separator c.flags] at hlength
    show (c.serialize.length : Int) - c.separator.length - c.flags.length = _
    omega
  · rw [htext, List.take_left]
  · rw [htext, List.drop_left]

/-- The editor once a command stands on its line; `effects` are all that led there. -/
structure Editor.Shows (e : Editor) (command : Command) (effects : List Effect) : Prop where
  line : e.host.line = command.serialize
  cursor_nonneg : 0 ≤ e.host.cursor
  before : e.host.line.take e.host.cursor.toNat =
    command.range ++ command.separator ++ command.search ++ command.separator ++ command.replace
  behind : e.host.line.drop e.host.cursor.toNat = command.separator ++ command.flags
  idle : e.scheduler.phase = .idle
  quiet : e.scheduler.guard = 0
  redrawn : effects.filterMap Effect.refreshed? = [command.serialize]

theorem Scheduler.refreshed_landing (s : Scheduler) (t : Text) :
    (s.landing t).filterMap Effect.refreshed? = [t] := by
  rw [landing]
  cases s.pending <;> rfl

namespace Composer

variable {s : Settings} {c : Composer}

/-- A command that is queued on an editor that is there, listens and refuses nothing lands as it is. -/
theorem shows_revise (obliging : c.editor.host.Obliging) (quiet : c.editor.scheduler.guard = 0)
    (consistent : c.editor.flight.Consistent) (command : Command) :
    let queued := c.revise s (Revision.ofCommand command)
    queued.1.editor.drainSoon.1.Shows command (queued.2 ++ queued.1.editor.drainSoon.2) := by
  intro queued
  obtain ⟨hlow, hhigh⟩ := Revision.inText_ofCommand command
  obtain ⟨n, hcursor, hbefore, hbehind⟩ := Revision.cut_ofCommand command
  have hready : queued.1.editor.Ready :=
    Editor.ready_write obliging quiet consistent hlow hhigh
  have hlanded := hready.drainSoon_pending rfl
  have htarget : queued.1.editor.target = (command.serialize, (Revision.ofCommand command).cursor) :=
    rfl
  rw [htarget, hcursor] at hlanded
  rw [hlanded]
  refine ⟨rfl, Int.natCast_nonneg n, hbefore, hbehind, rfl, rfl, ?_⟩
  have hqueued : queued.2.filterMap Effect.refreshed? = [] := rfl
  rw [List.filterMap_append, hqueued, Scheduler.refreshed_landing]
  rfl

theorem currentText_of_idle (idle : c.editor.scheduler.phase = .idle) :
    c.currentText = c.editor.host.line := by
  simp [currentText, Scheduler.pendingText?, idle]

/-- On an editor that is there, listens and refuses nothing, at any idle moment of a scheduler that may have served other hosts before, a toggle that acts puts the toggled command on the line once its write has landed, and a compose that acts the composed one. The cursor then stands before the flags and their separator, nothing is awaited, and the preview has been redrawn once, with the text that stays. -/
theorem keys_land_exactly {history : List Occurrence} (run : Run history c.editor.flight)
    (idle : c.editor.scheduler.phase = .idle) (obliging : c.editor.host.Obliging) :
    (∀ toggle flag after effects, c.toggle s toggle flag = .ok (after, effects, true) →
      ∃ old new, c.session.resolve c.editor.host.line = .ok (some old) ∧
        c.session.transform s old flag toggle = .ok new ∧
        after.editor.drainSoon.1.Shows new (effects ++ after.editor.drainSoon.2)) ∧
    ∀ captured after effects, c.compose s captured = .ok (after, effects, true) →
      ∃ separator, uniqueSeparator? s.separators captured = some separator ∧
        after.editor.drainSoon.1.Shows
          (Command.make separator s.defaultRange (s.defaultDialect ++ captured) captured
            s.defaultFlags)
          (effects ++ after.editor.drainSoon.2) := by
  have consistent := run.consistent
  have quiet : c.editor.scheduler.guard = 0 := consistent.idle idle
  constructor
  · intro toggle flag after effects htoggle
    obtain ⟨-, hidle⟩ | ⟨r, session, happly, rfl, rfl, -⟩ := toggle_cases htoggle
    · exact nomatch hidle
    · rw [currentText_of_idle idle] at happly
      obtain ⟨old, new, hold, hnew, rfl, -⟩ := Session.exists_of_apply happly
      exact ⟨old, new, hold, hnew,
        shows_revise (c := { c with session }) obliging quiet consistent new⟩
  · intro captured after effects hcompose
    obtain ⟨-, hidle⟩ | ⟨r, session, hstep, rfl, rfl, -⟩ := compose_cases hcompose
    · exact nomatch hidle
    · obtain ⟨separator, hseparator, rfl⟩ := Session.exists_of_compose hstep
      exact ⟨separator, hseparator,
        shows_revise (c := { c with session }) obliging quiet consistent _⟩

theorem keys_land_exactly_long_separator :
    let happenings : List Happening := [.write ['a'] 1, .change ['x']]
    let flight := ({} : Flight).after happenings
    let c : Composer :=
      { editor := { host := { line := "foo", soon := flight.soon }, scheduler := flight.scheduler }
        session := { active := true, captured := "a b", separator := "::" } }
    Run (({} : Flight).occurrences happenings) c.editor.flight ∧
      c.editor.scheduler.phase = .idle ∧ c.editor.host.Obliging ∧ c.editor.host.soon = [1] ∧
      ∃ after effects new, c.toggle .initial .replace none = .ok (after, effects, true) ∧
        after.editor.drainSoon.1.Shows new (effects ++ after.editor.drainSoon.2) ∧
        new.serialize = "foo::::a b::" := by
  intro happenings flight c
  have possible : ({} : Flight).Possible happenings := by decide
  have run : Run (({} : Flight).occurrences happenings) c.editor.flight :=
    Run.start.extend possible
  have obliging : c.editor.host.Obliging := ⟨rfl, rfl, rfl, rfl⟩
  obtain ⟨after, effects, htoggle⟩ :
      ∃ after effects, c.toggle .initial .replace none = .ok (after, effects, true) := ⟨_, _, rfl⟩
  have hline : (c.toggle .initial .replace none).toOption.map
      (fun step => step.1.editor.drainSoon.1.host.line) = some "foo::::a b::".toList := by
    decide +kernel
  rw [htoggle] at hline
  obtain ⟨-, new, -, -, hshows⟩ :=
    (keys_land_exactly run rfl obliging).1 .replace none after effects htoggle
  exact ⟨run, rfl, obliging, rfl, after, effects, new, htoggle, hshows,
    hshows.line.symm.trans (Option.some.inj hline)⟩

end Composer

end Substitute
