import Mathlib.Data.List.Induction
import Substitute.Proofs.Compose.Restoring
import Substitute.Proofs.Preview.Delivery
import Substitute.Proofs.Preview.Events

/-!
# What an active session waits for

Composing starts the session before its write is carried out. As long as nothing has been written for a session, its command is only queued, and there are three ways to lose it: the user types, the editor is gone when the write is due, or it refuses the line. The session stays active all the same. Apart from these an active session always has its command queued or written.

`Watched` keeps what has been written since the latest compose beside the composer; nothing in the composer depends on it.
-/

namespace Substitute

namespace Scheduler

/-- A write waits only while the scheduler says that one is pending. -/
def Settled (s : Scheduler) : Prop :=
  s.phase ≠ .pendingWrite → s.pending = none

variable {s : Scheduler}

private theorem requestWrite_settled (s : Scheduler) (text : Text) (cursor : Int) :
    (s.requestWrite text cursor).1.Settled ∧
      (s.requestWrite text cursor).1.pendingText? = some text :=
  ⟨fun hphase => absurd rfl hphase, rfl⟩

private theorem requestRefresh_settled (s : Scheduler) :
    s.requestRefresh.1.Settled ∧ s.requestRefresh.1.pendingText? = s.pendingText? := by
  rw [requestRefresh]
  refine ⟨fun hphase => absurd rfl hphase, ?_⟩
  split <;> rename_i hphase <;> simp [schedule, pendingText?, hphase]

theorem Settled.lineChanged (hs : s.Settled) (text : Text) :
    (s.lineChanged text).1.Settled ∧
      (s.lineChanged text).1.pendingText? = if s.guard = 0 then none else s.pendingText? := by
  by_cases hguard : s.guard = 0
  · rw [lineChanged_typing s hguard, if_pos hguard]
    by_cases hphase : s.phase = .pendingWrite
    · simp [Settled, pendingText?, hphase]
    · simp [Settled, pendingText?, hphase, hs hphase]
  · rw [lineChanged_echo s (Nat.pos_of_ne_zero hguard), if_neg hguard]
    split
    · rename_i hlast
      have hphase : s.phase ≠ .pendingWrite := by simp [hlast.2]
      simp [Settled, pendingText?, hphase, hs hphase]
    · exact ⟨hs, rfl⟩

theorem Settled.perform (hs : s.Settled) (generation : Nat) (r : Reception) :
    (s.perform generation r).1.Settled ∧
      (s.perform generation r).1.pendingText? =
        if generation = s.generation then none else s.pendingText? := by
  by_cases hgen : generation = s.generation
  · subst hgen
    obtain ⟨-, hpending, -⟩ := s.perform_current r
    simp [Settled, pendingText?, hpending]
  · rw [perform_stale s hgen, if_neg hgen]
    exact ⟨hs, rfl⟩

theorem Settled.expire (hs : s.Settled) (generation : Nat) (line : Option Text) :
    (s.expire generation line).1.Settled ∧
      (s.expire generation line).1.pendingText? = s.pendingText? := by
  rcases s.expire_cases generation line with ⟨-, h⟩ | ⟨-, hwaiting, h⟩
  · rw [h]
    exact ⟨hs, rfl⟩
  · have hphase : s.phase ≠ .pendingWrite := by simp [hwaiting]
    rw [h]
    simp [Settled, pendingText?, hphase, hs hphase]

end Scheduler

/-- Texts of the command that is composed from a word, and of those that toggles make of it while its session lasts. -/
inductive Derived (s : Settings) (captured : Text) : Text → Prop
  | composed {session started : Session} {r : Revision}
      (hcompose : session.compose s captured = .ok (r, started)) : Derived s captured r.text
  | toggled {session after : Session} {toggle : Toggle} {flag : Option Text} {t : Text} {r : Revision}
      (hfrom : Derived s captured t) (hactive : session.active = true)
      (hcaptured : session.captured = captured)
      (happly : session.apply s toggle t flag = .ok (some (r, after))) : Derived s captured r.text

namespace Composer

def composes (s : Settings) (c : Composer) : Event → Bool
  | .key captured .compose =>
    match c.compose s captured with
    | .ok (_, _, acted) => acted
    | .error _ => false
  | _ => false

/-- The texts that the host takes for its line at an event. -/
def writes (c : Composer) : Event → List Text
  | .perform generation r =>
    if r.acceptsLine then
      ((c.editor.scheduler.perform generation r).2.filterMap Effect.written?).map Prod.fst
    else []
  | _ => []

/-- Whether an event drops a queued write: the user types, or the write is due on a host that is gone or refuses it. -/
def DropsWrite (c : Composer) : Event → Prop
  | .typed _ _ => c.editor.scheduler.guard = 0
  | .perform generation r =>
    generation = c.editor.scheduler.generation ∧ (r.live = false ∨ r.acceptsLine = false)
  | _ => False

variable {s : Settings} {c : Composer}

/-- A bound key does nothing, or it composes, or it toggles the text to come, or it switches the dashboard. -/
theorem next_key_cases (captured : Text) (action : KeyAction) :
    (c.next s (.key captured action) = c ∧ c.composes s (.key captured action) = false) ∨
    (∃ r started, c.session.leave.compose s captured = .ok (r, started) ∧
      c.next s (.key captured action) = ({ c with session := started }.revise s r).1 ∧
      c.composes s (.key captured action) = true) ∨
    (∃ toggle flag r session, c.session.apply s toggle c.currentText flag = .ok (some (r, session)) ∧
      c.next s (.key captured action) = ({ c with session }.revise s r).1 ∧
      c.composes s (.key captured action) = false) ∨
    (c.next s (.key captured action) = (c.toggleDashboard s).1 ∧
      c.composes s (.key captured action) = false) := by
  cases action with
  | compose =>
    cases hcompose : c.compose s captured with
    | error e =>
      left
      simp [next, act, composes, hcompose]
    | ok step =>
      obtain ⟨after, effects, acted⟩ := step
      have hnext : c.next s (.key captured .compose) = after := by
        simp [next, act, hcompose]
      have hcomposes : c.composes s (.key captured .compose) = acted := by
        rw [composes, hcompose]
      rw [hnext, hcomposes]
      obtain hidle | ⟨r, started, hstep, hafter, -, hacted⟩ := compose_cases hcompose
      · exact .inl hidle
      · exact .inr (.inl ⟨r, started, hstep, hafter, hacted⟩)
  | toggle toggle flag =>
    cases htoggle : c.toggle s toggle flag with
    | error e =>
      left
      simp [next, act, composes, htoggle]
    | ok step =>
      obtain ⟨after, effects, acted⟩ := step
      have hnext : c.next s (.key captured (.toggle toggle flag)) = after := by
        simp [next, act, htoggle]
      rw [hnext]
      obtain ⟨hsame, -⟩ | ⟨r, session, happly, hafter, -, -⟩ := toggle_cases htoggle
      · exact .inl ⟨hsame, rfl⟩
      · exact .inr (.inr (.inl ⟨toggle, flag, r, session, happly, hafter, rfl⟩))
  | dashboard => exact .inr (.inr (.inr ⟨rfl, rfl⟩))

theorem writes_perform (generation : Nat) (r : Reception) :
    c.writes (.perform generation r) =
      if generation = c.editor.scheduler.generation ∧ r.live = true ∧ r.acceptsLine = true then
        c.editor.scheduler.pending.toList.map Prod.fst
      else [] := by
  rw [writes, Scheduler.written_perform]
  by_cases hgen : generation = c.editor.scheduler.generation <;> cases r.live <;>
    cases r.acceptsLine <;> simp [hgen]

end Composer

/-- A composer with the texts that were written to the line since the latest compose. -/
structure Watched where
  composer : Composer
  written : List Text := []

namespace Watched

open Composer

def next (s : Settings) (w : Watched) (e : Event) : Watched :=
  { composer := w.composer.next s e
    written := if w.composer.composes s e then [] else w.written ++ w.composer.writes e }

def after (s : Settings) (w : Watched) (events : List Event) : Watched :=
  events.foldl (next s) w

/-- Whether an event drops the first write of an active session. -/
def Loses (w : Watched) (e : Event) : Prop :=
  w.composer.session.active = true ∧ w.written = [] ∧ w.composer.DropsWrite e

variable {s : Settings} {w : Watched}

theorem after_concat (events : List Event) (e : Event) :
    w.after s (events ++ [e]) = (w.after s events).next s e :=
  List.foldl_concat ..

/-- What holds of a watched composer as long as no first write was dropped. -/
structure Standing (s : Settings) (w : Watched) : Prop where
  settled : w.composer.editor.scheduler.Settled
  command : w.composer.session.active = true →
    (w.written = [] ∧ ∃ t, w.composer.editor.scheduler.pendingText? = some t ∧
      Derived s w.composer.session.captured t) ∨
    ∃ t ∈ w.written, Derived s w.composer.session.captured t

theorem Standing.of_same (hw : w.Standing s) {after : Watched}
    (hsettled : after.composer.editor.scheduler.Settled)
    (hsession : after.composer.session = w.composer.session) (hwritten : after.written = w.written)
    (hqueued : after.composer.editor.scheduler.pendingText? =
      w.composer.editor.scheduler.pendingText?) : after.Standing s where
  settled := hsettled
  command := by
    rw [hsession, hwritten, hqueued]
    exact hw.command

theorem mem_written_next {t : Text} {e : Event} (hcomposes : w.composer.composes s e = false)
    (ht : t ∈ w.written) : t ∈ (w.next s e).written := by
  rw [next, hcomposes]
  exact List.mem_append_left _ ht

theorem Standing.exists_written (hw : w.Standing s) {e : Event} (hkeeps : ¬ w.Loses e)
    (hdrops : w.composer.DropsWrite e) (hactive : w.composer.session.active = true) :
    ∃ t ∈ w.written, Derived s w.composer.session.captured t := by
  obtain ⟨hnone, -⟩ | hwritten := hw.command hactive
  · exact absurd ⟨hactive, hnone, hdrops⟩ hkeeps
  · exact hwritten

theorem Standing.typed (hw : w.Standing s) {line : Text} {cursor : Int}
    (hkeeps : ¬ w.Loses (.typed line cursor)) : (w.next s (.typed line cursor)).Standing s := by
  obtain ⟨hsettled, hqueued⟩ := hw.settled.lineChanged line
  by_cases hguard : w.composer.editor.scheduler.guard = 0
  · refine ⟨hsettled, ?_⟩
    intro hactive
    obtain ⟨t, ht, hderived⟩ := hw.exists_written hkeeps hguard hactive
    exact .inr ⟨t, mem_written_next rfl ht, hderived⟩
  · rw [if_neg hguard] at hqueued
    exact hw.of_same hsettled rfl (List.append_nil _) hqueued

theorem Standing.perform (hw : w.Standing s) {generation : Nat} {r : Reception}
    (hkeeps : ¬ w.Loses (.perform generation r)) :
    (w.next s (.perform generation r)).Standing s := by
  obtain ⟨hsettled, hqueued⟩ := hw.settled.perform generation r
  by_cases hgen : generation = w.composer.editor.scheduler.generation
  · refine ⟨hsettled, ?_⟩
    intro hactive
    right
    by_cases htakes : r.live = true ∧ r.acceptsLine = true
    · obtain ⟨-, t, ht, hderived⟩ | ⟨t, ht, hderived⟩ := hw.command hactive
      · -- the queued command is what the callback writes
        refine ⟨t, ?_, hderived⟩
        show t ∈ w.written ++ w.composer.writes (.perform generation r)
        rw [writes_perform, if_pos ⟨hgen, htakes⟩]
        refine List.mem_append_right _ ?_
        rw [Scheduler.pendingText?] at ht
        split at ht
        · simpa using ht
        · exact nomatch ht
      · exact ⟨t, mem_written_next rfl ht, hderived⟩
    · have hdrops : w.composer.DropsWrite (.perform generation r) := by
        refine ⟨hgen, ?_⟩
        cases hlive : r.live with
        | false => exact .inl rfl
        | true => exact .inr (eq_false_of_ne_true fun hline => htakes ⟨hlive, hline⟩)
      obtain ⟨t, ht, hderived⟩ := hw.exists_written hkeeps hdrops hactive
      exact ⟨t, mem_written_next rfl ht, hderived⟩
  · rw [if_neg hgen] at hqueued
    refine hw.of_same hsettled rfl ?_ hqueued
    show w.written ++ w.composer.writes (.perform generation r) = w.written
    rw [writes_perform, if_neg fun h => hgen h.1, List.append_nil]

theorem standing_revise {c : Composer} {session : Session} {r : Revision} {written : List Text}
    (hcommand : session.active = true → (written = [] ∧ Derived s session.captured r.text) ∨
      ∃ t ∈ written, Derived s session.captured t) :
    Standing s { composer := ({ c with session }.revise s r).1, written } := by
  obtain ⟨hsettled, hqueued⟩ := c.editor.scheduler.requestWrite_settled r.text r.cursor
  refine ⟨hsettled, ?_⟩
  intro hactive
  obtain ⟨hnone, hderived⟩ | hwritten := hcommand hactive
  · exact .inl ⟨hnone, r.text, hqueued, hderived⟩
  · exact .inr hwritten

theorem Standing.toggleDashboard (hw : w.Standing s) :
    Standing s { w with composer := (w.composer.toggleDashboard s).1 } := by
  rw [Composer.toggleDashboard]
  generalize w.composer.dashboard.toggle = toggled
  obtain ⟨dashboard, shown⟩ := toggled
  cases shown with
  | true =>
    obtain ⟨hsettled, hqueued⟩ := w.composer.editor.scheduler.requestRefresh_settled
    exact hw.of_same hsettled rfl rfl hqueued
  | false => exact hw.of_same hw.settled rfl rfl rfl

theorem Standing.key (hw : w.Standing s) (captured : Text) (action : KeyAction) :
    (w.next s (.key captured action)).Standing s := by
  have hwritten : w.written ++ w.composer.writes (.key captured action) = w.written :=
    List.append_nil _
  rw [next]
  obtain ⟨hnext, hcomposes⟩ | ⟨r, started, hcompose, hnext, hcomposes⟩ |
    ⟨toggle, flag, r, session, happly, hnext, hcomposes⟩ | ⟨hnext, hcomposes⟩ :=
    w.composer.next_key_cases (s := s) captured action
  · rw [hnext, hcomposes, hwritten]
    exact hw
  · rw [hnext, hcomposes]
    refine standing_revise fun _ => .inl ⟨rfl, ?_⟩
    rw [(Session.active_of_compose hcompose).2]
    exact .composed hcompose
  · obtain ⟨-, changed, -, -, -, hremember⟩ := Session.exists_of_apply happly
    have hcaptured : session.captured = w.composer.session.captured := by rw [hremember]; rfl
    rw [hnext, hcomposes, hwritten]
    refine standing_revise fun hactive => ?_
    have hbefore : w.composer.session.active = true := by rwa [hremember] at hactive
    rw [hcaptured]
    obtain ⟨hnone, t, ht, hderived⟩ | hthere := hw.command hbefore
    · -- the toggle acts on the queued command
      have hcurrent : w.composer.currentText = t := by
        rw [currentText, ht]
        rfl
      rw [hcurrent] at happly
      exact .inl ⟨hnone, .toggled hderived hbefore rfl happly⟩
    · exact .inr hthere
  · rw [hnext, hcomposes, hwritten]
    exact hw.toggleDashboard

theorem Standing.next (hw : w.Standing s) {e : Event} (hkeeps : ¬ w.Loses e) :
    (w.next s e).Standing s := by
  cases e with
  | entered => exact hw.of_same hw.settled rfl (List.append_nil _) rfl
  | left =>
    refine ⟨fun _ => rfl, ?_⟩
    intro hactive
    exact absurd hactive Bool.false_ne_true
  | typed line cursor => exact hw.typed hkeeps
  | key captured action => exact hw.key captured action
  | perform generation r => exact hw.perform hkeeps
  | expire generation live =>
    obtain ⟨hsettled, hqueued⟩ := hw.settled.expire generation
      (if live then some w.composer.editor.host.line else none)
    exact hw.of_same hsettled rfl (List.append_nil _) hqueued

theorem Loses.next (hsettled : w.composer.editor.scheduler.Settled) {e : Event}
    (hloses : w.Loses e) :
    (w.next s e).composer.session.active = true ∧ (w.next s e).written = [] ∧
      (w.next s e).composer.editor.scheduler.pendingText? = none := by
  obtain ⟨hactive, hnone, hdrops⟩ := hloses
  cases e with
  | typed line cursor =>
    have hguard : w.composer.editor.scheduler.guard = 0 := hdrops
    obtain ⟨-, hqueued⟩ := hsettled.lineChanged line
    rw [if_pos hguard] at hqueued
    refine ⟨hactive, ?_, hqueued⟩
    show w.written ++ [] = []
    rw [hnone]
    rfl
  | perform generation r =>
    obtain ⟨hgen, hfails⟩ := hdrops
    obtain ⟨-, hqueued⟩ := hsettled.perform generation r
    rw [if_pos hgen] at hqueued
    refine ⟨hactive, ?_, hqueued⟩
    show w.written ++ w.composer.writes (.perform generation r) = []
    rw [hnone, writes_perform, if_neg]
    · rfl
    · rintro ⟨-, hlive, hline⟩
      rcases hfails with h | h
      · exact absurd (h.symm.trans hlive) Bool.false_ne_true
      · exact absurd (h.symm.trans hline) Bool.false_ne_true
  | _ => exact hdrops.elim

/-! ### Runs -/

theorem Standing.after (hw : w.Standing s) {events : List Event}
    (hkeeps : ∀ past e, past ++ [e] <+: events → (w.after s past).Standing s →
      ¬ (w.after s past).Loses e) {past : List Event} (hpast : past <+: events) :
    (w.after s past).Standing s := by
  induction past using List.reverseRecOn with
  | nil => exact hw
  | append_singleton past e ih =>
    have hbefore := ih ((List.prefix_append past [e]).trans hpast)
    rw [after_concat]
    exact hbefore.next (hkeeps past e hpast hbefore)

end Watched

end Substitute
