import Substitute.Preview.Host
import Substitute.Proofs.Preview.Consistency

/-!
# How a queued write lands

On an editor that is there, listens and refuses nothing, a queued write lands in one go: the line is replaced, the synthetic pair of keys leaves it as it is, both echoes come at once, and the scheduler is idle again. Emptying the queue runs the one callback that counts; the others are stale.
-/

namespace Substitute

namespace Host

structure Obliging (h : Host) : Prop where
  live : h.live = true
  takesLine : h.rejectsLine = false
  takesKeys : h.rejectsKeys = false
  listens : h.listens = true

theorem Obliging.edited {h : Host} (hh : h.Obliging) (line : Text) (cursor : Int) (soon later : List Nat) :
    Obliging { h with line, cursor, soon, later } :=
  ⟨hh.live, hh.takesLine, hh.takesKeys, hh.listens⟩

theorem Obliging.absorb {h : Host} (hh : h.Obliging) (effect : Effect) :
    (h.absorb effect).Obliging := by
  have hsame : (h.absorb effect).live = h.live ∧ (h.absorb effect).rejectsLine = h.rejectsLine ∧
      (h.absorb effect).rejectsKeys = h.rejectsKeys ∧
      (h.absorb effect).listens = h.listens := by
    cases effect with
    | setLine text cursor =>
      rw [Host.absorb]
      split <;> exact ⟨rfl, rfl, rfl, rfl⟩
    | feed =>
      rw [Host.absorb]
      split <;> exact ⟨rfl, rfl, rfl, rfl⟩
    | _ => exact ⟨rfl, rfl, rfl, rfl⟩
  obtain ⟨hlive, hline, hkeys, hlistens⟩ := hsame
  exact ⟨hlive.trans hh.live, hline.trans hh.takesLine, hkeys.trans hh.takesKeys,
    hlistens.trans hh.listens⟩

theorem Obliging.absorb_all {h : Host} (hh : h.Obliging) (effects : List Effect) :
    (effects.foldl Host.absorb h).Obliging := by
  induction effects generalizing h with
  | nil => exact hh
  | cons effect rest ih => exact ih (hh.absorb effect)

private theorem soon_absorb (h : Host) (effect : Effect) :
    (h.absorb effect).soon = h.soon ++ effect.soon?.toList := by
  cases effect with
  | soon generation => rfl
  | setLine text cursor | feed =>
    rw [absorb]
    split <;> exact (List.append_nil _).symm
  | _ => exact (List.append_nil _).symm

private theorem later_absorb (h : Host) (effect : Effect) :
    (h.absorb effect).later = h.later ++ effect.later?.toList := by
  cases effect with
  | later generation => rfl
  | setLine text cursor | feed =>
    rw [absorb]
    split <;> exact (List.append_nil _).symm
  | _ => exact (List.append_nil _).symm

private theorem queues_absorb_all (h : Host) (effects : List Effect) :
    (effects.foldl Host.absorb h).soon = h.soon ++ effects.filterMap Effect.soon? ∧
      (effects.foldl Host.absorb h).later = h.later ++ effects.filterMap Effect.later? := by
  induction effects generalizing h with
  | nil => simp
  | cons effect rest ih =>
    obtain ⟨hsoon, hlater⟩ := ih (h.absorb effect)
    rw [List.foldl_cons, hsoon, hlater, soon_absorb, later_absorb, List.append_assoc,
      List.append_assoc]
    constructor
    · rw [List.filterMap_cons]
      cases effect.soon? <;> rfl
    · rw [List.filterMap_cons]
      cases effect.later? <;> rfl

/-- A space and a backspace leave line and cursor as they are, as long as the cursor is in the line. -/
theorem afterBackspace_afterSpace {line : Text} {cursor : Int} (hlow : 0 ≤ cursor)
    (hhigh : cursor ≤ line.length) :
    afterBackspace (afterSpace line cursor).1 (afterSpace line cursor).2 = (line, cursor) := by
  obtain ⟨n, rfl⟩ := Int.eq_ofNat_of_zero_le hlow
  have hn : n ≤ line.length := by omega
  have hat : clipPosition line n = n := by
    rw [clipPosition, if_neg (by omega), Int.toNat_natCast, Nat.min_eq_left hn]
  have hspaced : (line.take n ++ ' ' :: line.drop n).length = line.length + 1 := by
    rw [List.length_append, List.length_cons, List.length_take, List.length_drop]
    omega
  have hafter : clipPosition (line.take n ++ ' ' :: line.drop n) (n + 1) = n + 1 := by
    rw [clipPosition, if_neg (by omega), hspaced]
    omega
  have htake : (line.take n ++ ' ' :: line.drop n).take n = line.take n := by
    rw [List.take_append_of_le_length (by rw [List.length_take]; omega), List.take_take,
      Nat.min_self]
  have hdrop : (line.take n ++ ' ' :: line.drop n).drop (n + 1) = line.drop n := by
    rw [List.drop_append, List.drop_eq_nil_of_le (by rw [List.length_take]; omega),
      List.length_take, Nat.min_eq_left hn, Nat.add_sub_cancel_left, List.nil_append]
    rfl
  simp only [afterSpace, afterBackspace, hat]
  rw [if_pos (by omega), hafter, hdrop, Int.add_sub_cancel, Int.toNat_natCast, htake,
    List.take_append_drop]

theorem Obliging.reception {h : Host} (hh : h.Obliging) {pending : Option (Text × Int)}
    (hlow : 0 ≤ (pending.getD (h.line, h.cursor)).2)
    (hhigh : (pending.getD (h.line, h.cursor)).2 ≤ (pending.getD (h.line, h.cursor)).1.length) :
    h.reception pending = ⟨true, true, true,
      [(afterSpace (pending.getD (h.line, h.cursor)).1 (pending.getD (h.line, h.cursor)).2).1,
        (pending.getD (h.line, h.cursor)).1]⟩ := by
  simp only [Host.reception, hh.live, hh.takesLine, hh.takesKeys, hh.listens,
    afterBackspace_afterSpace hlow hhigh, Bool.not_false, Bool.and_self, if_true]

end Host

/-- The effects of a write that lands; `t` is the line it leaves. -/
def Scheduler.landing (s : Scheduler) (t : Text) : List Effect :=
  .invalidate :: handOver s.pending ++ [.later s.generation, .feed, .refresh t]

theorem Scheduler.perform_landing (s : Scheduler) (hguard : s.guard = 0) {r : Reception}
    (hlive : r.live = true) (hline : s.pending.isSome = true → r.acceptsLine = true)
    (hkeys : r.acceptsKeys = true) {spaced restored : Text} (hechoes : r.echoes = [spaced, restored]) :
    s.perform s.generation r = (s.reset, s.landing restored) := by
  rw [s.perform_accepted hlive hline, s.feed_at_once hguard s.generation hkeys hechoes]
  rfl

namespace Editor

/-- The scheduler of an editor with the callbacks that wait for it. -/
def flight (e : Editor) : Flight :=
  { scheduler := e.scheduler, soon := e.host.soon, later := e.host.later }

/-- Line and cursor once a queued write has landed. -/
def target (e : Editor) : Text × Int :=
  e.scheduler.pending.getD (e.host.line, e.host.cursor)

/-- An editor on which a write lands: obliging, with nothing left to be echoed, and with the cursor of the write in its line. -/
structure Willing (e : Editor) : Prop where
  obliging : e.host.Obliging
  quiet : e.scheduler.guard = 0
  cursor_nonneg : 0 ≤ e.target.2
  cursor_le : e.target.2 ≤ e.target.1.length

/-- A willing editor whose scheduler and callbacks agree. -/
structure Ready (e : Editor) : Prop extends Willing e where
  consistent : e.flight.Consistent

/-- What the scheduler does when a line editor lets it react is what it does on any host. -/
theorem flight_take (e : Editor) (h : Happening) (hsoon : e.flight.soonLeft h = e.host.soon)
    (hlater : e.flight.laterLeft h = e.host.later) :
    (e.take (e.scheduler.react h)).1.flight = e.flight.next h := by
  obtain ⟨soon, later⟩ := e.host.queues_absorb_all (e.scheduler.react h).2
  rw [Flight.next, hsoon, hlater]
  simp only [flight, take, soon, later]
  rfl

/-! ### Running one callback -/

theorem runSoon_stale (e : Editor) {generation : Nat} (hgen : generation ≠ e.scheduler.generation) :
    e.runSoon generation = (e, []) := by
  rw [runSoon, Scheduler.perform_stale _ hgen]
  rfl

theorem Willing.perform {e : Editor} (he : e.Willing) :
    e.scheduler.perform e.scheduler.generation (e.host.reception e.scheduler.pending) =
      (e.scheduler.reset, e.scheduler.landing e.target.1) := by
  rw [he.obliging.reception he.cursor_nonneg he.cursor_le]
  exact e.scheduler.perform_landing he.quiet rfl (fun _ => rfl) rfl rfl

theorem Willing.runSoon {e : Editor} (he : e.Willing) :
    e.runSoon e.scheduler.generation =
      ({ host :=
          { e.host with
            line := e.target.1
            cursor := e.target.2
            later := e.host.later ++ [e.scheduler.generation] }
         scheduler := e.scheduler.reset },
        e.scheduler.landing e.target.1) := by
  have hrestored := Host.afterBackspace_afterSpace he.cursor_nonneg he.cursor_le
  rw [Editor.runSoon, he.perform, Editor.take]
  refine Prod.ext ?_ rfl
  cases hpending : e.scheduler.pending with
  | none =>
    simp only [target, hpending, Option.getD_none] at hrestored ⊢
    simp [Scheduler.landing, hpending, Scheduler.handOver, Host.absorb, he.obliging.takesKeys, hrestored]
  | some write =>
    simp only [target, hpending, Option.getD_some] at hrestored ⊢
    simp [Scheduler.landing, hpending, Scheduler.handOver, Host.absorb, he.obliging.takesKeys,
      he.obliging.takesLine, hrestored]

/-! ### Emptying the queue -/

theorem runAll_stale (e : Editor) {generations : List Nat}
    (hstale : e.scheduler.generation ∉ generations) : runAll runSoon e generations = (e, []) := by
  induction generations with
  | nil => rfl
  | cons generation rest ih =>
    have hgen : generation ≠ e.scheduler.generation := by
      rintro rfl
      exact hstale List.mem_cons_self
    rw [runAll, runSoon_stale e hgen]
    simp only [ih fun hmem => hstale (List.mem_cons_of_mem _ hmem), List.append_nil]

private theorem generation_runSoon (e : Editor) :
    (e.runSoon e.scheduler.generation).1.scheduler.generation = e.scheduler.generation :=
  (e.scheduler.perform_current _).1

theorem runAll_current (e : Editor) {generations : List Nat}
    (hcount : generations.count e.scheduler.generation = 1) :
    runAll runSoon e generations = e.runSoon e.scheduler.generation := by
  induction generations with
  | nil => simp at hcount
  | cons generation rest ih =>
    by_cases hgen : generation = e.scheduler.generation
    · subst hgen
      rw [List.count_cons_self, Nat.add_eq_right, List.count_eq_zero] at hcount
      rw [runAll]
      have hrest : (e.runSoon e.scheduler.generation).1.scheduler.generation ∉ rest := by
        rw [generation_runSoon]
        exact hcount
      simp only [runAll_stale _ hrest, List.append_nil]
    · rw [List.count_cons_of_ne hgen] at hcount
      rw [runAll, runSoon_stale e hgen]
      simp only [ih hcount, List.nil_append]

theorem Ready.drainSoon_pending {e : Editor} (he : e.Ready)
    (hphase : e.scheduler.phase = .pendingWrite) :
    e.drainSoon =
      ({ host :=
          { e.host with
            line := e.target.1
            cursor := e.target.2
            soon := []
            later := e.host.later ++ [e.scheduler.generation] }
         scheduler := e.scheduler.reset },
        e.scheduler.landing e.target.1) := by
  have hcount : e.host.soon.count e.scheduler.generation = 1 := by
    have hqueued := he.consistent.queued
    simpa only [flight, hphase, if_true] using hqueued
  have emptied : Willing { e with host := { e.host with soon := [] } } :=
    ⟨he.obliging.edited _ _ _ _, he.quiet, he.cursor_nonneg, he.cursor_le⟩
  rw [drainSoon, runAll_current { e with host := { e.host with soon := [] } } hcount]
  exact emptied.runSoon

theorem Ready.drainSoon_idle {e : Editor} (he : e.Ready)
    (hphase : e.scheduler.phase ≠ .pendingWrite) :
    e.drainSoon = ({ e with host := { e.host with soon := [] } }, []) := by
  have hcount : e.host.soon.count e.scheduler.generation = 0 := by
    have hqueued := he.consistent.queued
    simpa only [flight, hphase, if_false] using hqueued
  exact runAll_stale { e with host := { e.host with soon := [] } } (List.count_eq_zero.mp hcount)

theorem Ready.drainSoon {e : Editor} (he : e.Ready) : e.drainSoon.1.Ready := by
  by_cases hphase : e.scheduler.phase = .pendingWrite
  · rw [he.drainSoon_pending hphase]
    refine ⟨⟨he.obliging.edited _ _ _ _, rfl, he.cursor_nonneg, he.cursor_le⟩,
      ⟨fun _ => rfl, by simp [flight, Scheduler.reset], fun _ => rfl,
        by simp [flight, Scheduler.reset], by simp [flight], ?_⟩⟩
    intro generation hmem
    rcases List.mem_append.mp hmem with hold | hnew
    · exact he.consistent.later_le generation hold
    · exact Nat.le_of_eq (List.mem_singleton.mp hnew)
  · rw [he.drainSoon_idle hphase]
    refine ⟨⟨he.obliging.edited _ _ _ _, he.quiet, he.cursor_nonneg, he.cursor_le⟩,
      ⟨he.consistent.idle, he.consistent.suppressing, he.consistent.pending, ?_,
        by simp [flight], he.consistent.later_le⟩⟩
    simp [flight, hphase]

/-! ### Requests -/

theorem ready_write {e : Editor} (obliging : e.host.Obliging) (quiet : e.scheduler.guard = 0)
    (consistent : e.flight.Consistent) {text : Text} {cursor : Int} (hlow : 0 ≤ cursor)
    (hhigh : cursor ≤ text.length) : (e.take (e.scheduler.requestWrite text cursor)).1.Ready where
  obliging := obliging.absorb_all _
  quiet := quiet
  cursor_nonneg := hlow
  cursor_le := hhigh
  consistent := by
    have hnext := e.flight_take (.write text cursor) rfl rfl
    rw [Scheduler.react] at hnext
    rw [hnext]
    exact consistent.write text cursor

theorem Ready.write {e : Editor} (he : e.Ready) {text : Text} {cursor : Int} (hlow : 0 ≤ cursor)
    (hhigh : cursor ≤ text.length) : (e.take (e.scheduler.requestWrite text cursor)).1.Ready :=
  ready_write he.obliging he.quiet he.consistent hlow hhigh

theorem Ready.refresh_eq {e : Editor} (he : e.Ready) :
    e.take e.scheduler.requestRefresh = e.take e.scheduler.schedule := by
  have hrequest : e.scheduler.requestRefresh = e.scheduler.schedule :=
    he.consistent.requestRefresh_eq
  rw [hrequest]

theorem Ready.target_refresh {e : Editor} (he : e.Ready) :
    (e.take e.scheduler.requestRefresh).1.target = e.target := by
  rw [he.refresh_eq]
  rfl

theorem Ready.refresh {e : Editor} (he : e.Ready) :
    (e.take e.scheduler.requestRefresh).1.Ready where
  obliging := he.obliging.absorb_all _
  quiet := by
    rw [he.refresh_eq]
    exact he.quiet
  cursor_nonneg := by
    rw [he.target_refresh]
    exact he.cursor_nonneg
  cursor_le := by
    rw [he.target_refresh]
    exact he.cursor_le
  consistent := by
    have hnext := e.flight_take .refresh rfl rfl
    rw [Scheduler.react] at hnext
    rw [hnext]
    exact he.consistent.refresh

end Editor

end Substitute
