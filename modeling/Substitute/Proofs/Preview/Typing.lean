import Substitute.Proofs.Preview.Consistency

/-!
# Typing wins over queued writes

A host that echoes the fed keys before it is done with them leaves no echo behind, so between its happenings the guard is down and every change event is the user's own. Such an event closes the generation of a queued write. Generations only grow, so a callback that waited then is stale for good: it never touches the line again, however late it runs.
-/

namespace Substitute

/-- Whether the host delivers one change event for each of the two fed keys before it is done with them, unless it refuses them. -/
def Happening.EchoesAtOnce : Happening → Prop
  | .perform _ r => r.live = true → r.acceptsKeys = true → r.echoes.length = 2
  | _ => True

namespace Scheduler

private theorem generation_le_react (s : Scheduler) (h : Happening) :
    s.generation ≤ (s.react h).1.generation := by
  cases h with
  | write text cursor => exact Nat.le_succ _
  | refresh =>
    simp only [react, requestRefresh, schedule]
    split <;> exact Nat.le_succ _
  | cancel => exact Nat.le_succ _
  | change text =>
    rw [react]
    rcases Nat.eq_zero_or_pos s.guard with hguard | hguard
    · rw [lineChanged_typing s hguard]
      change _ ≤ if _ then _ else _
      split
      · exact Nat.le_succ _
      · exact Nat.le_refl _
    · rw [lineChanged_echo s hguard]
      split <;> exact Nat.le_refl _
  | perform generation r =>
    rw [react]
    by_cases hgen : generation = s.generation
    · subst hgen
      exact Nat.le_of_eq (s.perform_current r).1.symm
    · exact Nat.le_of_eq (by rw [perform_stale s hgen])
  | expire generation line =>
    rw [react]
    rcases s.expire_cases generation line with ⟨-, h⟩ | ⟨-, -, h⟩
    · exact Nat.le_of_eq (by rw [h])
    · exact Nat.le_of_eq (by rw [h])

/-- Nothing that was fed is still to be echoed. -/
def Quiet (s : Scheduler) : Prop :=
  s.guard = 0 ∧ s.phase ≠ .suppressingEcho

theorem Quiet.react {s : Scheduler} (quiet : s.Quiet) (h : Happening) (atOnce : h.EchoesAtOnce) :
    (s.react h).1.Quiet := by
  obtain ⟨hguard, hphase⟩ := quiet
  cases h with
  | write text cursor => exact ⟨hguard, by simp [Scheduler.react, requestWrite, schedule]⟩
  | refresh =>
    simp only [Quiet, Scheduler.react, requestRefresh, schedule]
    split <;> exact ⟨hguard, by simp⟩
  | cancel => exact ⟨rfl, by simp [Scheduler.react, cancel, reset]⟩
  | change text =>
    rw [Scheduler.react, lineChanged_typing s hguard]
    refine ⟨hguard, ?_⟩
    change (if _ then _ else _) ≠ Phase.suppressingEcho
    split
    · simp
    · exact hphase
  | perform generation r => exact s.perform_at_once hguard hphase generation r atOnce
  | expire generation line =>
    rw [Scheduler.react]
    rcases s.expire_cases generation line with ⟨-, h⟩ | ⟨-, hwaiting, -⟩
    · rw [h]
      exact ⟨hguard, hphase⟩
    · exact absurd hwaiting hphase

end Scheduler

private theorem Flight.Consistent.lt_of_typing {f : Flight} (hf : f.Consistent) (hguard : f.scheduler.guard = 0)
    {generation : Nat} (hmem : generation ∈ f.soon) (text : Text) :
    generation < (f.next (.change text)).scheduler.generation := by
  have hle := hf.soon_le generation hmem
  rw [Flight.next_change, Scheduler.lineChanged_typing _ hguard]
  change generation < if _ then _ else _
  split
  · exact Nat.lt_succ_of_le hle
  · rename_i hphase
    refine Nat.lt_of_le_of_ne hle fun heq => hphase (hf.phase_of_mem_soon ?_)
    rw [← heq]
    exact hmem

theorem Run.quiet {history : List Occurrence} {f : Flight} (run : Run history f)
    (atOnce : ∀ o ∈ history, o.happening.EchoesAtOnce) : f.scheduler.Quiet := by
  induction run with
  | start => exact ⟨rfl, by simp⟩
  | next h run allowed ih =>
    refine Scheduler.Quiet.react (ih fun o ho => atOnce o (List.mem_append_left _ ho)) h ?_
    exact atOnce _ (List.mem_append_right _ (List.mem_singleton_self _))

/-- On a host that echoes at once, every change event between its happenings is the user's and redraws the preview from its text, and no callback that waited then ever replaces the line or types on it. -/
theorem Run.typing_outlives_writes {history : List Occurrence} {f : Flight} (run : Run history f)
    (atOnce : ∀ o ∈ history, o.happening.EchoesAtOnce) :
    f.scheduler.guard = 0 ∧
    (∀ o ∈ history, ∀ text, o.happening = .change text →
      o.before.scheduler.awaitsEcho = false ∧ o.effects = [.refresh text]) ∧
    (∀ (i j : Nat) (o p : Occurrence) (text : Text), i < j → history[i]? = some o →
      history[j]? = some p → o.happening = .change text →
      (∀ generation r, p.happening = .perform generation r → generation ∈ o.before.soon →
        ∀ effect ∈ p.effects, effect.touchesLine = false) ∧
      (∀ generation line, p.happening = .expire generation line → generation ∈ o.before.later →
        ∀ effect ∈ p.effects, effect.touchesLine = false)) := by
  have quiet : ∀ (j : Nat) (o : Occurrence), history[j]? = some o → o.before.scheduler.guard = 0 :=
    fun j o hj => ((run.take hj).1.quiet fun o ho => atOnce o (List.mem_of_mem_take ho)).1
  refine ⟨(run.quiet atOnce).1, ?_, ?_⟩
  · intro o ho text htext
    obtain ⟨j, hj⟩ := List.getElem?_of_mem ho
    have hguard := quiet j o hj
    refine ⟨by simp [Scheduler.awaitsEcho, hguard], ?_⟩
    rw [Occurrence.effects, Flight.effects, htext, Scheduler.react,
      Scheduler.lineChanged_typing _ hguard]
  · intro i j o p text hij hi hj htext
    refine ⟨fun generation r hperform hmem effect heffect => ?_,
      fun generation line hexpire _ effect heffect => ?_⟩
    · have hpast := (run.take hi).1.consistent.lt_of_typing (quiet i o hi) hmem text
      have hprefix : (history.take j)[i]? = some o := by
        rw [List.getElem?_take_of_lt hij, hi]
      -- typing leaves the callback behind, and no later happening lets it catch up
      have hstale : generation < p.before.scheduler.generation := by
        refine Run.since (Q := fun f => generation < f.scheduler.generation)
          (fun f h hlt => Nat.lt_of_lt_of_le hlt (f.scheduler.generation_le_react h)) (run.take hj).1 hprefix ?_
        rw [Occurrence.after, htext]
        exact hpast
      rw [Occurrence.effects, Flight.effects, hperform, Scheduler.react,
        Scheduler.perform_stale _ (Nat.ne_of_lt hstale)] at heffect
      simp at heffect
    · rw [Occurrence.effects, Flight.effects, hexpire, Scheduler.react] at heffect
      rcases p.before.scheduler.expire_cases generation line with ⟨-, h⟩ | ⟨-, -, h⟩
      · simp [h] at heffect
      · rw [h] at heffect
        obtain ⟨text, -, rfl⟩ := List.mem_map.mp heffect
        rfl

theorem typing_outlives_writes_late_callback :
    let willing : Reception := ⟨true, true, true, [['x', ' '], ['x']]⟩
    let happenings : List Happening := [.write ['a'] 1, .change ['x'], .perform 1 willing]
    ({} : Flight).Possible happenings ∧
      (∀ o ∈ ({} : Flight).occurrences happenings, o.happening.EchoesAtOnce) ∧
      ∀ effect ∈ (({} : Flight).after [.write ['a'] 1, .change ['x']]).effects (.perform 1 willing),
        effect.touchesLine = false := by
  intro willing happenings
  have possible : ({} : Flight).Possible happenings := by decide
  have atOnce : ∀ o ∈ ({} : Flight).occurrences happenings, o.happening.EchoesAtOnce := by
    simp [happenings, willing, Flight.occurrences, Happening.EchoesAtOnce]
  have run := Run.start.extend possible
  obtain ⟨-, -, hlate⟩ := run.typing_outlives_writes atOnce
  exact ⟨possible, atOnce, (hlate 1 2 _ _ ['x'] (by decide) rfl rfl rfl).1 1 willing rfl (by decide)⟩

end Substitute
