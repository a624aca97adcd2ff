import Substitute.Proofs.Preview.Flight

/-!
# The scheduler and its callbacks agree

The phase says which callback is waiting. While a write is queued exactly one callback of the next turn carries the current generation, and otherwise none does; while echoes are awaited the timeout of the current generation is still to run. No callback is ahead of the scheduler. This holds on every host, so a scheduler that is not idle always has a callback that will release it.
-/

namespace Substitute

namespace Flight

/-- The scheduler and the callbacks that wait for it agree. -/
structure Consistent (f : Flight) : Prop where
  idle : f.scheduler.phase = .idle → f.scheduler.guard = 0
  suppressing : f.scheduler.phase = .suppressingEcho →
    0 < f.scheduler.guard ∧ f.scheduler.generation ∈ f.later
  pending : f.scheduler.phase ≠ .pendingWrite → f.scheduler.pending = none
  queued : f.soon.count f.scheduler.generation = if f.scheduler.phase = .pendingWrite then 1 else 0
  soon_le : ∀ generation ∈ f.soon, generation ≤ f.scheduler.generation
  later_le : ∀ generation ∈ f.later, generation ≤ f.scheduler.generation

namespace Consistent

variable {f : Flight}

theorem phase_of_mem_soon (hf : f.Consistent) (hmem : f.scheduler.generation ∈ f.soon) :
    f.scheduler.phase = .pendingWrite := by
  have hcount := List.count_pos_iff.mpr hmem
  rw [hf.queued] at hcount
  by_contra hphase
  rw [if_neg hphase] at hcount
  omega

theorem mem_soon_iff (hf : f.Consistent) :
    f.scheduler.generation ∈ f.soon ↔ f.scheduler.phase = .pendingWrite := by
  refine ⟨hf.phase_of_mem_soon, fun hphase => List.count_pos_iff.mp ?_⟩
  rw [hf.queued, if_pos hphase]
  exact Nat.one_pos

theorem count_soon_of_lt (hf : f.Consistent) {generation : Nat}
    (hlt : f.scheduler.generation < generation) : f.soon.count generation = 0 := by
  rw [List.count_eq_zero]
  intro hmem
  have := hf.soon_le generation hmem
  omega

/-! ### Each happening keeps the agreement -/

private theorem opened (hf : f.Consistent) (s : Scheduler)
    (hgen : s.generation = f.scheduler.generation) :
    Consistent
      { scheduler := s.schedule.1, soon := f.soon ++ [s.generation + 1], later := f.later } where
  idle := by simp [Scheduler.schedule]
  suppressing := by simp [Scheduler.schedule]
  pending := by simp [Scheduler.schedule]
  queued := by
    have hnone := hf.count_soon_of_lt (Nat.lt_succ_self _)
    simpa [Scheduler.schedule, List.count_append, hgen] using hnone
  soon_le := by
    intro generation hmem
    rcases List.mem_append.mp hmem with hold | hnew
    · have := hf.soon_le generation hold
      change generation ≤ s.generation + 1
      omega
    · exact Nat.le_of_eq (List.mem_singleton.mp hnew)
  later_le := by
    intro generation hmem
    have := hf.later_le generation hmem
    change generation ≤ s.generation + 1
    omega

theorem write (hf : f.Consistent) (text : Text) (cursor : Int) :
    (f.next (.write text cursor)).Consistent := by
  rw [next_write]
  exact hf.opened { f.scheduler with pending := some (text, cursor) } rfl

theorem requestRefresh_eq (hf : f.Consistent) :
    f.scheduler.requestRefresh = f.scheduler.schedule := by
  rw [Scheduler.requestRefresh]
  split
  · rfl
  · rename_i hphase
    rw [← hf.pending hphase]

theorem refresh (hf : f.Consistent) : (f.next .refresh).Consistent := by
  rw [next_refresh, hf.requestRefresh_eq]
  exact hf.opened f.scheduler rfl

private theorem dropped (hf : f.Consistent) {s : Scheduler} (hphase : s.phase = .idle)
    (hguard : s.guard = 0) (hpending : s.pending = none)
    (hgen : f.scheduler.generation < s.generation) :
    Consistent { f with scheduler := s } where
  idle := fun _ => hguard
  suppressing := by simp [hphase]
  pending := fun _ => hpending
  queued := by
    rw [if_neg (by simp [hphase])]
    exact hf.count_soon_of_lt hgen
  soon_le := fun generation hmem => Nat.le_trans (hf.soon_le generation hmem) (Nat.le_of_lt hgen)
  later_le := fun generation hmem => Nat.le_trans (hf.later_le generation hmem) (Nat.le_of_lt hgen)

theorem cancel (hf : f.Consistent) : (f.next .cancel).Consistent := by
  rw [next_cancel]
  exact hf.dropped rfl rfl rfl (Nat.lt_succ_self _)

theorem change (hf : f.Consistent) (text : Text) : (f.next (.change text)).Consistent := by
  rw [next_change]
  rcases Nat.eq_zero_or_pos f.scheduler.guard with hguard | hguard
  · rw [Scheduler.lineChanged_typing _ hguard]
    by_cases hphase : f.scheduler.phase = .pendingWrite
    · exact hf.dropped (by simp [hphase]) hguard (by simp [hphase]) (by simp [hphase])
    · simpa only [hphase, if_false] using hf
  · rw [Scheduler.lineChanged_echo _ hguard]
    have hbusy : f.scheduler.phase ≠ .idle := fun h => by
      have := hf.idle h
      omega
    split
    · rename_i hlast
      have hqueued := hf.queued
      simp only [hlast.2, reduceCtorEq, if_false] at hqueued
      exact ⟨fun _ => rfl, by simp, fun _ => hf.pending (by simp [hlast.2]), by simpa using hqueued,
        hf.soon_le, hf.later_le⟩
    · rename_i hmore
      refine ⟨fun h => absurd h hbusy, fun h => ⟨?_, (hf.suppressing h).2⟩, hf.pending, hf.queued,
        hf.soon_le, hf.later_le⟩
      have hmany : f.scheduler.guard ≠ 1 := fun hone => hmore ⟨hone, h⟩
      change 0 < f.scheduler.guard - 1
      omega

private theorem later_le_perform (hf : f.Consistent) (r : Reception) :
    ∀ generation ∈ f.later ++ (f.scheduler.perform f.scheduler.generation r).2.filterMap
      Effect.later?, generation ≤ f.scheduler.generation := by
  intro generation hmem
  rcases List.mem_append.mp hmem with hold | hnew
  · exact hf.later_le generation hold
  · obtain ⟨effect, heffect, hlater⟩ := List.mem_filterMap.mp hnew
    rcases f.scheduler.mem_perform_effects heffect with rfl | hline | rfl | rfl | ⟨text, rfl⟩
    · simp at hlater
    · obtain ⟨write, -, rfl⟩ := List.mem_map.mp hline
      simp at hlater
    · exact Nat.le_of_eq (Option.some.inj hlater).symm
    · simp at hlater
    · simp at hlater

theorem perform (hf : f.Consistent) {generation : Nat} (hmem : generation ∈ f.soon)
    (r : Reception) : (f.next (.perform generation r)).Consistent := by
  rw [next_perform]
  have hsoon : ∀ g ∈ f.soon.erase generation, g ≤ f.scheduler.generation :=
    fun g hg => hf.soon_le g (List.mem_of_mem_erase hg)
  by_cases hgen : generation = f.scheduler.generation
  · subst hgen
    obtain ⟨hsame, hpending, hstate⟩ := f.scheduler.perform_current r
    have hqueued : (f.soon.erase f.scheduler.generation).count f.scheduler.generation = 0 := by
      rw [List.count_erase_self, hf.queued, if_pos (hf.phase_of_mem_soon hmem)]
    have hlater := hf.later_le_perform r
    rcases hstate with ⟨hphase, hguard⟩ | ⟨hphase, hguard, hwait⟩
    · refine ⟨fun _ => hguard, by simp [hphase], fun _ => hpending, ?_, ?_, ?_⟩ <;> rw [hsame]
      · rw [hphase]
        exact hqueued
      · exact hsoon
      · exact hlater
    · have hawaited : f.scheduler.generation ∈ f.later ++
          (f.scheduler.perform f.scheduler.generation r).2.filterMap Effect.later? :=
        List.mem_append_right _ (List.mem_filterMap.mpr ⟨_, hwait, rfl⟩)
      refine ⟨by simp [hphase], fun _ => ⟨hguard, ?_⟩, fun _ => hpending, ?_, ?_, ?_⟩ <;> rw [hsame]
      · exact hawaited
      · rw [hphase]
        exact hqueued
      · exact hsoon
      · exact hlater
  · rw [Scheduler.perform_stale _ hgen, List.filterMap_nil, List.append_nil]
    refine ⟨hf.idle, hf.suppressing, hf.pending, ?_, hsoon, hf.later_le⟩
    rw [List.count_erase_of_ne (Ne.symm hgen)]
    exact hf.queued

theorem expire (hf : f.Consistent) (generation : Nat) (line : Option Text) :
    (f.next (.expire generation line)).Consistent := by
  rw [next_expire]
  rcases f.scheduler.expire_cases generation line with ⟨hidle, h⟩ | ⟨-, hphase, h⟩
  · rw [h]
    refine ⟨hf.idle, fun hphase => ⟨(hf.suppressing hphase).1, ?_⟩, hf.pending, hf.queued,
      hf.soon_le, fun g hg => hf.later_le g (List.mem_of_mem_erase hg)⟩
    have hne : f.scheduler.generation ≠ generation := fun he => hidle he.symm hphase
    exact (List.mem_erase_of_ne hne).mpr (hf.suppressing hphase).2
  · rw [h]
    have hqueued := hf.queued
    simp only [hphase, reduceCtorEq, if_false] at hqueued
    exact ⟨fun _ => rfl, by simp, fun _ => hf.pending (by simp [hphase]), by simpa using hqueued,
      hf.soon_le, fun g hg => hf.later_le g (List.mem_of_mem_erase hg)⟩

theorem next (hf : f.Consistent) (h : Happening) (allowed : f.Allows h) :
    (f.next h).Consistent := by
  cases h with
  | write text cursor => exact hf.write text cursor
  | refresh => exact hf.refresh
  | change text => exact hf.change text
  | cancel => exact hf.cancel
  | perform generation r => exact hf.perform allowed r
  | expire generation line => exact hf.expire generation line

end Consistent

end Flight

theorem Run.consistent {history : List Occurrence} {f : Flight} (run : Run history f) :
    f.Consistent :=
  run.induct
    ⟨fun _ => rfl, by simp, fun _ => rfl, by simp, by simp, by simp⟩
    fun _ h hf allowed => hf.next h allowed

/-- On every host the phase tells which callbacks wait, no callback is ahead of the scheduler, and a scheduler that is not idle has a callback whose run takes it on: a queued write is carried out or dropped, and a wait for echoes ends. -/
theorem Run.phase_tells_callbacks {history : List Occurrence} {f : Flight} (run : Run history f) :
    (f.scheduler.phase = .idle → f.scheduler.guard = 0) ∧
    (f.scheduler.phase = .suppressingEcho →
      0 < f.scheduler.guard ∧ f.scheduler.generation ∈ f.later) ∧
    (∀ write, f.scheduler.pending = some write → f.scheduler.phase = .pendingWrite) ∧
    (f.scheduler.phase = .pendingWrite ↔ f.soon.count f.scheduler.generation = 1) ∧
    (∀ generation, generation ∈ f.soon ∨ generation ∈ f.later →
      generation ≤ f.scheduler.generation) ∧
    (f.scheduler.phase ≠ .idle →
      (f.scheduler.generation ∈ f.soon ∧ ∀ r,
        (f.next (.perform f.scheduler.generation r)).scheduler.phase ≠ .pendingWrite) ∨
      (f.scheduler.generation ∈ f.later ∧ ∀ line,
        (f.next (.expire f.scheduler.generation line)).scheduler.phase = .idle)) := by
  have hf := run.consistent
  refine ⟨hf.idle, hf.suppressing, ?_, ⟨?_, ?_⟩, ?_, ?_⟩
  · intro write hpending
    by_contra hphase
    rw [hf.pending hphase] at hpending
    simp at hpending
  · intro hphase
    rw [hf.queued, if_pos hphase]
  · intro hcount
    exact hf.phase_of_mem_soon (List.count_pos_iff.mp (by omega))
  · rintro generation (hmem | hmem)
    · exact hf.soon_le generation hmem
    · exact hf.later_le generation hmem
  · intro hbusy
    cases hphase : f.scheduler.phase with
    | idle => exact absurd hphase hbusy
    | pendingWrite =>
      refine .inl ⟨List.count_pos_iff.mp ?_, fun r => ?_⟩
      · rw [hf.queued, if_pos hphase]
        exact Nat.one_pos
      · rw [Flight.next_perform]
        rcases (f.scheduler.perform_current r).2.2 with ⟨h, -⟩ | ⟨h, -⟩ <;> simp [h]
    | suppressingEcho =>
      refine .inr ⟨(hf.suppressing hphase).2, fun line => ?_⟩
      rw [Flight.next_expire]
      rcases f.scheduler.expire_cases f.scheduler.generation line with ⟨h, -⟩ | ⟨-, -, h⟩
      · exact absurd hphase (h rfl)
      · rw [h]

theorem phase_tells_callbacks_before_late_echo :
    let happenings : List Happening :=
      [.write ['a'] 1, .perform 1 ⟨true, true, true, []⟩, .change ['a', ' '], .write ['b'] 1]
    let f := ({} : Flight).after happenings
    ({} : Flight).Possible happenings ∧ f.scheduler.guard = 1 ∧
      f.scheduler.phase = .pendingWrite ∧ f.soon.count f.scheduler.generation = 1 :=
  ⟨by decide, rfl, rfl,
    ((Run.start.extend (by decide)).phase_tells_callbacks).2.2.2.1.mp rfl⟩

end Substitute
