import Substitute.Preview.Scheduler

/-!
# What a step of the scheduler can do

Each operation of the scheduler read once: how change events count the guard down, and the four ways a callback of the next turn can end. Whoever reasons about runs uses these readings and does not open the operations.
-/

namespace Substitute

namespace Effect

@[simp] def soon? : Effect → Option Nat
  | .soon generation => some generation
  | _ => none

@[simp] def later? : Effect → Option Nat
  | .later generation => some generation
  | _ => none

@[simp] def written? : Effect → Option (Text × Int)
  | .setLine text cursor => some (text, cursor)
  | _ => none

def touchesLine : Effect → Bool
  | .setLine _ _ | .feed => true
  | _ => false

end Effect

namespace Scheduler

variable (s : Scheduler)

/-! ### Change events -/

theorem lineChanged_typing (hguard : s.guard = 0) (text : Text) :
    s.lineChanged text =
      ({ s with
          phase := if s.phase = .pendingWrite then .idle else s.phase
          generation := if s.phase = .pendingWrite then s.generation + 1 else s.generation
          pending := if s.phase = .pendingWrite then none else s.pending },
        [.refresh text]) := by
  rw [lineChanged, if_pos hguard]
  by_cases hphase : s.phase = .pendingWrite
  · simp only [hphase, if_true]
  · simp only [hphase, if_false]

theorem lineChanged_echo (hguard : 0 < s.guard) (text : Text) :
    s.lineChanged text =
      if s.guard = 1 ∧ s.phase = .suppressingEcho then
        ({ s with phase := .idle, guard := 0 }, [.refresh text])
      else ({ s with guard := s.guard - 1 }, []) := by
  have hne : s.guard ≠ 0 := by omega
  by_cases hlast : s.guard = 1 ∧ s.phase = .suppressingEcho
  · simp [lineChanged, hlast]
  · rw [if_neg hlast, lineChanged, if_neg hne, if_neg (by simpa using hlast)]

theorem lineChanged_effects (text : Text) :
    (s.lineChanged text).2 = [.refresh text] ∨ (s.lineChanged text).2 = [] := by
  rcases Nat.eq_zero_or_pos s.guard with hguard | hguard
  · exact .inl (by rw [lineChanged_typing s hguard])
  · rw [lineChanged_echo s hguard]
    split
    · exact .inl rfl
    · exact .inr rfl

theorem linesChanged_cons (text : Text) (rest : List Text) :
    s.linesChanged (text :: rest) =
      (((s.lineChanged text).1.linesChanged rest).1,
        (s.lineChanged text).2 ++ ((s.lineChanged text).1.linesChanged rest).2) := by
  rfl

theorem linesChanged_effects (texts : List Text) :
    ∀ effect ∈ (s.linesChanged texts).2, ∃ text, effect = .refresh text := by
  induction texts generalizing s with
  | nil => simp [linesChanged]
  | cons text rest ih =>
    intro effect hmem
    rw [linesChanged_cons, List.mem_append] at hmem
    rcases hmem with hmem | hmem
    · rcases lineChanged_effects s text with h | h
      · exact ⟨text, by simpa [h] using hmem⟩
      · simp [h] at hmem
    · exact ih _ effect hmem

theorem linesChanged_idle (hphase : s.phase = .idle) (hguard : s.guard = 0) (texts : List Text) :
    (s.linesChanged texts).1 = s := by
  induction texts with
  | nil => rfl
  | cons text rest ih =>
    have hsame : (s.lineChanged text).1 = s := by
      simp only [lineChanged_typing s hguard, hphase, reduceCtorEq, if_false]
      rw [← hphase]
    rw [linesChanged_cons, hsame]
    exact ih

/-- Echoes count the guard down; when all of them have come nothing is awaited any more. -/
theorem linesChanged_suppressing (hphase : s.phase = .suppressingEcho) (hguard : 0 < s.guard)
    (texts : List Text) :
    (s.linesChanged texts).1 =
      if texts.length < s.guard then { s with guard := s.guard - texts.length }
      else { s with phase := .idle, guard := 0 } := by
  induction texts generalizing s with
  | nil => simp [linesChanged, hguard]
  | cons text rest ih =>
    rw [linesChanged_cons, lineChanged_echo s hguard]
    by_cases hlast : s.guard = 1
    · have hidle := linesChanged_idle { s with phase := .idle, guard := 0 } rfl rfl rest
      rw [if_pos ⟨hlast, hphase⟩, if_neg (by simp [hlast])]
      exact hidle
    · have hrest := ih { s with guard := s.guard - 1 } hphase (by change 0 < s.guard - 1; omega)
      rw [if_neg (by simp [hlast])]
      refine hrest.trans ?_
      have hlt : rest.length < s.guard - 1 ↔ (text :: rest).length < s.guard := by
        rw [List.length_cons]
        omega
      have hsub : s.guard - 1 - rest.length = s.guard - (text :: rest).length := by
        rw [List.length_cons]
        omega
      simp only [hlt, hsub]

/-! ### Deferred writes -/

def handOver (pending : Option (Text × Int)) : List Effect :=
  pending.toList.map fun write => .setLine write.1 write.2

theorem feed_state (generation : Nat) (r : Reception) :
    (s.feed generation r).1.generation = s.generation ∧ (s.feed generation r).1.pending = none ∧
      ((s.feed generation r).1.phase = .idle ∧ (s.feed generation r).1.guard = 0 ∨
        (s.feed generation r).1.phase = .suppressingEcho ∧ 0 < (s.feed generation r).1.guard) := by
  have hechoed := linesChanged_suppressing s.armed rfl (by simp [armed]) r.echoes
  simp only [feed, hechoed]
  by_cases hkeys : r.acceptsKeys = true
  · rw [if_pos hkeys]
    by_cases hfew : r.echoes.length < s.armed.guard
    · rw [if_pos hfew]
      exact ⟨rfl, rfl, .inr ⟨rfl, by change 0 < s.armed.guard - r.echoes.length; omega⟩⟩
    · rw [if_neg hfew]
      exact ⟨rfl, rfl, .inl ⟨rfl, rfl⟩⟩
  · rw [if_neg hkeys]
    refine ⟨?_, rfl, .inl ⟨rfl, rfl⟩⟩
    split <;> rfl

@[simp] theorem feed_effects (generation : Nat) (r : Reception) :
    (s.feed generation r).2 = .later generation :: .feed :: (s.armed.linesChanged r.echoes).2 := by
  rfl

/-- When a host echoes both keys before it is done with them, nothing is awaited, and the second echo redraws the preview. -/
theorem feed_at_once (hguard : s.guard = 0) (generation : Nat) {r : Reception}
    (hkeys : r.acceptsKeys = true) {spaced restored : Text} (hechoes : r.echoes = [spaced, restored]) :
    s.feed generation r = (s.reset, [.later generation, .feed, .refresh restored]) := by
  simp only [feed, hechoes, hkeys, linesChanged, armed, lineChanged, hguard]
  rfl

theorem perform_stale {generation : Nat} (hgen : generation ≠ s.generation) (r : Reception) :
    s.perform generation r = (s, []) := by
  simp [perform, hgen]

@[simp] theorem perform_dead {r : Reception} (hlive : r.live = false) :
    s.perform s.generation r = (s.reset, []) := by
  simp [perform, hlive]

theorem perform_accepted {r : Reception} (hlive : r.live = true)
    (hline : s.pending.isSome = true → r.acceptsLine = true) :
    s.perform s.generation r =
      ((s.feed s.generation r).1, .invalidate :: handOver s.pending ++ (s.feed s.generation r).2) := by
  cases hpending : s.pending with
  | none => simp [perform, hlive, hpending, handOver]
  | some write =>
    rw [hpending] at hline
    simp [perform, hlive, hpending, hline rfl, handOver]

theorem perform_refused {r : Reception} (hlive : r.live = true) (hpending : s.pending.isSome = true)
    (hline : r.acceptsLine = false) :
    s.perform s.generation r = (s.reset, .invalidate :: handOver s.pending) := by
  obtain ⟨write, hwrite⟩ := Option.isSome_iff_exists.mp hpending
  simp [perform, hlive, hwrite, hline, handOver]

theorem perform_cases (generation : Nat) (r : Reception) :
    (generation ≠ s.generation ∧ s.perform generation r = (s, [])) ∨
    (generation = s.generation ∧ r.live = false ∧ s.perform generation r = (s.reset, [])) ∨
    (generation = s.generation ∧ r.live = true ∧
      s.perform generation r = (s.reset, .invalidate :: handOver s.pending)) ∨
    (generation = s.generation ∧ r.live = true ∧
      s.perform generation r = ((s.feed generation r).1,
        .invalidate :: handOver s.pending ++ (s.feed generation r).2)) := by
  by_cases hgen : generation = s.generation
  · right
    subst hgen
    cases hlive : r.live with
    | false => exact .inl ⟨rfl, rfl, s.perform_dead hlive⟩
    | true =>
      right
      by_cases hline : s.pending.isSome = true → r.acceptsLine = true
      · exact .inr ⟨rfl, rfl, s.perform_accepted hlive hline⟩
      · obtain ⟨hpending, hrefused⟩ := Classical.not_imp.mp hline
        exact .inl ⟨rfl, rfl, s.perform_refused hlive hpending (eq_false_of_ne_true hrefused)⟩
  · exact .inl ⟨hgen, s.perform_stale hgen r⟩

theorem mem_perform_effects {generation : Nat} {r : Reception} {effect : Effect}
    (hmem : effect ∈ (s.perform generation r).2) :
    effect = .invalidate ∨ effect ∈ handOver s.pending ∨ effect = .later generation ∨
      effect = .feed ∨ ∃ text, effect = .refresh text := by
  rcases s.perform_cases generation r with ⟨-, h⟩ | ⟨-, -, h⟩ | ⟨-, -, h⟩ | ⟨-, -, h⟩
  · simp [h] at hmem
  · simp [h] at hmem
  · rw [h, List.mem_cons] at hmem
    exact hmem.imp_right .inl
  · rw [h, feed_effects, List.cons_append, List.mem_cons, List.mem_append, List.mem_cons,
      List.mem_cons] at hmem
    exact hmem.imp_right (.imp_right (.imp_right (.imp_right (linesChanged_effects _ _ effect))))

theorem perform_queues_nothing (generation : Nat) (r : Reception) :
    (s.perform generation r).2.filterMap Effect.soon? = [] := by
  rw [List.filterMap_eq_nil_iff]
  intro effect hmem
  rcases s.mem_perform_effects hmem with rfl | hline | rfl | rfl | ⟨text, rfl⟩
  · rfl
  · obtain ⟨write, -, rfl⟩ := List.mem_map.mp hline
    rfl
  all_goals rfl

theorem perform_current (r : Reception) :
    (s.perform s.generation r).1.generation = s.generation ∧
      (s.perform s.generation r).1.pending = none ∧
      ((s.perform s.generation r).1.phase = .idle ∧ (s.perform s.generation r).1.guard = 0 ∨
        (s.perform s.generation r).1.phase = .suppressingEcho ∧
          0 < (s.perform s.generation r).1.guard ∧
          .later s.generation ∈ (s.perform s.generation r).2) := by
  rcases s.perform_cases s.generation r with ⟨hgen, -⟩ | ⟨-, -, h⟩ | ⟨-, -, h⟩ | ⟨-, -, h⟩
  · exact absurd rfl hgen
  · rw [h]
    exact ⟨rfl, rfl, .inl ⟨rfl, rfl⟩⟩
  · rw [h]
    exact ⟨rfl, rfl, .inl ⟨rfl, rfl⟩⟩
  · rw [h]
    obtain ⟨hgen, hpending, hstate⟩ := s.feed_state s.generation r
    refine ⟨hgen, hpending, hstate.imp_right fun hstate => ⟨hstate.1, hstate.2, ?_⟩⟩
    rw [feed_effects]
    simp

/-- When the host echoes both keys before it is done with them, or refuses them, nothing is awaited after a write. -/
theorem perform_at_once (hguard : s.guard = 0) (hphase : s.phase ≠ .suppressingEcho)
    (generation : Nat) (r : Reception)
    (hechoes : r.live = true → r.acceptsKeys = true → r.echoes.length = 2) :
    (s.perform generation r).1.guard = 0 ∧
      (s.perform generation r).1.phase ≠ .suppressingEcho := by
  rcases s.perform_cases generation r with ⟨-, h⟩ | ⟨-, -, h⟩ | ⟨-, -, h⟩ | ⟨-, hlive, h⟩
  · rw [h]
    exact ⟨hguard, hphase⟩
  · simp [h, reset]
  · simp [h, reset]
  · have hechoed := linesChanged_suppressing s.armed rfl (by simp [armed]) r.echoes
    simp only [h, feed, hechoed]
    by_cases hkeys : r.acceptsKeys = true
    · have hboth : ¬ r.echoes.length < s.armed.guard := by
        have := hechoes hlive hkeys
        change ¬ r.echoes.length < s.guard + 2
        omega
      rw [if_pos hkeys, if_neg hboth]
      exact ⟨rfl, by simp⟩
    · rw [if_neg hkeys]
      exact ⟨rfl, by simp [reset]⟩

/-! ### Timeouts -/

theorem expire_cases (generation : Nat) (line : Option Text) :
    ((generation = s.generation → s.phase ≠ .suppressingEcho) ∧
      s.expire generation line = (s, [])) ∨
    (generation = s.generation ∧ s.phase = .suppressingEcho ∧
      s.expire generation line =
        ({ s with phase := .idle, guard := 0 }, line.toList.map .refresh)) := by
  by_cases hgen : generation = s.generation
  · by_cases hphase : s.phase = .suppressingEcho
    · exact .inr ⟨hgen, hphase, by simp [expire, hgen, hphase]⟩
    · exact .inl ⟨fun _ => hphase, by simp [expire, hphase]⟩
  · exact .inl ⟨fun h => absurd h hgen, by simp [expire, hgen]⟩

end Scheduler

end Substitute
