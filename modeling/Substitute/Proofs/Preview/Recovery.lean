import Substitute.Proofs.Preview.Consistency

/-!
# After a failure the scheduler is as good as new

A cancel, a host that refuses the line or the keys, and a host that is gone all leave the scheduler idle. It then differs from a new one in its generation, and in the callbacks that still wait for it. Generations are only compared with one another, so it does not matter where they start; and a callback that waits is of a generation that is over, or is the timeout of the last one, which finds no echoes to wait for. So the scheduler behaves from then on like a new one that never queued these callbacks.
-/

namespace Substitute

/-! ### Later generations -/

def Effect.shift (base : Nat) : Effect → Effect
  | .soon generation => .soon (base + generation)
  | .later generation => .later (base + generation)
  | effect => effect

namespace Happening

def shift (base : Nat) : Happening → Happening
  | .perform generation r => .perform (base + generation) r
  | .expire generation line => .expire (base + generation) line
  | h => h

/-- The happening with its generation counted from `base`. -/
def since (base : Nat) : Happening → Happening
  | .perform generation r => .perform (generation - base) r
  | .expire generation line => .expire (generation - base) line
  | h => h

end Happening

namespace Scheduler

def shift (base : Nat) (s : Scheduler) : Scheduler :=
  { s with generation := base + s.generation }

def shiftStep (base : Nat) (step : Scheduler × List Effect) : Scheduler × List Effect :=
  (step.1.shift base, step.2.map (Effect.shift base))

/-- Whether the scheduler asks the host if it is still there: a callback does, once it finds that it still counts. -/
def asks (s : Scheduler) : Happening → Bool
  | .perform generation _ => generation == s.generation
  | .expire generation _ => generation == s.generation && s.phase == .suppressingEcho
  | .write _ _ | .refresh | .change _ | .cancel => false

variable (s : Scheduler) (base : Nat)

theorem lineChanged_shift (text : Text) :
    (s.shift base).lineChanged text = shiftStep base (s.lineChanged text) := by
  rcases Nat.eq_zero_or_pos s.guard with hguard | hguard
  · rw [lineChanged_typing s hguard, lineChanged_typing (s.shift base) hguard]
    by_cases hphase : s.phase = .pendingWrite <;>
      simp [shiftStep, shift, Effect.shift, hphase, Nat.add_assoc]
  · rw [lineChanged_echo s hguard, lineChanged_echo (s.shift base) hguard]
    by_cases hlast : s.guard = 1 ∧ s.phase = .suppressingEcho <;>
      simp [shiftStep, shift, Effect.shift, hlast]

private theorem linesChanged_shift (texts : List Text) :
    (s.shift base).linesChanged texts = shiftStep base (s.linesChanged texts) := by
  induction texts generalizing s with
  | nil => rfl
  | cons text rest ih =>
    rw [linesChanged_cons, linesChanged_cons, lineChanged_shift]
    simp only [shiftStep, ih, List.map_append]

private theorem feed_shift (generation : Nat) (r : Reception) :
    (s.shift base).feed (base + generation) r = shiftStep base (s.feed generation r) := by
  have hechoed : (s.shift base).armed.linesChanged r.echoes =
      shiftStep base (s.armed.linesChanged r.echoes) :=
    linesChanged_shift s.armed base r.echoes
  simp only [feed, hechoed, shiftStep, List.map_cons, Effect.shift]
  cases r.acceptsKeys <;> rfl

theorem map_shift_handOver (pending : Option (Text × Int)) :
    (handOver pending).map (Effect.shift base) = handOver pending := by
  cases pending <;> rfl

private theorem perform_shift (generation : Nat) (r : Reception) :
    (s.shift base).perform (base + generation) r = shiftStep base (s.perform generation r) := by
  by_cases hgen : generation = s.generation
  · subst hgen
    have hcurrent : base + s.generation = (s.shift base).generation := rfl
    cases hlive : r.live with
    | false =>
      rw [hcurrent, perform_dead _ hlive, perform_dead _ hlive]
      rfl
    | true =>
      by_cases hline : s.pending.isSome = true → r.acceptsLine = true
      · rw [s.perform_accepted hlive hline, hcurrent, (s.shift base).perform_accepted hlive hline,
          ← hcurrent, feed_shift]
        simp only [shiftStep, List.map_append, List.map_cons, map_shift_handOver, Effect.shift]
        rfl
      · obtain ⟨hpending, hrefused⟩ := Classical.not_imp.mp hline
        have hrefused := eq_false_of_ne_true hrefused
        rw [s.perform_refused hlive hpending hrefused, hcurrent,
          (s.shift base).perform_refused hlive hpending hrefused]
        simp only [shiftStep, List.map_cons, map_shift_handOver, Effect.shift]
        rfl
  · have hstale : base + generation ≠ (s.shift base).generation :=
      fun h => hgen (Nat.add_left_cancel h)
    rw [perform_stale _ hgen, perform_stale _ hstale]
    rfl

private theorem expire_shift (generation : Nat) (line : Option Text) :
    (s.shift base).expire (base + generation) line = shiftStep base (s.expire generation line) := by
  have hgen : base + generation = (s.shift base).generation ↔ generation = s.generation :=
    Nat.add_left_cancel_iff
  have hphase : (s.shift base).phase = s.phase := rfl
  simp only [expire, ne_eq, hgen, hphase]
  split
  · rfl
  · cases line <;> rfl

theorem react_shift (h : Happening) :
    (s.shift base).react (h.shift base) = shiftStep base (s.react h) := by
  cases h with
  | write text cursor => rfl
  | refresh =>
    simp only [Happening.shift, react, requestRefresh]
    by_cases hphase : s.phase = .pendingWrite <;> simp [hphase, shift] <;> rfl
  | change text => exact s.lineChanged_shift base text
  | cancel => rfl
  | perform generation r => exact s.perform_shift base generation r
  | expire generation line => exact s.expire_shift base generation line

private theorem asks_shift (h : Happening) : (s.shift base).asks (h.shift base) = s.asks h := by
  cases h with
  | perform generation r => simp [asks, shift, Happening.shift]
  | expire generation line =>
    rw [Bool.eq_iff_iff]
    simp [asks, shift, Happening.shift]
  | _ => rfl

end Scheduler

/-! ### What others see -/

/-- What a scheduler does that others can see. -/
inductive Deed where
  /-- It asks the host whether it is still there. -/
  | asks
  | does (effect : Effect)
deriving DecidableEq

def Deed.shift (base : Nat) : Deed → Deed
  | .asks => .asks
  | .does effect => .does (effect.shift base)

namespace Flight

def deedsAt (f : Flight) (h : Happening) : List Deed :=
  (if f.scheduler.asks h then [.asks] else []) ++ (f.effects h).map .does

/-- What is seen of the scheduler in the course of happenings. -/
def deeds (f : Flight) : List Happening → List Deed
  | [] => []
  | h :: rest => f.deedsAt h ++ (f.next h).deeds rest

/-- Whether a happening is the run of a callback that waits here. -/
def Holds (f : Flight) : Happening → Prop
  | .perform generation _ => generation ∈ f.soon
  | .expire generation _ => generation ∈ f.later
  | .write _ _ | .refresh | .change _ | .cancel => False

instance (f : Flight) : DecidablePred f.Holds
  | .perform generation _ => inferInstanceAs (Decidable (generation ∈ f.soon))
  | .expire generation _ => inferInstanceAs (Decidable (generation ∈ f.later))
  | .write _ _ | .refresh | .change _ | .cancel => inferInstanceAs (Decidable False)

/-- The happenings without the callbacks that wait here, and with generations counted from here. -/
def afresh (f : Flight) (happenings : List Happening) : List Happening :=
  (happenings.filter fun h => ¬ f.Holds h).map (Happening.since f.scheduler.generation)

/-- Whether a happening makes the scheduler drop everything: a cancel, or a callback that counts when the host is gone or refuses the line or the keys. -/
def Fails (f : Flight) : Happening → Prop
  | .cancel => True
  | .perform generation r => generation = f.scheduler.generation ∧
      (r.live = false ∨ f.scheduler.pending.isSome = true ∧ r.acceptsLine = false ∨
        r.acceptsKeys = false)
  | .expire generation line => generation = f.scheduler.generation ∧
      f.scheduler.phase = .suppressingEcho ∧ line = none
  | .write _ _ | .refresh | .change _ => False

private theorem idle_of_fails {f : Flight} {h : Happening} (fails : f.Fails h) :
    (f.next h).scheduler.phase = .idle := by
  cases h with
  | cancel => rfl
  | perform generation r =>
    obtain ⟨rfl, hwhy⟩ := fails
    rw [next_perform]
    cases hlive : r.live with
    | false => rw [Scheduler.perform_dead _ hlive]; rfl
    | true =>
      by_cases hline : f.scheduler.pending.isSome = true → r.acceptsLine = true
      · have hkeys : r.acceptsKeys = false := by
          rcases hwhy with hdead | ⟨hpending, hrefused⟩ | hkeys
          · simp [hdead] at hlive
          · simp [hline hpending] at hrefused
          · exact hkeys
        rw [Scheduler.perform_accepted _ hlive hline]
        simp only [Scheduler.feed, hkeys]
        rfl
      · obtain ⟨hpending, hrefused⟩ := Classical.not_imp.mp hline
        rw [Scheduler.perform_refused _ hlive hpending (eq_false_of_ne_true hrefused)]
        rfl
  | expire generation line =>
    obtain ⟨rfl, hwaits, -⟩ := fails
    simp [Scheduler.expire, hwaits]
  | write text cursor => exact absurd fails id
  | refresh => exact absurd fails id
  | change text => exact absurd fails id

/-! ### Both runs side by side -/

variable {f c d : Flight} {h : Happening}

private theorem eq_of_soon_mem_react {s : Scheduler} {generation : Nat}
    (hmem : Effect.soon generation ∈ (s.react h).2) : generation = s.generation + 1 := by
  cases h with
  | write text cursor => simpa [Scheduler.react, Scheduler.requestWrite, Scheduler.schedule] using hmem
  | refresh =>
    simp only [Scheduler.react, Scheduler.requestRefresh, Scheduler.schedule] at hmem
    split at hmem <;> simpa using hmem
  | change text =>
    rcases s.lineChanged_effects text with h | h <;> simp [Scheduler.react, h] at hmem
  | cancel => simp [Scheduler.react, Scheduler.cancel] at hmem
  | perform n r =>
    have hnone := s.perform_queues_nothing n r
    rw [List.filterMap_eq_nil_iff] at hnone
    exact absurd (hnone _ hmem) (by simp)
  | expire n line =>
    rcases s.expire_cases n line with ⟨-, h⟩ | ⟨-, -, h⟩ <;> simp [Scheduler.react, h] at hmem

private theorem eq_of_later_mem_react {s : Scheduler} {generation : Nat}
    (hmem : Effect.later generation ∈ (s.react h).2) : ∃ r, h = .perform generation r := by
  cases h with
  | write text cursor => simp [Scheduler.react, Scheduler.requestWrite, Scheduler.schedule] at hmem
  | refresh =>
    simp only [Scheduler.react, Scheduler.requestRefresh, Scheduler.schedule] at hmem
    split at hmem <;> simp at hmem
  | change text =>
    rcases s.lineChanged_effects text with h | h <;> simp [Scheduler.react, h] at hmem
  | cancel => simp [Scheduler.react, Scheduler.cancel] at hmem
  | perform n r =>
    rcases s.mem_perform_effects hmem with h | hline | h | h | ⟨text, h⟩
    · simp at h
    · obtain ⟨write, -, hwrite⟩ := List.mem_map.mp hline
      simp at hwrite
    · obtain rfl := Effect.later.inj h
      exact ⟨r, rfl⟩
    · simp at h
    · simp at h
  | expire n line =>
    rcases s.expire_cases n line with ⟨-, h⟩ | ⟨-, -, h⟩ <;> simp [Scheduler.react, h] at hmem

private theorem pos_of_mem_soon {generation : Nat}
    (hmem : generation ∈ (d.effects h).filterMap Effect.soon?) : 0 < generation := by
  obtain ⟨effect, heffect, heq⟩ := List.mem_filterMap.mp hmem
  cases effect <;> simp at heq
  subst heq
  rw [eq_of_soon_mem_react heffect]
  exact Nat.succ_pos _

private theorem mem_of_mem_filterMap_later? {effects : List Effect} {generation : Nat}
    (hmem : generation ∈ effects.filterMap Effect.later?) : .later generation ∈ effects := by
  obtain ⟨effect, heffect, heq⟩ := List.mem_filterMap.mp hmem
  cases effect <;> simp at heq
  exact heq ▸ heffect

private theorem filterMap_soon?_shift (base : Nat) (effects : List Effect) :
    (effects.map (Effect.shift base)).filterMap Effect.soon? =
      (effects.filterMap Effect.soon?).map (base + ·) := by
  rw [List.filterMap_map, List.map_filterMap]
  congr 1
  funext effect
  cases effect <;> rfl

private theorem filterMap_later?_shift (base : Nat) (effects : List Effect) :
    (effects.map (Effect.shift base)).filterMap Effect.later? =
      (effects.filterMap Effect.later?).map (base + ·) := by
  rw [List.filterMap_map, List.map_filterMap]
  congr 1
  funext effect
  cases effect <;> rfl

private theorem afresh_cons_of_holds (held : f.Holds h) (rest : List Happening) :
    f.afresh (h :: rest) = f.afresh rest := by
  simp [afresh, held]

private theorem afresh_cons (fresh : ¬ f.Holds h) (rest : List Happening) :
    f.afresh (h :: rest) = h.since f.scheduler.generation :: f.afresh rest := by
  simp [afresh, fresh]

/-- Of the callbacks that wait, those not held from before are the fresh ones, with their generations counted on from `base`. -/
def Renumbered (base : Nat) (held waits fresh : List Nat) : Prop :=
  (waits.filter fun n => n ∉ held) = fresh.map (base + ·)

namespace Renumbered

variable {base n : Nat} {held waits fresh new : List Nat}

theorem mem_iff (hq : Renumbered base held waits fresh) :
    n ∈ fresh ↔ base + n ∈ waits ∧ base + n ∉ held := by
  have hmem : base + n ∈ waits.filter (fun n => n ∉ held) ↔ base + n ∈ fresh.map (base + ·) := by
    rw [hq]
  simpa using hmem.symm

theorem sub_mem (hq : Renumbered base held waits fresh) (hwaits : n ∈ waits) (hheld : n ∉ held) :
    n - base ∈ fresh ∧ base + (n - base) = n := by
  have hn : n ∈ waits.filter fun n => n ∉ held := by simp [hwaits, hheld]
  rw [hq] at hn
  obtain ⟨m, hm, rfl⟩ := List.mem_map.mp hn
  simpa using hm

theorem erase (hq : Renumbered base held waits fresh) (n : Nat) :
    Renumbered base held (waits.erase (base + n)) (fresh.erase n) := by
  rw [Renumbered, ← List.erase_filter, hq, List.map_erase fun _ _ => Nat.add_left_cancel]

theorem erase_held (hq : Renumbered base held waits fresh) (hheld : n ∈ held) :
    Renumbered base held (waits.erase n) fresh := by
  have hnot : n ∉ waits.filter fun n => n ∉ held := by simp [hheld]
  rw [Renumbered, ← List.erase_filter, List.erase_of_not_mem hnot, hq]

theorem append (hq : Renumbered base held waits fresh) (hheld : ∀ n ∈ held, n ≤ base)
    (hnew : ∀ n ∈ new, 0 < n) :
    Renumbered base held (waits ++ new.map (base + ·)) (fresh ++ new) := by
  have hall : ((new.map (base + ·)).filter fun n => n ∉ held) = new.map (base + ·) := by
    rw [List.filter_eq_self]
    intro m hm
    obtain ⟨n, hn, rfl⟩ := List.mem_map.mp hm
    have hpos := hnew n hn
    have hlate : base + n ∉ held := fun hmem => by
      have := hheld _ hmem
      omega
    simpa using hlate
  rw [Renumbered, List.filter_append, hq, hall, List.map_append]

end Renumbered

/-- `c` has come from the idle flight `f` by what led a new flight to `d`, and by callbacks that waited in `f`. -/
structure Mirrors (f c d : Flight) : Prop where
  scheduler : c.scheduler = d.scheduler.shift f.scheduler.generation
  soon : Renumbered f.scheduler.generation f.soon c.soon d.soon
  later : Renumbered f.scheduler.generation f.later c.later d.later
  numbered : ∀ n ∈ d.soon, 0 < n
  consistent : d.Consistent

private theorem Consistent.mirrors (hf : f.Consistent) (hidle : f.scheduler.phase = .idle) :
    f.Mirrors f {} where
  scheduler := by
    have hguard := hf.idle hidle
    have hpending := hf.pending (by simp [hidle])
    cases hs : f.scheduler
    simp_all [Scheduler.shift]
  soon := by simp [Renumbered]
  later := by simp [Renumbered]
  numbered := by simp
  consistent := Run.start.consistent

namespace Mirrors

theorem stale (hm : f.Mirrors c d) (hf : f.Consistent) (hidle : f.scheduler.phase = .idle)
    (held : f.Holds h) : c.scheduler.react h = (c.scheduler, []) ∧ c.scheduler.asks h = false := by
  have hgen : c.scheduler.generation = f.scheduler.generation + d.scheduler.generation := by
    rw [hm.scheduler]
    rfl
  cases h with
  | perform generation r =>
    have hlt : generation < f.scheduler.generation := by
      refine Nat.lt_of_le_of_ne (hf.soon_le generation held) fun heq => ?_
      have hphase := hf.phase_of_mem_soon (heq ▸ held)
      simp [hidle] at hphase
    have hne : generation ≠ c.scheduler.generation := by omega
    exact ⟨Scheduler.perform_stale _ hne r, by simp [Scheduler.asks, hne]⟩
  | expire generation line =>
    -- echoes are awaited only for a write that came after `f`, and it has a timeout of its own
    have hquiet : generation = c.scheduler.generation → c.scheduler.phase ≠ .suppressingEcho := by
      intro heq hwaits
      have hphase : d.scheduler.phase = .suppressingEcho := by
        rw [hm.scheduler] at hwaits
        exact hwaits
      have hnew := (hm.later.mem_iff.mp (hm.consistent.suppressing hphase).2).2
      rw [← hgen, ← heq] at hnew
      exact hnew held
    rcases c.scheduler.expire_cases generation line with ⟨-, h⟩ | ⟨heq, hwaits, -⟩
    · exact ⟨h, by simpa [Scheduler.asks] using hquiet⟩
    · exact absurd hwaits (hquiet heq)
  | write text cursor => exact absurd held id
  | refresh => exact absurd held id
  | change text => exact absurd held id
  | cancel => exact absurd held id

/-- The run of a callback that waited in `f` is not seen, and the new flight need not match it. -/
theorem skip (hm : f.Mirrors c d) (hf : f.Consistent) (hidle : f.scheduler.phase = .idle)
    (held : f.Holds h) : c.deedsAt h = [] ∧ f.Mirrors (c.next h) d := by
  obtain ⟨hreact, hasks⟩ := hm.stale hf hidle held
  have heffects : c.effects h = [] := by rw [effects, hreact]
  have hscheduler : (c.next h).scheduler = c.scheduler := by rw [next, hreact]
  have hsoon : (c.next h).soon = c.soonLeft h := by rw [next, heffects]; exact List.append_nil _
  have hlater : (c.next h).later = c.laterLeft h := by rw [next, heffects]; exact List.append_nil _
  refine ⟨by simp [deedsAt, hasks, heffects], hscheduler ▸ hm.scheduler, ?_, ?_, hm.numbered,
    hm.consistent⟩
  · rw [hsoon]
    cases h with
    | perform generation r => exact hm.soon.erase_held held
    | _ => exact hm.soon
  · rw [hlater]
    cases h with
    | expire generation line => exact hm.later.erase_held held
    | _ => exact hm.later

theorem allows (hm : f.Mirrors c d) (allowed : c.Allows h) (fresh : ¬ f.Holds h) :
    d.Allows (h.since f.scheduler.generation) ∧
      (h.since f.scheduler.generation).shift f.scheduler.generation = h := by
  cases h with
  | perform generation r =>
    obtain ⟨hwaits, heq⟩ := hm.soon.sub_mem allowed fresh
    exact ⟨hwaits, congrArg (Happening.perform · r) heq⟩
  | expire generation line =>
    obtain ⟨hwaits, heq⟩ := hm.later.sub_mem allowed fresh
    exact ⟨hwaits, congrArg (Happening.expire · line) heq⟩
  | _ => exact ⟨trivial, rfl⟩

private theorem deedsAt_shift (hm : f.Mirrors c d) (h : Happening) :
    c.deedsAt (h.shift f.scheduler.generation) =
      (d.deedsAt h).map (Deed.shift f.scheduler.generation) := by
  simp only [deedsAt, effects, hm.scheduler, Scheduler.react_shift, Scheduler.asks_shift,
    Scheduler.shiftStep, List.map_append, List.map_map]
  congr 1
  split <;> rfl

theorem next (hm : f.Mirrors c d) (hf : f.Consistent) (allowed : d.Allows h) :
    f.Mirrors (c.next (h.shift f.scheduler.generation)) (d.next h) := by
  have hreact : c.scheduler.react (h.shift f.scheduler.generation) =
      Scheduler.shiftStep f.scheduler.generation (d.scheduler.react h) := by
    rw [hm.scheduler, Scheduler.react_shift]
  have heffects : c.effects (h.shift f.scheduler.generation) =
      (d.effects h).map (Effect.shift f.scheduler.generation) := by
    rw [effects, hreact]
    rfl
  have hsoon := heffects ▸ filterMap_soon?_shift f.scheduler.generation (d.effects h)
  have hlater := heffects ▸ filterMap_later?_shift f.scheduler.generation (d.effects h)
  have hlater_pos : ∀ n ∈ (d.effects h).filterMap Effect.later?, 0 < n := by
    intro n hn
    obtain ⟨r, rfl⟩ := eq_of_later_mem_react (mem_of_mem_filterMap_later? hn)
    exact hm.numbered _ allowed
  have hsoonLeft : Renumbered f.scheduler.generation f.soon
      (c.soonLeft (h.shift f.scheduler.generation)) (d.soonLeft h) := by
    cases h with
    | perform n r => exact hm.soon.erase n
    | _ => exact hm.soon
  have hlaterLeft : Renumbered f.scheduler.generation f.later
      (c.laterLeft (h.shift f.scheduler.generation)) (d.laterLeft h) := by
    cases h with
    | expire n line => exact hm.later.erase n
    | _ => exact hm.later
  refine ⟨congrArg Prod.fst hreact, ?_, ?_, ?_, hm.consistent.next h allowed⟩
  · rw [Flight.next, hsoon]
    exact hsoonLeft.append hf.soon_le fun n hn => pos_of_mem_soon hn
  · rw [Flight.next, hlater]
    exact hlaterLeft.append hf.later_le hlater_pos
  · intro n hn
    rcases List.mem_append.mp hn with hold | hnew
    · cases h with
      | perform m r => exact hm.numbered n (List.mem_of_mem_erase hold)
      | _ => exact hm.numbered n hold
    · exact pos_of_mem_soon hnew

/-- Whatever follows, the new flight can follow it too, and both are seen to do the same. -/
theorem follow (hm : f.Mirrors c d) (hf : f.Consistent) (hidle : f.scheduler.phase = .idle)
    {happenings : List Happening} (possible : c.Possible happenings) :
    d.Possible (f.afresh happenings) ∧
      c.deeds happenings = (d.deeds (f.afresh happenings)).map (Deed.shift f.scheduler.generation) ∧
      f.Mirrors (c.after happenings) (d.after (f.afresh happenings)) := by
  induction happenings generalizing c d with
  | nil => exact ⟨trivial, rfl, hm⟩
  | cons h rest ih =>
    obtain ⟨allowed, possible⟩ := possible
    by_cases held : f.Holds h
    · obtain ⟨hunseen, hnext⟩ := hm.skip hf hidle held
      rw [afresh_cons_of_holds held, deeds, hunseen]
      exact ih hnext possible
    · obtain ⟨hallowed, hsame⟩ := hm.allows allowed held
      have hnext := hm.next hf hallowed
      have hdeeds := hm.deedsAt_shift (h.since f.scheduler.generation)
      rw [hsame] at hnext hdeeds
      obtain ⟨hpossible, hrest, hafter⟩ := ih hnext possible
      rw [afresh_cons held]
      refine ⟨⟨hallowed, hpossible⟩, ?_, hafter⟩
      rw [deeds, deeds, hdeeds, hrest, List.map_append]

end Mirrors

end Flight

/-- After a cancel, a deferred write that the host refuses, or a callback that the host is not there for, the scheduler is as good as new. Whatever follows, a new scheduler can meet the same without the callbacks that still wait; both then make the same calls and draw the same previews, and they are left in the same state, with generations counted from the failure. -/
theorem Run.recovers_as_new {history : List Occurrence} {f : Flight} (run : Run history f)
    {h : Happening} (allowed : f.Allows h) (fails : f.Fails h) {happenings : List Happening}
    (possible : (f.next h).Possible happenings) :
    let failed := f.next h
    let base := failed.scheduler.generation
    ({} : Flight).Possible (failed.afresh happenings) ∧
      failed.deeds happenings = (({} : Flight).deeds (failed.afresh happenings)).map (Deed.shift base) ∧
      (failed.after happenings).scheduler =
        (({} : Flight).after (failed.afresh happenings)).scheduler.shift base := by
  intro failed base
  have hfailed : failed.Consistent := (run.next h allowed).consistent
  have hidle : failed.scheduler.phase = .idle := Flight.idle_of_fails fails
  obtain ⟨hpossible, hdeeds, hafter⟩ := (hfailed.mirrors hidle).follow hfailed hidle possible
  exact ⟨hpossible, hdeeds, hafter.scheduler⟩

/-- The host refuses the keys of a second write while echoes of the first are still to come, so the timeouts of both are left over, one of them of the generation that failed. -/
theorem recovers_as_new_two_timeouts :
    let silent : Reception := ⟨true, true, true, []⟩
    let refusing : Reception := ⟨true, true, false, []⟩
    let f := ({} : Flight).after [.write ['a'] 1, .perform 1 silent, .write ['b'] 1]
    let failed := f.next (.perform 2 refusing)
    let happenings : List Happening :=
      [.expire 2 (some ['b']), .write ['c'] 1, .expire 1 none, .perform 3 silent,
        .change ['c', ' '], .change ['c']]
    let afresh : List Happening :=
      [.write ['c'] 1, .perform 1 silent, .change ['c', ' '], .change ['c']]
    f.Fails (.perform 2 refusing) ∧ failed.later = [1, 2] ∧ failed.Possible happenings ∧
      ({} : Flight).Possible afresh ∧
      failed.deeds happenings = (({} : Flight).deeds afresh).map (Deed.shift 2) ∧
      (failed.after happenings).scheduler = (({} : Flight).after afresh).scheduler.shift 2 := by
  intro silent refusing f failed happenings afresh
  have run : Run _ f := Run.start.extend (by decide)
  have fails : f.Fails (.perform 2 refusing) := ⟨rfl, .inr (.inr rfl)⟩
  have possible : failed.Possible happenings := by decide
  exact ⟨fails, by decide, possible, run.recovers_as_new (by decide) fails possible⟩

end Substitute
