import Mathlib.Data.Nat.Basic
import Mathlib.Order.Monotone.Defs
import Substitute.Proofs.Preview.Consistency

/-!
# Every queued write is handed over at most once, in order

A write is owed from its request until a newer request, a cancel or typing supersedes it, or the callback of the current generation runs. The pending write of a scheduler is exactly the owed one, on every host. So a line handed to the host is that of the latest request, each request is handed over at most once and in its turn, and the write that is owed when its callback finds the host alive is handed over.
-/

namespace Substitute

namespace Occurrence

def lineCalls (o : Occurrence) : List (Text × Int) :=
  o.effects.filterMap Effect.written?

/-- Whether a write queued before is dropped: by a newer one, by a cancel, or by typing. -/
def Supersedes (o : Occurrence) : Prop :=
  match o.happening with
  | .write _ _ | .cancel => True
  | .change _ => o.before.scheduler.guard = 0
  | .refresh | .perform _ _ | .expire _ _ => False

/-- Whether the callback of the current generation runs. -/
def RunsCurrent (o : Occurrence) : Prop :=
  match o.happening with
  | .perform generation _ => generation = o.before.scheduler.generation
  | _ => False

end Occurrence

/-- The write requested at `i` has neither been superseded nor had its callback since. -/
def Owed (history : List Occurrence) (i : Nat) (write : Text × Int) : Prop :=
  (∃ o, history[i]? = some o ∧ o.happening = .write write.1 write.2) ∧
    ∀ k p, i < k → history[k]? = some p → ¬ p.Supersedes ∧ ¬ p.RunsCurrent

/-! ### What a happening does to the pending write -/

namespace Flight

variable {f : Flight} {h : Happening}

private theorem pending_kept (hf : f.Consistent) (hstays : ¬ Occurrence.Supersedes ⟨f, h⟩)
    (hwaits : ¬ Occurrence.RunsCurrent ⟨f, h⟩) :
    (f.next h).scheduler.pending = f.scheduler.pending := by
  cases h with
  | write text cursor => exact absurd trivial hstays
  | cancel => exact absurd trivial hstays
  | refresh =>
    rw [next_refresh, hf.requestRefresh_eq]
    rfl
  | change text =>
    have hguard : 0 < f.scheduler.guard := Nat.pos_of_ne_zero hstays
    rw [next_change, Scheduler.lineChanged_echo _ hguard]
    split <;> rfl
  | perform generation r => rw [next_perform, Scheduler.perform_stale _ hwaits]
  | expire generation line =>
    rw [next_expire]
    rcases f.scheduler.expire_cases generation line with ⟨-, h⟩ | ⟨-, -, h⟩ <;> rw [h]

private theorem pending_dropped (hf : f.Consistent) (hnew : ∀ text cursor, h ≠ .write text cursor)
    (hends : Occurrence.Supersedes ⟨f, h⟩ ∨ Occurrence.RunsCurrent ⟨f, h⟩) :
    (f.next h).scheduler.pending = none := by
  cases h with
  | write text cursor => exact absurd rfl (hnew text cursor)
  | cancel => rfl
  | refresh => exact absurd hends (by simp [Occurrence.Supersedes, Occurrence.RunsCurrent])
  | change text =>
    have hguard : f.scheduler.guard = 0 := hends.resolve_right id
    rw [next_change, Scheduler.lineChanged_typing _ hguard]
    by_cases hphase : f.scheduler.phase = .pendingWrite
    · simp [hphase]
    · simp [hphase, hf.pending hphase]
  | perform generation r =>
    have hgen : generation = f.scheduler.generation := hends.resolve_left id
    subst hgen
    rw [next_perform]
    exact (f.scheduler.perform_current r).2.1
  | expire generation line =>
    exact absurd hends (by simp [Occurrence.Supersedes, Occurrence.RunsCurrent])

end Flight

/-! ### The pending write is the owed one -/

private theorem owed_concat {past : List Occurrence} {o : Occurrence} {i : Nat} {write : Text × Int} :
    Owed (past ++ [o]) i write ↔
      (i = past.length ∧ o.happening = .write write.1 write.2) ∨
        (Owed past i write ∧ ¬ o.Supersedes ∧ ¬ o.RunsCurrent) := by
  constructor
  · rintro ⟨⟨p, hi, hwrite⟩, hsince⟩
    rcases Run.lookup_concat hi with ⟨hlt, hi⟩ | ⟨rfl, rfl⟩
    · refine .inr ⟨⟨⟨p, hi, hwrite⟩, fun k q hik hk => ?_⟩, ?_⟩
      · have hbound := (List.getElem?_eq_some_iff.mp hk).1
        exact hsince k q hik (by rw [List.getElem?_append_left hbound, hk])
      · exact hsince past.length o hlt List.getElem?_concat_length
    · exact .inl ⟨rfl, hwrite⟩
  · rintro (⟨rfl, hwrite⟩ | ⟨⟨⟨p, hi, hwrite⟩, hsince⟩, hlast⟩)
    · refine ⟨⟨o, List.getElem?_concat_length, hwrite⟩, fun k q hik hk => ?_⟩
      rcases Run.lookup_concat hk with ⟨hlt, -⟩ | ⟨heq, -⟩ <;> omega
    · have hbound := (List.getElem?_eq_some_iff.mp hi).1
      refine ⟨⟨p, by rw [List.getElem?_append_left hbound, hi], hwrite⟩, fun k q hik hk => ?_⟩
      rcases Run.lookup_concat hk with ⟨-, hk⟩ | ⟨-, rfl⟩
      · exact hsince k q hik hk
      · exact hlast

theorem Run.pending_iff_owed {history : List Occurrence} {f : Flight} (run : Run history f)
    (write : Text × Int) :
    f.scheduler.pending = some write ↔ ∃ i, Owed history i write := by
  induction run with
  | start => simp [Owed]
  | @next past f h run allowed ih =>
    have hf := run.consistent
    simp only [owed_concat, exists_or]
    -- a request takes the place of what was owed, and anything else ends it or lets it stand
    by_cases hnew : ∃ text cursor, h = .write text cursor
    · obtain ⟨text, cursor, rfl⟩ := hnew
      have hends : Occurrence.Supersedes ⟨f, .write text cursor⟩ := trivial
      change some (text, cursor) = some write ↔ _
      simp [hends, Prod.ext_iff]
    · have hold : ∀ text cursor, h ≠ .write text cursor := fun text cursor heq =>
        hnew ⟨text, cursor, heq⟩
      by_cases hends : Occurrence.Supersedes ⟨f, h⟩ ∨ Occurrence.RunsCurrent ⟨f, h⟩
      · rw [Flight.pending_dropped hf hold hends]
        rcases hends with hends | hends <;> simp [hold, hends]
      · obtain ⟨hstays, hwaits⟩ := not_or.mp hends
        rw [Flight.pending_kept hf hstays hwaits]
        simpa [hold, hstays, hwaits] using ih

/-! ### What is handed to the host -/

theorem Scheduler.filterMap_handOver (pending : Option (Text × Int)) :
    (handOver pending).filterMap Effect.written? = pending.toList := by
  cases pending <;> rfl

theorem Scheduler.written_perform (s : Scheduler) (generation : Nat) (r : Reception) :
    (s.perform generation r).2.filterMap Effect.written? =
      if generation = s.generation ∧ r.live = true then s.pending.toList else [] := by
  have hechoes : (s.armed.linesChanged r.echoes).2.filterMap Effect.written? = [] := by
    rw [List.filterMap_eq_nil_iff]
    intro effect hmem
    obtain ⟨text, rfl⟩ := linesChanged_effects _ _ effect hmem
    rfl
  rcases s.perform_cases generation r with
    ⟨hgen, h⟩ | ⟨-, hdead, h⟩ | ⟨hgen, hlive, h⟩ | ⟨hgen, hlive, h⟩
  · rw [h, if_neg fun hboth => hgen hboth.1]
    rfl
  · rw [h, if_neg (by simp [hdead])]
    rfl
  · rw [h, if_pos ⟨hgen, hlive⟩]
    exact filterMap_handOver _
  · rw [h, if_pos ⟨hgen, hlive⟩, List.cons_append, List.filterMap_cons_none rfl,
      List.filterMap_append, filterMap_handOver, feed_effects, List.filterMap_cons_none rfl,
      List.filterMap_cons_none rfl, hechoes, List.append_nil]

theorem Occurrence.lineCalls_perform (f : Flight) (generation : Nat) (r : Reception) :
    Occurrence.lineCalls ⟨f, .perform generation r⟩ =
      if generation = f.scheduler.generation ∧ r.live = true then f.scheduler.pending.toList
      else [] :=
  f.scheduler.written_perform generation r

private theorem Occurrence.lineCalls_eq_nil {o : Occurrence} (hother : ¬ o.RunsCurrent) :
    o.lineCalls = [] := by
  obtain ⟨f, h⟩ := o
  cases h with
  | write text cursor => rfl
  | refresh =>
    simp only [lineCalls, effects, Flight.effects, Scheduler.react, Scheduler.requestRefresh,
      Scheduler.schedule]
    split <;> rfl
  | cancel => rfl
  | change text =>
    rcases f.scheduler.lineChanged_effects text with h | h <;>
      simp [lineCalls, effects, Flight.effects, Scheduler.react, h]
  | perform generation r =>
    rw [lineCalls_perform, if_neg fun hboth => hother hboth.1]
  | expire generation line =>
    rcases f.scheduler.expire_cases generation line with ⟨-, h⟩ | ⟨-, -, h⟩ <;> cases line <;>
      simp [lineCalls, effects, Flight.effects, Scheduler.react, h]

/-- A line that is handed over is the pending one, and the callback of the current generation hands it over. -/
theorem Occurrence.pending_of_mem_lineCalls {o : Occurrence} {write : Text × Int}
    (hmem : write ∈ o.lineCalls) :
    o.RunsCurrent ∧ o.before.scheduler.pending = some write ∧ o.lineCalls = [write] := by
  by_cases hcurrent : o.RunsCurrent
  · obtain ⟨f, h⟩ := o
    cases h with
    | perform generation r =>
      rw [lineCalls_perform] at hmem ⊢
      split at hmem
      · rename_i hboth
        have hpending : f.scheduler.pending = some write := Option.mem_toList.mp hmem
        refine ⟨hcurrent, hpending, ?_⟩
        rw [if_pos hboth, hpending]
        rfl
      · simp at hmem
    | _ => exact absurd hcurrent id
  · simp [lineCalls_eq_nil hcurrent] at hmem

/-! ### Calls and their requests -/

theorem owed_take {history : List Occurrence} {i j : Nat} {write : Text × Int} :
    Owed (history.take j) i write ↔
      i < j ∧ (∃ o, history[i]? = some o ∧ o.happening = .write write.1 write.2) ∧
        ∀ k p, i < k → k < j → history[k]? = some p → ¬ p.Supersedes ∧ ¬ p.RunsCurrent := by
  have lt_of_lookup : ∀ {k : Nat} {p : Occurrence}, (history.take j)[k]? = some p → k < j := by
    intro k p hk
    have hbound := (List.getElem?_eq_some_iff.mp hk).1
    rw [List.length_take] at hbound
    omega
  constructor
  · rintro ⟨⟨o, hi, hwrite⟩, hsince⟩
    have hij := lt_of_lookup hi
    rw [List.getElem?_take_of_lt hij] at hi
    refine ⟨hij, ⟨o, hi, hwrite⟩, fun k p hik hkj hk => hsince k p hik ?_⟩
    rw [List.getElem?_take_of_lt hkj, hk]
  · rintro ⟨hij, ⟨o, hi, hwrite⟩, hsince⟩
    refine ⟨⟨o, by rw [List.getElem?_take_of_lt hij, hi], hwrite⟩, fun k p hik hk => ?_⟩
    have hkj := lt_of_lookup hk
    rw [List.getElem?_take_of_lt hkj] at hk
    exact hsince k p hik hkj hk

/-- Two calls carry out different requests, and in the order of the requests. -/
theorem Owed.lt_of_call {history : List Occurrence} {i i' j j' : Nat} {write write' : Text × Int}
    {o : Occurrence} (owed : Owed (history.take j) i write) (owed' : Owed (history.take j') i' write')
    (hjj : j < j') (hj : history[j]? = some o) (hcurrent : o.RunsCurrent) : i < i' := by
  obtain ⟨hij, ⟨p, hi, hwrite⟩, -⟩ := owed_take.mp owed
  obtain ⟨-, -, hsince⟩ := owed_take.mp owed'
  rcases Nat.lt_trichotomy i i' with hlt | rfl | hgt
  · exact hlt
  · exact absurd hcurrent (hsince j o hij hjj hj).2
  · refine absurd ?_ (hsince i p hgt (by omega) hi).1
    rw [Occurrence.Supersedes, hwrite]
    trivial

private theorem Run.exists_source {history : List Occurrence} {f : Flight} (run : Run history f) (j : Nat) :
    ∃ i, ∀ o write, history[j]? = some o → write ∈ o.lineCalls →
      Owed (history.take j) i write := by
  by_cases hcall : ∃ o write, history[j]? = some o ∧ write ∈ o.lineCalls
  · obtain ⟨o, write, hj, hmem⟩ := hcall
    obtain ⟨-, hpending, hone⟩ := Occurrence.pending_of_mem_lineCalls hmem
    obtain ⟨i, owed⟩ := ((run.take hj).1.pending_iff_owed write).mp hpending
    refine ⟨i, fun o' write' hj' hmem' => ?_⟩
    obtain rfl : o = o' := Option.some.inj (hj.symm.trans hj')
    rw [hone] at hmem'
    rw [List.mem_singleton.mp hmem']
    exact owed
  · exact ⟨0, fun o write hj hmem => absurd ⟨o, write, hj, hmem⟩ hcall⟩

/-- On every host, each line handed over comes alone and from a callback; the calls can be traced to requests for exactly these lines, a later call to a later request, with nothing in between that supersedes the request; and a request that nothing supersedes is handed over when its callback finds the host alive. -/
theorem Run.writes_delivered_in_order {history : List Occurrence} {f : Flight}
    (run : Run history f) :
    (∀ o ∈ history, o.lineCalls ≠ [] →
      (∃ generation r, o.happening = .perform generation r) ∧ o.lineCalls.length = 1) ∧
    (∃ source : Nat → Nat,
      StrictMonoOn source {j | ∃ o, history[j]? = some o ∧ o.lineCalls ≠ []} ∧
      ∀ (j : Nat) (o : Occurrence) (text : Text) (cursor : Int),
        history[j]? = some o → (text, cursor) ∈ o.lineCalls →
        source j < j ∧
        (∃ p, history[source j]? = some p ∧ p.happening = .write text cursor) ∧
        ∀ k p, source j < k → k < j → history[k]? = some p → ¬ p.Supersedes) ∧
    (∀ (i j : Nat) (o p : Occurrence) (text : Text) (cursor : Int) (generation : Nat)
      (r : Reception), i < j →
      history[i]? = some o → o.happening = .write text cursor →
      history[j]? = some p → p.happening = .perform generation r →
      generation = p.before.scheduler.generation → r.live = true →
      (∀ k q, i < k → k < j → history[k]? = some q → ¬ q.Supersedes ∧ ¬ q.RunsCurrent) →
      p.lineCalls = [(text, cursor)]) := by
  refine ⟨?_, ?_, ?_⟩
  · intro o _ hcall
    obtain ⟨write, hmem⟩ := List.exists_mem_of_ne_nil _ hcall
    obtain ⟨hcurrent, -, hone⟩ := Occurrence.pending_of_mem_lineCalls hmem
    refine ⟨?_, by rw [hone]; rfl⟩
    obtain ⟨before, happening⟩ := o
    cases happening with
    | perform generation r => exact ⟨generation, r, rfl⟩
    | _ => exact absurd hcurrent id
  · choose source owed using run.exists_source
    refine ⟨source, ?_, ?_⟩
    · rintro j ⟨o, hj, hcall⟩ j' ⟨o', hj', hcall'⟩ hlt
      obtain ⟨write, hmem⟩ := List.exists_mem_of_ne_nil _ hcall
      obtain ⟨write', hmem'⟩ := List.exists_mem_of_ne_nil _ hcall'
      exact (owed j o write hj hmem).lt_of_call (owed j' o' write' hj' hmem') hlt hj
        (Occurrence.pending_of_mem_lineCalls hmem).1
    · intro j o text cursor hj hmem
      obtain ⟨hlt, hrequest, hsince⟩ := owed_take.mp (owed j o (text, cursor) hj hmem)
      exact ⟨hlt, hrequest, fun k p hk hkj hp => (hsince k p hk hkj hp).1⟩
  · intro i j o p text cursor generation r hij hi hwrite hj hperform hgen hlive hsince
    have owed : Owed (history.take j) i (text, cursor) :=
      owed_take.mpr ⟨hij, ⟨o, hi, hwrite⟩, hsince⟩
    have hpending := ((run.take hj).1.pending_iff_owed (text, cursor)).mpr ⟨i, owed⟩
    obtain ⟨before, happening⟩ := p
    obtain rfl : happening = .perform generation r := hperform
    rw [Occurrence.lineCalls_perform, if_pos ⟨hgen, hlive⟩, hpending]
    rfl

/-- A newer write, then a refresh, a stale callback, and at last the callback that counts, on a host that refuses the line. -/
theorem writes_delivered_in_order_after_refresh :
    let refusing : Reception := ⟨true, false, false, []⟩
    let happenings : List Happening :=
      [.write ['a'] 1, .write ['b'] 1, .refresh, .perform 1 refusing]
    ({} : Flight).Possible (happenings ++ [.perform 3 refusing]) ∧
      Occurrence.lineCalls ⟨({} : Flight).after happenings, .perform 3 refusing⟩ =
        [(['b'], 1)] := by
  intro refusing happenings
  have possible : ({} : Flight).Possible (happenings ++ [.perform 3 refusing]) := by decide
  obtain ⟨-, -, delivered⟩ := (Run.start.extend possible).writes_delivered_in_order
  refine ⟨possible, delivered 1 4 _ _ ['b'] 1 3 refusing (by decide) rfl rfl rfl rfl rfl rfl ?_⟩
  intro k q hlow hhigh hk
  obtain rfl | rfl : k = 2 ∨ k = 3 := by omega
  · obtain rfl := Option.some.inj hk
    exact ⟨id, id⟩
  · obtain rfl := Option.some.inj hk
    exact ⟨id, (by decide : ¬ (1 : Nat) = 3)⟩

end Substitute
