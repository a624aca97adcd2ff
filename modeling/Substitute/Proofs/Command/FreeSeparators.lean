import Substitute.Proofs.Command.Toggle
import Substitute.Proofs.Rounds

/-!
# The separators that are free

A candidate is free for a command when neither its search nor its replace term holds it. Stepping the separator goes to the first free candidate that is met on the way around the list. From a free separator on, the steps are therefore those of a list that holds the free candidates only: they go around it.
-/

namespace Substitute

section candidatesAfter

variable {candidates : List Text} {current : Text} {i : Nat}

private theorem candidatesAfter_of_not_mem (hnew : current ∉ candidates) :
    candidatesAfter candidates current = candidates := by
  rw [candidatesAfter, List.idxOf?_eq_none_iff.mpr hnew]

theorem candidatesAfter_append_current (hnodup : candidates.Nodup)
    (hi : candidates[i]? = some current) :
    candidatesAfter candidates current ++ [current] = candidates.rotate (i + 1) := by
  obtain ⟨hlt, rfl⟩ := List.getElem?_eq_some_iff.mp hi
  rw [candidatesAfter, idxOf?_of_nodup hnodup hi, List.rotate_eq_drop_append_take hlt,
    List.append_assoc, List.take_append_getElem]

theorem length_candidatesAfter (hnodup : candidates.Nodup) (hi : candidates[i]? = some current) :
    (candidatesAfter candidates current).length + 1 = candidates.length := by
  have hlength := congrArg List.length (candidatesAfter_append_current hnodup hi)
  rwa [List.length_append, List.length_rotate] at hlength

private theorem getElem?_candidatesAfter (hnodup : candidates.Nodup) (hi : candidates[i]? = some current)
    {k : Nat} (hk : k + 1 < candidates.length) :
    (candidatesAfter candidates current)[k]? = candidates[(i + (k + 1)) % candidates.length]? := by
  have hlength := length_candidatesAfter hnodup hi
  have hround := congrArg (·[k]?) (candidatesAfter_append_current hnodup hi)
  rw [List.getElem?_append_left (by omega), List.getElem?_rotate (by omega)] at hround
  rw [hround]
  congr 2
  omega

theorem candidatesAfter_append_cons {before : List Text} (hnew : current ∉ before)
    (after : List Text) : candidatesAfter (before ++ current :: after) current = after ++ before := by
  have hindex : (before ++ current :: after).idxOf? current = some before.length := by
    refine List.idxOf?_eq_some_iff.mpr ⟨by simp, by simp, fun j hj heq => hnew ?_⟩
    rw [List.getElem_append_left hj] at heq
    exact heq ▸ List.getElem_mem hj
  rw [candidatesAfter, hindex]
  simp

/-- Where only some of the candidates count, the first of these after a counting one is the one after it among them. -/
theorem find?_candidatesAfter (counts : Text → Bool) (hmem : current ∈ candidates)
    (hcurrent : counts current = true) :
    (candidatesAfter candidates current).find? counts =
      (candidatesAfter (candidates.filter counts) current).head? := by
  obtain ⟨before, after, rfl, hnew⟩ := List.eq_append_cons_of_mem hmem
  have hnew' : current ∉ before.filter counts := fun h => hnew (List.mem_of_mem_filter h)
  rw [List.filter_append, List.filter_cons_of_pos hcurrent, candidatesAfter_append_cons hnew,
    candidatesAfter_append_cons hnew', ← List.filter_append, List.head?_filter]

end candidatesAfter

namespace Command

variable {c : Command} {candidates : List Text} {i : Nat} {t : Text}

/-- A text that stands neither in the search nor in the replace term. -/
def IsFree (c : Command) (t : Text) : Prop :=
  ¬t <:+: c.search ∧ ¬t <:+: c.replace

instance (c : Command) : DecidablePred c.IsFree :=
  fun t => inferInstanceAs (Decidable (¬t <:+: c.search ∧ ¬t <:+: c.replace))

def freeAmong (c : Command) (candidates : List Text) : List Text :=
  candidates.filter (c.IsFree ·)

theorem mem_freeAmong : t ∈ c.freeAmong candidates ↔ t ∈ candidates ∧ c.IsFree t := by
  rw [freeAmong, List.mem_filter, decide_eq_true_iff]

/-- On the way from position `i` around the candidates, which ends before `i` is reached again, `t` is the first free one that is met. -/
def FirstMet (candidates free : List Text) (i : Nat) (t : Text) : Prop :=
  ∃ k, 0 < k ∧ k < candidates.length ∧ candidates[(i + k) % candidates.length]? = some t ∧
    t ∈ free ∧ ∀ j s, 0 < j → j < k → candidates[(i + j) % candidates.length]? = some s → s ∉ free

/-! ### One step -/

theorem cycleSeparator_eq (c : Command) (candidates : List Text) :
    c.cycleSeparator candidates =
      { c with
        separator :=
          ((candidatesAfter candidates c.separator).find? (c.IsFree ·)).getD c.separator } := by
  have hfree : (fun t : Text => !t.occursIn c.search && !t.occursIn c.replace) =
      fun t => decide (c.IsFree t) := by
    funext t
    rw [Bool.eq_iff_iff, Bool.and_eq_true, Bool.not_eq_true', Bool.not_eq_true',
      ← Bool.not_eq_true, ← Bool.not_eq_true, Text.occursIn_iff_isInfix, Text.occursIn_iff_isInfix,
      decide_eq_true_iff, IsFree]
  rw [cycleSeparator, hfree]
  cases (candidatesAfter candidates c.separator).find? (c.IsFree ·) <;> rfl

theorem find?_eq_some_iff_firstMet (hnodup : candidates.Nodup)
    (hi : candidates[i]? = some c.separator) :
    (candidatesAfter candidates c.separator).find? (c.IsFree ·) = some t ↔
      FirstMet candidates (c.freeAmong candidates) i t := by
  have hlength := length_candidatesAfter hnodup hi
  have hmet {k : Nat} {s : Text} (hk : k + 1 < candidates.length) :
      (candidatesAfter candidates c.separator)[k]? = some s ↔
        candidates[(i + (k + 1)) % candidates.length]? = some s := by
    rw [getElem?_candidatesAfter hnodup hi hk]
  rw [List.find?_eq_some_iff_getElem]
  constructor
  · rintro ⟨hfree, k, hk, rfl, hbefore⟩
    have hget := (hmet (by omega)).mp (List.getElem?_eq_getElem hk)
    refine ⟨k + 1, by omega, by omega, hget, ?_, fun j s hpos hj hs hmem => ?_⟩
    · exact mem_freeAmong.mpr ⟨List.mem_of_getElem? hget, of_decide_eq_true hfree⟩
    · obtain ⟨j, rfl⟩ := Nat.exists_eq_add_one.mpr hpos
      obtain ⟨_, heq⟩ := List.getElem?_eq_some_iff.mp ((hmet (by omega)).mpr hs)
      have hnot := hbefore j (by omega)
      rw [heq, Bool.not_eq_true', decide_eq_false_iff_not] at hnot
      exact hnot (mem_freeAmong.mp hmem).2
  · rintro ⟨k, hpos, hk, hget, hmem, hbefore⟩
    obtain ⟨k, rfl⟩ := Nat.exists_eq_add_one.mpr hpos
    obtain ⟨hlt, heq⟩ := List.getElem?_eq_some_iff.mp ((hmet hk).mpr hget)
    refine ⟨decide_eq_true (mem_freeAmong.mp hmem).2, k, hlt, heq, fun j hj => ?_⟩
    have hj' := (hmet (by omega)).mp (List.getElem?_eq_getElem (hj.trans hlt))
    have hnot := hbefore (j + 1) _ (by omega) (by omega) hj'
    rw [mem_freeAmong, not_and] at hnot
    simpa using hnot (List.mem_of_getElem? hj')

/-! ### Around the free ones -/

theorem goesAround_freeAmong (c : Command) (hnodup : candidates.Nodup) :
    GoesAround (c.freeAmong candidates) (fun separator => { c with separator })
      (·.cycleSeparator candidates) := by
  intro i a b ha hb
  obtain ⟨hmem, hfree⟩ := mem_freeAmong.mp (List.mem_of_getElem? ha)
  have hlt := (List.getElem?_eq_some_iff.mp ha).1
  have hround : candidatesAfter (c.freeAmong candidates) a ++ [a] =
      (c.freeAmong candidates).rotate (i + 1) :=
    candidatesAfter_append_current (hnodup.filter _) ha
  have hfirst : ((c.freeAmong candidates).rotate (i + 1)).head? = some b := by
    rw [List.head?_eq_getElem?, List.getElem?_rotate (Nat.zero_lt_of_lt hlt), Nat.zero_add, hb]
  have hnext : ((candidatesAfter candidates a).find? (c.IsFree ·)).getD a = b := by
    rw [← hround, List.head?_append, List.head?_cons, Option.or_some, Option.some.injEq] at hfirst
    rw [find?_candidatesAfter _ hmem (decide_eq_true hfree)]
    exact hfirst
  change ({ c with separator := a } : Command).cycleSeparator candidates = { c with separator := b }
  rw [cycleSeparator_eq]
  exact congrArg (fun separator => { c with separator }) hnext

/-- Stepping the separator over candidates that differ changes nothing else. From a candidate it goes to the first free one that is met on the way around, and stays where there is none. From any other separator it goes to the first free candidate, and stays where there is none. And from a free one, a step for each free candidate visits all of them, each once, and ends in the command as it was. -/
theorem cycleSeparator_around (c : Command) (hnodup : candidates.Nodup) :
    let free := c.freeAmong candidates
    let step : Command → Command := (·.cycleSeparator candidates)
    step c = { c with separator := (step c).separator } ∧
      (∀ i, candidates[i]? = some c.separator →
        (∀ t, FirstMet candidates free i t → step c = { c with separator := t }) ∧
          ((∀ t, ¬FirstMet candidates free i t) → step c = c)) ∧
      (c.separator ∉ candidates → step c = { c with separator := free.head?.getD c.separator }) ∧
      (c.separator ∈ free →
        ((List.range free.length).map fun n => step^[n + 1] c).Perm
            (free.map fun separator => { c with separator }) ∧
          step^[free.length] c = c) := by
  intro free step
  have hround := c.goesAround_freeAmong hnodup
  refine ⟨?_, fun i hi => ⟨fun t ht => ?_, fun hnone => ?_⟩, fun hnew => ?_, fun hfree => ⟨?_, ?_⟩⟩
  · simp only [step, cycleSeparator_eq]
  · simp only [step, cycleSeparator_eq, (find?_eq_some_iff_firstMet hnodup hi).mpr ht,
      Option.getD_some]
  · have hstays : (candidatesAfter candidates c.separator).find? (c.IsFree ·) = none :=
      Option.eq_none_iff_forall_ne_some.mpr fun t ht =>
        hnone t ((find?_eq_some_iff_firstMet hnodup hi).mp ht)
    simp only [step, cycleSeparator_eq, hstays, Option.getD_none]
  · simp only [step, free, cycleSeparator_eq, candidatesAfter_of_not_mem hnew, freeAmong,
      List.head?_filter]
  · exact hround.map_iterate_perm hfree
  · exact hround.iterate_length hfree

theorem cycleSeparator_around_held :
    let candidates : List Text := ["/", "?", "#", ":", "@"]
    let step : Command → Command := (·.cycleSeparator candidates)
    let c := make "/" "%s" "a?b" "@" "g"
    let unlisted := make "!" "%s" "a/b" [] []
    let held := make "/" "%s" "?#" ":@" []
    candidates.Nodup ∧ c.freeAmong candidates = (["/", "#", ":"] : List Text) ∧
      FirstMet candidates (c.freeAmong candidates) 0 "#" ∧
      step c = { c with separator := "#" } ∧
      ((List.range 3).map fun n => (step^[n + 1] c).separator).Perm (c.freeAmong candidates) ∧
      step^[3] c = c ∧
      step unlisted = { unlisted with separator := "?" } ∧ step held = held := by
  intro candidates step c unlisted held
  have hnodup : candidates.Nodup := by decide
  have hmet : FirstMet candidates (c.freeAmong candidates) 0 "#" := by
    refine ⟨2, by decide, by decide, rfl, by decide, fun j s hpos hj hs => ?_⟩
    obtain rfl : j = 1 := by omega
    obtain rfl := Option.some.inj hs
    decide
  have hnone : ∀ t, ¬FirstMet candidates (held.freeAmong candidates) 0 t := by
    intro t ht
    have hfind := (find?_eq_some_iff_firstMet hnodup rfl).mpr ht
    rw [show (candidatesAfter candidates held.separator).find? (held.IsFree ·) = none by decide]
      at hfind
    cases hfind
  obtain ⟨-, hlisted, -, hround⟩ := cycleSeparator_around c hnodup
  obtain ⟨hvisits, hback⟩ := hround (by decide)
  obtain ⟨-, -, hunlisted, -⟩ := cycleSeparator_around unlisted hnodup
  obtain ⟨-, hstays, -, -⟩ := cycleSeparator_around held hnodup
  refine ⟨hnodup, by decide, hmet, (hlisted 0 rfl).1 _ hmet, ?_, hback, hunlisted (by decide),
    (hstays 0 rfl).2 hnone⟩
  have hseparators := hvisits.map Command.separator
  rwa [List.map_map, List.map_map, show (Command.separator ∘ fun separator : Text =>
    { c with separator }) = id from rfl, List.map_id] at hseparators

end Command

end Substitute
