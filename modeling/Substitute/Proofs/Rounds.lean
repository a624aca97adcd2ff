import Mathlib.Data.List.Rotate
import Mathlib.Data.Nat.ModEq
import Mathlib.Logic.Function.Iterate

/-!
# Going around a list

Steps that lead from each stop on a list to the one after it, and from the last one to the first, are at the `n`-th stop from where they started after `n` steps. So one step for each stop visits all of them, each once, and comes back.
-/

namespace Substitute

variable {α σ : Type} {stops : List α} {state : α → σ} {step : σ → σ} {a b : α} {i : Nat}

/-- What stands on a list without repeats is found there first, whatever is put behind. -/
theorem idxOf?_append_of_nodup [BEq α] [LawfulBEq α] (hnodup : stops.Nodup)
    (ha : stops[i]? = some a) (rest : List α) : (stops ++ rest).idxOf? a = some i := by
  obtain ⟨hi, rfl⟩ := List.getElem?_eq_some_iff.mp ha
  refine List.idxOf?_eq_some_iff.mpr ⟨by rw [List.length_append]; omega, ?_, fun j hj heq => ?_⟩
  · exact List.getElem_append_left hi
  · rw [List.getElem_append_left (hj.trans hi)] at heq
    exact absurd (hnodup.getElem_inj_iff.mp heq) (by omega)

theorem idxOf?_of_nodup [BEq α] [LawfulBEq α] (hnodup : stops.Nodup) (ha : stops[i]? = some a) :
    stops.idxOf? a = some i := by
  have hfound := idxOf?_append_of_nodup hnodup ha []
  rwa [List.append_nil] at hfound

theorem exists_getElem?_add_mod (ha : a ∈ stops) (i : Nat) :
    ∃ n < stops.length, stops[(i + n) % stops.length]? = some a := by
  obtain ⟨n, hn⟩ := List.mem_iff_getElem?.mp (List.mem_rotate.mpr ha : a ∈ stops.rotate i)
  have hlt := (List.getElem?_eq_some_iff.mp hn).1
  rw [List.length_rotate] at hlt
  rw [List.getElem?_rotate hlt, Nat.add_comm] at hn
  exact ⟨n, hlt, hn⟩

/-- The step takes the state of each stop to that of the stop after it, around the list. -/
def GoesAround (stops : List α) (state : α → σ) (step : σ → σ) : Prop :=
  ∀ i a b, stops[i]? = some a → stops[(i + 1) % stops.length]? = some b →
    step (state a) = state b

namespace GoesAround

theorem iterate (h : GoesAround stops state step) (ha : stops[i]? = some a) (n : Nat)
    (hb : stops[(i + n) % stops.length]? = some b) : step^[n] (state a) = state b := by
  obtain ⟨hi, -⟩ := List.getElem?_eq_some_iff.mp ha
  induction n generalizing b with
  | zero =>
    rw [Nat.add_zero, Nat.mod_eq_of_lt hi, ha] at hb
    exact congrArg state (Option.some.inj hb)
  | succ n ih =>
    have hbefore : (i + n) % stops.length < stops.length := Nat.mod_lt _ (by omega)
    have hstop := List.getElem?_eq_getElem hbefore
    rw [Function.iterate_succ_apply', ih hstop]
    exact h _ _ _ hstop (by rwa [Nat.mod_add_mod])

theorem iterate_length (h : GoesAround stops state step) (ha : a ∈ stops) :
    step^[stops.length] (state a) = state a := by
  obtain ⟨i, hi⟩ := List.mem_iff_getElem?.mp ha
  obtain ⟨hlt, -⟩ := List.getElem?_eq_some_iff.mp hi
  refine h.iterate hi _ ?_
  rw [Nat.add_mod_right, Nat.mod_eq_of_lt hlt, hi]

/-- Where the stops differ in their states, the steps come back in whole rounds only. -/
theorem iterate_eq_self_iff (h : GoesAround stops state step) (hnodup : stops.Nodup)
    (hstate : Function.Injective state) (ha : a ∈ stops) (n : Nat) :
    step^[n] (state a) = state a ↔ stops.length ∣ n := by
  obtain ⟨i, hi⟩ := List.mem_iff_getElem?.mp ha
  obtain ⟨hlt, rfl⟩ := List.getElem?_eq_some_iff.mp hi
  have hplace : (i + n) % stops.length < stops.length := Nat.mod_lt _ (by omega)
  rw [h.iterate hi n (List.getElem?_eq_getElem hplace), hstate.eq_iff, hnodup.getElem_inj_iff]
  calc (i + n) % stops.length = i ↔ i + n ≡ i [MOD stops.length] := by
        rw [Nat.ModEq, Nat.mod_eq_of_lt hlt]
    _ ↔ stops.length ∣ n := Nat.add_modEq_left_iff

theorem map_iterate (h : GoesAround stops state step) (ha : stops[i]? = some a) :
    ((List.range stops.length).map fun n => step^[n + 1] (state a)) =
      (stops.rotate (i + 1)).map state := by
  apply List.ext_getElem
  · simp
  · intro n hn _
    rw [List.length_map, List.length_range] at hn
    rw [List.getElem_map, List.getElem_map, List.getElem_range, List.getElem_rotate]
    refine h.iterate ha (n + 1) ?_
    rw [show i + (n + 1) = n + (i + 1) by omega, List.getElem?_eq_getElem]

theorem map_iterate_perm (h : GoesAround stops state step) (ha : a ∈ stops) :
    ((List.range stops.length).map fun n => step^[n + 1] (state a)).Perm (stops.map state) := by
  obtain ⟨i, hi⟩ := List.mem_iff_getElem?.mp ha
  rw [h.map_iterate hi]
  exact (List.rotate_perm stops (i + 1)).map state

end GoesAround

end Substitute
