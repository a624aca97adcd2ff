import Substitute.Proofs.Command.Toggle
import Substitute.Proofs.Rounds

/-!
# When the dialects come around

A step puts the next dialect in front of the body of the search and reads the dialect again off what it wrote. A marker is read as itself. Without a marker, though, the body opens the search, and a marker that it opens with is taken from it as the dialect. Steps never give a body back what it has lost, so a round of the dialects ends where it began unless it comes past no dialect with such a body.
-/

namespace Substitute

theorem detectDialect_eq_nil_iff {search : Text} :
    detectDialect search = [] ↔ ∀ marker ∈ dialectMarkers, ¬marker <+: search := by
  rw [detectDialect]
  cases hfind : dialectMarkers.find? fun marker => marker.isPrefixOf search with
  | none =>
    rw [List.find?_eq_none] at hfind
    refine iff_of_true rfl fun marker hmem hopens => ?_
    exact hfind marker hmem (List.isPrefixOf_iff_prefix.mpr hopens)
  | some marker =>
    have hmem := List.mem_of_find?_eq_some hfind
    have hopens := List.find?_some hfind
    obtain ⟨letter, rfl, -⟩ := exists_letter hmem
    exact iff_of_false (List.cons_ne_nil _ _) fun hnone =>
      hnone _ hmem (List.isPrefixOf_iff_prefix.mp hopens)

theorem detectDialect_append_of_ne {dialect body : Text} (h : IsDialect dialect)
    (hbody : dialect = [] → detectDialect body = []) :
    detectDialect (dialect ++ body) = dialect := by
  rcases h with rfl | h
  · exact hbody rfl
  · exact detectDialect_marker_append h body

namespace Command

variable {c changed : Command} {dialects : List Text} {dialect next : Text} {i n : Nat}

/-- The command after `n` steps of the dialect; none where there is no dialect to step to. -/
def cycleDialects? (dialects : List Text) (n : Nat) (c : Command) : Option Command :=
  (fun found : Option Command => found.bind (·.cycleDialect? dialects))^[n] (some c)

@[simp] theorem cycleDialects?_succ (dialects : List Text) (n : Nat) (c : Command) :
    c.cycleDialects? dialects (n + 1) =
      (c.cycleDialects? dialects n).bind (·.cycleDialect? dialects) :=
  Function.iterate_succ_apply' _ _ _

theorem cycleDialects?_add {m : Nat} (hn : c.cycleDialects? dialects n = some changed) :
    c.cycleDialects? dialects (m + n) = changed.cycleDialects? dialects m := by
  rw [cycleDialects?] at hn ⊢
  rw [Function.iterate_add_apply, hn, cycleDialects?]

/-! ### One step -/

theorem cycleDialect?_eq_some_iff :
    c.cycleDialect? dialects = some changed ↔
      ∃ next, nextDialect? dialects c.dialect = some next ∧
        changed = c.withSearch (next ++ c.searchBody) := by
  rw [cycleDialect?, Option.map_eq_some_iff]
  simp only [eq_comm]

theorem nextDialect?_of_nodup (hnodup : dialects.Nodup) (hi : dialects[i]? = some dialect) :
    nextDialect? dialects dialect = dialects[(i + 1) % dialects.length]? := by
  obtain ⟨hlt, -⟩ := List.getElem?_eq_some_iff.mp hi
  rw [nextDialect?, idxOf?_of_nodup hnodup hi]
  by_cases hlast : i + 1 < dialects.length
  · simp [Nat.mod_eq_of_lt hlast, hlast]
  · have hlength : i + 1 = dialects.length := by omega
    simp [hlength, List.head?_eq_getElem?]

private theorem searchBody_withSearch (hkept : detectDialect (next ++ c.searchBody) = next) :
    (c.withSearch (next ++ c.searchBody)).searchBody = c.searchBody := by
  rw [searchBody, withSearch, hkept]
  exact List.drop_left

/-- A body that is put behind no dialect loses the marker it opens with. -/
theorem length_searchBody_withSearch_lt (hnext : IsDialect next)
    (hlost : detectDialect (next ++ c.searchBody) ≠ next) :
    (c.withSearch (next ++ c.searchBody)).searchBody.length < c.searchBody.length := by
  rcases hnext with rfl | hmarker
  · obtain ⟨-, rest, hrest⟩ := exists_detectDialect c.searchBody
    have hmarker := List.length_pos_iff.mpr hlost
    have hlength := congrArg List.length hrest
    rw [List.length_append] at hlength
    rw [List.nil_append] at hmarker ⊢
    simp only [searchBody, withSearch, List.length_drop] at hmarker hlength ⊢
    omega
  · exact absurd (detectDialect_marker_append hmarker _) hlost

theorem length_searchBody_withSearch_le (hnext : IsDialect next) :
    (c.withSearch (next ++ c.searchBody)).searchBody.length ≤ c.searchBody.length := by
  by_cases hkept : detectDialect (next ++ c.searchBody) = next
  · rw [searchBody_withSearch hkept]
  · exact (length_searchBody_withSearch_lt hnext hkept).le

/-! ### Rounds of steps -/

private theorem exists_cycleDialects (hne : dialects ≠ []) (n : Nat) (c : Command) :
    ∃ dialect search, c.cycleDialects? dialects n = some { c with dialect, search } := by
  induction n with
  | zero => exact ⟨c.dialect, c.search, rfl⟩
  | succ n ih =>
    obtain ⟨dialect, search, hn⟩ := ih
    obtain ⟨next, hnext⟩ := exists_nextDialect hne dialect
    rw [cycleDialects?_succ, hn, Option.bind_some, cycleDialect?, hnext]
    exact ⟨_, _, rfl⟩

private theorem length_searchBody_le (hknown : ∀ dialect ∈ dialects, IsDialect dialect)
    (hn : c.cycleDialects? dialects n = some changed) :
    changed.searchBody.length ≤ c.searchBody.length := by
  induction n generalizing changed with
  | zero =>
    obtain rfl := Option.some.inj hn
    exact le_rfl
  | succ n ih =>
    rw [cycleDialects?_succ, Option.bind_eq_some_iff] at hn
    obtain ⟨before, hbefore, hstep⟩ := hn
    obtain ⟨next, hnext, rfl⟩ := cycleDialect?_eq_some_iff.mp hstep
    exact (length_searchBody_withSearch_le (hknown next (nextDialect?_mem hnext))).trans
      (ih hbefore)

/-- The command with another dialect in front of the body of its search. -/
def inDialect (c : Command) (dialect : Text) : Command :=
  { c with dialect, search := dialect ++ c.searchBody }

theorem searchBody_inDialect (c : Command) (dialect : Text) :
    (c.inDialect dialect).searchBody = c.searchBody :=
  List.drop_left

@[simp] theorem inDialect_self (hc : c.dialect = detectDialect c.search) : c.inDialect c.dialect = c := by
  rw [inDialect, ← search_eq_append hc]

theorem cycleDialect?_inDialect (hnext : nextDialect? dialects dialect = some next) :
    (c.inDialect dialect).cycleDialect? dialects =
      some ((c.inDialect dialect).withSearch (next ++ c.searchBody)) := by
  rw [cycleDialect?_eq_some_iff, searchBody_inDialect]
  exact ⟨next, hnext, rfl⟩

theorem withSearch_inDialect (hkept : detectDialect (next ++ c.searchBody) = next) :
    (c.inDialect dialect).withSearch (next ++ c.searchBody) = c.inDialect next := by
  rw [withSearch, hkept]
  rfl

theorem cycleDialect?_inDialect_of_kept (hnext : nextDialect? dialects dialect = some next)
    (hkept : detectDialect (next ++ c.searchBody) = next) :
    (c.inDialect dialect).cycleDialect? dialects = some (c.inDialect next) := by
  rw [cycleDialect?_inDialect hnext, withSearch_inDialect hkept]

theorem goesAround_inDialect (hnodup : dialects.Nodup)
    (hkept : ∀ dialect ∈ dialects, detectDialect (dialect ++ c.searchBody) = dialect) :
    GoesAround dialects (fun dialect => some (c.inDialect dialect))
      (·.bind (·.cycleDialect? dialects)) := by
  intro i dialect next hi hnext
  exact cycleDialect?_inDialect_of_kept ((nextDialect?_of_nodup hnodup hi).trans hnext)
    (hkept next (List.mem_of_getElem? hnext))

/-- After `n` steps the command is in the dialect `n` places further, unless the body has lost a marker on the way. -/
theorem exists_cycleDialects_inDialect (hnodup : dialects.Nodup)
    (hknown : ∀ dialect ∈ dialects, IsDialect dialect) (hc : c.dialect = detectDialect c.search)
    (hi : dialects[i]? = some c.dialect) (n : Nat) :
    ∃ changed, c.cycleDialects? dialects n = some changed ∧
      changed.dialect = detectDialect changed.search ∧
      ((∃ dialect, dialects[(i + n) % dialects.length]? = some dialect ∧
          changed = c.inDialect dialect) ∨
        changed.searchBody.length < c.searchBody.length) := by
  have hlt := (List.getElem?_eq_some_iff.mp hi).1
  induction n with
  | zero =>
    refine ⟨c, rfl, hc, .inl ⟨c.dialect, ?_, (inDialect_self hc).symm⟩⟩
    rw [Nat.add_zero, Nat.mod_eq_of_lt hlt, hi]
  | succ n ih =>
    obtain ⟨before, hbefore, -, ⟨dialect, hn, rfl⟩ | hlost⟩ := ih
    · -- the body is as it was, so the next dialect is read as itself or takes a marker from it
      obtain ⟨next, hnext⟩ : ∃ next,
          dialects[((i + n) % dialects.length + 1) % dialects.length]? = some next :=
        ⟨_, List.getElem?_eq_getElem (Nat.mod_lt _ (Nat.zero_lt_of_lt hlt))⟩
      refine ⟨(c.inDialect dialect).withSearch (next ++ c.searchBody), ?_, rfl, ?_⟩
      · rw [cycleDialects?_succ, hbefore, Option.bind_some,
          cycleDialect?_inDialect ((nextDialect?_of_nodup hnodup hn).trans hnext)]
      · by_cases hkept : detectDialect (next ++ c.searchBody) = next
        · refine .inl ⟨next, ?_, withSearch_inDialect hkept⟩
          rw [← hnext, Nat.mod_add_mod, Nat.add_assoc]
        · have hless := length_searchBody_withSearch_lt (c := c.inDialect dialect)
            (hknown next (List.mem_of_getElem? hnext)) (by rwa [searchBody_inDialect])
          rw [searchBody_inDialect] at hless
          exact .inr hless
    · -- the body has lost a marker, and what is left of it does not grow again
      obtain ⟨next, hnext⟩ := exists_nextDialect (List.ne_nil_of_mem (List.mem_of_getElem? hi))
        before.dialect
      have hless := length_searchBody_withSearch_le (c := before)
        (hknown next (nextDialect?_mem hnext))
      refine ⟨before.withSearch (next ++ before.searchBody), ?_, rfl,
        .inr (hless.trans_lt hlost)⟩
      rw [cycleDialects?_succ, hbefore, Option.bind_some]
      exact cycleDialect?_eq_some_iff.mpr ⟨next, hnext, rfl⟩

/-- The dialects differ and are known ones, and the command is in the one that its search opens with. One step for each of them gives the command back exactly when none of them is empty or the body opens with no marker. No number of steps changes anything but the search and its dialect. -/
theorem cycleDialects?_length_iff (hnodup : dialects.Nodup)
    (hknown : ∀ dialect ∈ dialects, IsDialect dialect) (hc : c.dialect = detectDialect c.search)
    (hmem : c.dialect ∈ dialects) :
    (c.cycleDialects? dialects dialects.length = some c ↔
      [] ∉ dialects ∨ ∀ marker ∈ dialectMarkers, ¬marker <+: c.searchBody) ∧
    ∀ n, ∃ dialect search, c.cycleDialects? dialects n = some { c with dialect, search } := by
  refine ⟨?_, fun n => exists_cycleDialects (List.ne_nil_of_mem hmem) n c⟩
  rw [← detectDialect_eq_nil_iff]
  constructor
  · intro hback
    rw [or_iff_not_imp_left, not_not]
    intro hempty
    obtain ⟨i, hi⟩ := List.mem_iff_getElem?.mp hmem
    -- the steps come past the empty dialect, and the body cannot have lost anything there
    obtain ⟨n, hn, hpast⟩ := exists_getElem?_add_mod hempty i
    obtain ⟨there, hthere, hread, ⟨dialect, hdialect, rfl⟩ | hlost⟩ :=
      exists_cycleDialects_inDialect hnodup hknown hc hi n
    · obtain rfl : [] = dialect := Option.some.inj (hpast.symm.trans hdialect)
      exact hread.symm
    · have hrest : there.cycleDialects? dialects (dialects.length - n) = some c := by
        rw [← cycleDialects?_add hthere, Nat.sub_add_cancel hn.le, hback]
      exact absurd (length_searchBody_le hknown hrest) (Nat.not_le_of_lt hlost)
  · intro h
    have hkept : ∀ dialect ∈ dialects, detectDialect (dialect ++ c.searchBody) = dialect := by
      intro dialect hdialect
      refine detectDialect_append_of_ne (hknown dialect hdialect) fun hnil => ?_
      exact h.resolve_left fun hnot => hnot (hnil ▸ hdialect)
    have hround := (goesAround_inDialect hnodup hkept).iterate_length hmem
    simp only [inDialect_self hc] at hround
    exact hround

/-- A body that opens with a marker loses it in the round, which ends in another command; without the empty dialect it is kept. -/
theorem cycleDialects?_length_iff_second_marker :
    let dialects : List Text := ["\\v", "\\m", "\\M", "\\V", ""]
    let c := make "/" "%s" "\\mfoo" "bar" "g"
    let doubled := make "/" "%s" "\\m\\vfoo" "bar" "g"
    c.cycleDialects? dialects 5 = some c ∧ doubled.cycleDialects? dialects 5 ≠ some doubled ∧
      doubled.cycleDialects? dialects.dropLast 4 = some doubled := by
  intro dialects c doubled
  have hnodup : dialects.Nodup := by decide
  have hknown : ∀ dialect ∈ dialects, IsDialect dialect := by
    unfold IsDialect
    decide
  have hnodup' : dialects.dropLast.Nodup := hnodup.sublist (List.dropLast_sublist dialects)
  have hknown' : ∀ dialect ∈ dialects.dropLast, IsDialect dialect :=
    fun dialect h => hknown dialect (List.mem_of_mem_dropLast h)
  refine ⟨?_, ?_, ?_⟩
  · exact (cycleDialects?_length_iff hnodup hknown rfl (by decide)).1.mpr (.inr (by decide))
  · intro hback
    have h := (cycleDialects?_length_iff (c := doubled) hnodup hknown rfl (by decide)).1.mp hback
    exact absurd h (by decide)
  · exact (cycleDialects?_length_iff hnodup' hknown' rfl (by decide)).1.mpr (.inl (by decide))

/-- The third step leaves the second marker to open the search, and the two steps after it start from there. -/
example : (make "/" "%s" "\\m\\vfoo" [] []).cycleDialects? ["\\v", "\\m", "\\M", "\\V", ""] 5 =
    some (make "/" "%s" "\\Mfoo" [] []) := by
  decide

end Command

end Substitute
