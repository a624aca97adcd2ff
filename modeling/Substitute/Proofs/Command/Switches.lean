import Mathlib.Algebra.Ring.Parity
import Mathlib.Data.Set.List
import Substitute.Proofs.Command.Flags
import Substitute.Proofs.Settings.Accepted

/-!
# Switching flags

Switching a flag of the alphabet leaves the others of it as they are. Characters outside the alphabet stay when a flag is removed and go when one is added, since adding writes the flags anew from the alphabet. From then on they stand in its order, and of each flag only counts how often it was switched.
-/

namespace Substitute

namespace SettingsDraft

theorem exists_chars_of_no_problems {v : Value} (hnone : flagProblems v = .ok []) :
    ∃ chars : List Char, v.elements = .ok (chars.map fun char => .text [char]) := by
  simp only [flagProblems, bind_eq_ok_iff, pure_eq_ok_iff, List.append_eq_nil_iff] at hnone
  obtain ⟨items, helements, _, hinvalid, -, rfl⟩ := hnone
  have hsingle := List.filter_eq_nil_iff.mp ((complaints_eq_nil _ _).mp hinvalid)
  have hchars : items ∈ Set.range (List.map fun char : Char => Value.text [char]) := by
    rw [Set.range_list_map]
    intro item hmem
    have h := hsingle item hmem
    unfold isSingleChar at h
    split at h
    · exact ⟨_, rfl⟩
    · simp at h
  obtain ⟨chars, rfl⟩ := hchars
  exact ⟨chars, helements⟩

end SettingsDraft

namespace Command

variable {c : Command} {chars calls : List Char} {flag other : Char}

/-! ### One flag -/

theorem toggleFlag_chars (c : Command) (flag : Char) (chars : List Char) :
    c.toggleFlag [flag] (chars.map fun char => [char]) =
      { c with
        flags :=
          if flag ∈ c.flags then c.flags.filter (· != flag)
          else chars.filter fun char => decide (char ∈ c.flags) || char == flag } := by
  rw [toggleFlag, Text.occursIn_singleton_eq, Text.eraseAll_singleton, flatten_filter_chars]
  by_cases hflag : flag ∈ c.flags
  · simp [hflag, bne]
  · simp [hflag]

theorem mem_toggleFlag_chars_iff :
    other ∈ (c.toggleFlag [flag] (chars.map fun char => [char])).flags ↔
      if flag ∈ c.flags then other ∈ c.flags ∧ other ≠ flag
      else other ∈ chars ∧ (other ∈ c.flags ∨ other = flag) := by
  rw [toggleFlag_chars]
  dsimp only
  split
  · rw [List.mem_filter, bne_iff_ne]
  · rw [List.mem_filter, Bool.or_eq_true, decide_eq_true_iff, beq_iff_eq]

/-- Switching a flag of an alphabet that passes the check changes the flags alone. The flag is there afterwards exactly when it was not, and any other character when it was and either the flag is removed or the character belongs to the alphabet. -/
theorem mem_toggleFlag_iff {d : SettingsDraft} (haccepted : d.problems = .ok []) :
    ∃ chars : List Char, d.flags.elements = .ok (chars.map fun char => .text [char]) ∧
      ∀ flag ∈ chars, ∀ c : Command,
        let changed := c.toggleFlag [flag] (chars.map fun char => [char])
        changed = { c with flags := changed.flags } ∧
          (flag ∈ changed.flags ↔ flag ∉ c.flags) ∧
          ∀ other, other ≠ flag →
            (other ∈ changed.flags ↔ other ∈ c.flags ∧ (flag ∈ c.flags ∨ other ∈ chars)) := by
  obtain ⟨-, -, hflags, -⟩ := (SettingsDraft.problems_eq_nil d).mp haccepted
  obtain ⟨chars, helements⟩ := SettingsDraft.exists_chars_of_no_problems hflags
  refine ⟨chars, helements, fun flag hmem c => ?_⟩
  intro changed
  refine ⟨?_, ?_, fun other hne => ?_⟩
  · simp only [changed, toggleFlag_chars]
  · rw [mem_toggleFlag_chars_iff]
    by_cases hon : flag ∈ c.flags
    · simp [hon]
    · simp [hon, hmem]
  · rw [mem_toggleFlag_chars_iff]
    by_cases hon : flag ∈ c.flags
    · simp [hon, hne]
    · simp [hon, hne, and_comm]

/-- Under an alphabet that lists a flag twice, adding another keeps it and drops a character that is not listed, which removing one keeps. -/
theorem mem_toggleFlag_iff_listed_twice :
    let d : SettingsDraft := { Settings.initial.toDraft with flags := .text "gcg" }
    let c := make "/" "%s" "foo" "bar" "Ig"
    d.problems = .ok [] ∧ 'g' ∈ (c.toggleFlag "c" ["g", "c", "g"]).flags ∧
      'I' ∉ (c.toggleFlag "c" ["g", "c", "g"]).flags ∧
      'I' ∈ (c.toggleFlag "g" ["g", "c", "g"]).flags := by
  intro d c
  have haccepted : d.problems = .ok [] := rfl
  obtain ⟨chars, helements, hswitch⟩ := mem_toggleFlag_iff haccepted
  have hinjective : Function.Injective fun char : Char => Value.text [char] := fun a b heq => by
    simpa using heq
  obtain rfl : ['g', 'c', 'g'] = chars :=
    List.map_injective_iff.mpr hinjective (Except.ok.inj helements)
  obtain ⟨-, -, hadded⟩ := hswitch 'c' (by decide) c
  obtain ⟨-, -, hremoved⟩ := hswitch 'g' (by decide) c
  refine ⟨haccepted, (hadded 'g' (by decide)).mpr (by decide), fun hkept => ?_,
    (hremoved 'I' (by decide)).mpr (by decide)⟩
  exact absurd ((hadded 'I' (by decide)).mp hkept) (by decide)

/-- Adding a flag of the built-in alphabet drops a flag that was typed and is not of it. -/
theorem toggleFlag_drops_unlisted :
    let c := make "/" "%s" "foo" "bar" "gI"
    Settings.initial.toDraft.problems = .ok [] ∧ ['c'] ∈ Settings.initial.flags ∧
      'I' ∈ c.flags ∧ 'I' ∉ (c.toggleFlag "c" Settings.initial.flags).flags ∧
      (c.toggleFlag "c" Settings.initial.flags).flags = ("gc" : Text) := by
  exact ⟨rfl, by decide, by decide, by decide, by decide⟩

/-! ### One flag after another -/

/-- Switches flags of an alphabet one after another. -/
def toggleFlags (chars calls : List Char) (c : Command) : Command :=
  calls.foldl (fun c flag => c.toggleFlag [flag] (chars.map fun char => [char])) c

theorem toggleFlags_cons (chars : List Char) (flag : Char) (calls : List Char) (c : Command) :
    c.toggleFlags chars (flag :: calls) =
      (c.toggleFlag [flag] (chars.map fun char => [char])).toggleFlags chars calls :=
  rfl

theorem toggleFlags_append (chars before after : List Char) (c : Command) :
    c.toggleFlags chars (before ++ after) =
      (c.toggleFlags chars before).toggleFlags chars after :=
  List.foldl_append

private theorem exists_toggleFlags (chars calls : List Char) (c : Command) :
    ∃ flags, c.toggleFlags chars calls = { c with flags } := by
  induction calls generalizing c with
  | nil => exact ⟨c.flags, rfl⟩
  | cons flag rest ih =>
    rw [toggleFlags_cons, toggleFlag_chars]
    exact ih _

theorem toggleFlag_chars_sublist (h : flag ∉ c.flags ∨ c.flags.Sublist chars) :
    (c.toggleFlag [flag] (chars.map fun char => [char])).flags.Sublist chars := by
  rw [toggleFlag_chars]
  dsimp only
  split
  · rename_i hon
    exact List.filter_sublist.trans (h.resolve_left (absurd hon))
  · exact List.filter_sublist

private theorem toggleFlags_sublist (hc : c.flags.Sublist chars) (calls : List Char) :
    (c.toggleFlags chars calls).flags.Sublist chars := by
  induction calls generalizing c with
  | nil => exact hc
  | cons flag rest ih => exact ih (toggleFlag_chars_sublist (.inr hc))

private theorem toggleFlag_chars_of_sublist (hnodup : chars.Nodup) (hc : c.flags.Sublist chars)
    (hmem : flag ∈ chars) :
    c.toggleFlag [flag] (chars.map fun char => [char]) =
      { c with
        flags := chars.filter fun char => decide (char ∈ c.flags) ^^ decide (char = flag) } := by
  have hon : c.flags = flagsOn (chars.map fun char => [char]) (Text.occursIn · c.flags) := by
    rw [flagsOn, flatten_filter_chars]
    simp only [Text.occursIn_singleton_eq]
    exact (filter_mem_of_sublist hc hnodup).symm
  rw [toggleFlag_flagsOn (by simp) (List.mem_map_of_mem hmem) hon, flagsOn, flatten_filter_chars]
  simp

/-- Flags in the order of the alphabet stay in it, and each is on in the end when it was switched an odd number of times from off or an even number of times from on. -/
theorem toggleFlags_of_sublist (hnodup : chars.Nodup) (hcalls : ∀ flag ∈ calls, flag ∈ chars)
    (hc : c.flags.Sublist chars) :
    c.toggleFlags chars calls =
      { c with
        flags :=
          chars.filter fun flag => decide (flag ∈ c.flags) ^^ decide (Odd (calls.count flag)) } := by
  induction calls generalizing c with
  | nil =>
    have hflags := filter_mem_of_sublist hc hnodup
    simp [toggleFlags, hflags]
  | cons call rest ih =>
    obtain ⟨hmem, hrest⟩ := List.forall_mem_cons.mp hcalls
    rw [toggleFlags_cons, toggleFlag_chars_of_sublist hnodup hc hmem,
      ih hrest List.filter_sublist]
    congr 1
    apply List.filter_congr
    intro flag hflag
    by_cases hsame : flag = call
    · subst hsame
      have hodd : decide (Odd (rest.count flag + 1)) = !decide (Odd (rest.count flag)) := by
        rw [← decide_not, decide_eq_decide]
        exact Nat.odd_add_one
      simp only [List.count_cons_self, hodd, List.mem_filter, hflag, true_and, decide_true,
        Bool.decide_eq_true, Bool.xor_true, Bool.xor_not, Bool.not_xor]
    · simp [hflag, hsame, Ne.symm hsame]

/-- Flags of an alphabet without repeats are switches. From flags in its order, any calls leave those that were on and switched an even number of times, or off and switched an odd number of times, in its order, and change nothing else. From any flags, the first call that adds one puts them in its order, where they stay. -/
theorem toggleFlags_independent (hnodup : chars.Nodup) (hcalls : ∀ flag ∈ calls, flag ∈ chars) :
    (∀ c : Command, c.flags.Sublist chars →
      c.toggleFlags chars calls =
        { c with
          flags :=
            chars.filter fun flag =>
              decide (flag ∈ c.flags) ^^ decide (Odd (calls.count flag)) }) ∧
    ∀ (c : Command) (before after : List Char) (flag : Char), calls = before ++ flag :: after →
      flag ∉ (c.toggleFlags chars before).flags →
      ∃ flags, c.toggleFlags chars calls = { c with flags } ∧ flags.Sublist chars := by
  refine ⟨fun c hc => toggleFlags_of_sublist hnodup hcalls hc, ?_⟩
  rintro c before after flag rfl hoff
  obtain ⟨flags, hflags⟩ := exists_toggleFlags chars (before ++ flag :: after) c
  refine ⟨flags, hflags, ?_⟩
  have hsublist : (c.toggleFlags chars (before ++ flag :: after)).flags.Sublist chars := by
    rw [toggleFlags_append, toggleFlags_cons]
    exact toggleFlags_sublist (toggleFlag_chars_sublist (.inl hoff)) after
  rwa [hflags] at hsublist

theorem toggleFlags_independent_typed :
    let chars := ['g', 'c', 'i']
    let c := make "/" "%s" "foo" "bar" "gc"
    let typed := make "/" "%s" "foo" "bar" "Icg"
    c.toggleFlags chars ['i', 'c', 'i', 'g', 'i'] = { c with flags := "i" } ∧
      ∃ flags, typed.toggleFlags chars ['g', 'i', 'c'] = { typed with flags } ∧
        flags.Sublist chars := by
  intro chars c typed
  have hnodup : chars.Nodup := by decide
  have hlisted : ∀ flag ∈ ['i', 'c', 'i', 'g', 'i'], flag ∈ chars := by simp [chars]
  have hlisted' : ∀ flag ∈ ['g', 'i', 'c'], flag ∈ chars := by simp [chars]
  obtain ⟨hswitches, -⟩ := toggleFlags_independent hnodup hlisted
  obtain ⟨-, hordered⟩ := toggleFlags_independent hnodup hlisted'
  refine ⟨?_, hordered typed ['g'] ['c'] 'i' rfl (by decide)⟩
  exact (hswitches c (by decide)).trans (by decide)

end Command

end Substitute
