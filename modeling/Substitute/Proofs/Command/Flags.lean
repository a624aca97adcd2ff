import Mathlib.Data.List.Nodup
import Substitute.Proofs.Command.Toggle

/-!
# Flags as switches

Flags that are single characters are switches. Flags that stand in the order of the alphabet are those that are on, and toggling one of the alphabet switches it and leaves the others in their order.
-/

namespace Substitute

theorem Text.eraseAll_singleton (flag : Char) (t : Text) :
    Text.eraseAll [flag] t = t.filter (fun c => !(c == flag)) := by
  have hfrom : Text.eraseFrom [flag] 0 t = t.filter (fun c => !(c == flag)) := by
    induction t with
    | nil => rfl
    | cons c rest ih =>
      rw [eraseFrom, List.filter_cons]
      by_cases hc : c = flag
      · subst hc
        simpa using ih
      · have hc' : ¬flag = c := fun h => hc h.symm
        simp [hc, hc', ih]
  rw [eraseAll]
  exact hfrom

theorem filter_mem_of_sublist {l₁ l₂ : List Char} (hsub : l₁.Sublist l₂) (hnodup : l₂.Nodup) :
    l₂.filter (fun c => decide (c ∈ l₁)) = l₁ := by
  induction hsub with
  | slnil => rfl
  | @cons l₁ l₂ c hsub ih =>
    obtain ⟨hnew, hnodup⟩ := List.nodup_cons.mp hnodup
    have hnot : c ∉ l₁ := fun h => hnew (hsub.subset h)
    rw [List.filter_cons_of_neg (by simpa using hnot), ih hnodup]
  | @cons_cons l₁ l₂ c hsub ih =>
    obtain ⟨hnew, hnodup⟩ := List.nodup_cons.mp hnodup
    rw [List.filter_cons_of_pos (by simp)]
    congr 1
    calc l₂.filter (fun d => decide (d ∈ c :: l₁)) = l₂.filter (fun d => decide (d ∈ l₁)) := by
          apply List.filter_congr
          intro d hd
          have hne : d ≠ c := fun h => hnew (h ▸ hd)
          simp [hne]
      _ = l₁ := ih hnodup

/-! ### Alphabets of single characters -/

theorem exists_chars {alphabet : List Text} (hsingle : ∀ t ∈ alphabet, ∃ c, t = [c]) :
    ∃ chars : List Char, alphabet = chars.map fun c => [c] := by
  induction alphabet with
  | nil => exact ⟨[], rfl⟩
  | cons t rest ih =>
    obtain ⟨c, rfl⟩ := hsingle t List.mem_cons_self
    obtain ⟨chars, rfl⟩ := ih fun other hmem => hsingle other (List.mem_cons_of_mem _ hmem)
    exact ⟨c :: chars, rfl⟩

@[simp] theorem flatten_filter_chars (chars : List Char) (on : Text → Bool) :
    ((chars.map fun c => [c]).filter on).flatten = chars.filter fun c => on [c] := by
  induction chars with
  | nil => rfl
  | cons c rest ih =>
    by_cases hc : on [c] = true
    · simpa [hc] using ih
    · simpa [hc] using ih

namespace Command

/-- The flags of the alphabet that are on, in its order. -/
def flagsOn (alphabet : List Text) (on : Text → Bool) : Text :=
  (alphabet.filter on).flatten

theorem flagsOn_of_sublist {alphabet : List Text} (hsingle : ∀ t ∈ alphabet, ∃ c, t = [c])
    (hnodup : alphabet.Nodup) {flags : Text} (hflags : flags.Sublist alphabet.flatten) :
    flagsOn alphabet (fun f => f.occursIn flags) = flags := by
  obtain ⟨chars, rfl⟩ := exists_chars hsingle
  have hall : (chars.map fun c => [c]).flatten = chars := by
    have h := flatten_filter_chars chars fun _ => true
    rwa [List.filter_true, List.filter_true] at h
  rw [hall] at hflags
  rw [flagsOn, flatten_filter_chars]
  simp only [Text.occursIn_singleton_eq]
  exact filter_mem_of_sublist hflags hnodup.of_map

theorem toggleFlag_flagsOn {c : Command} {alphabet : List Text} {flag : Text} {on : Text → Bool}
    (hsingle : ∀ t ∈ alphabet, ∃ c, t = [c]) (hflag : flag ∈ alphabet)
    (hc : c.flags = flagsOn alphabet on) :
    c.toggleFlag flag alphabet =
      { c with flags := flagsOn alphabet fun f => on f != decide (f = flag) } := by
  obtain ⟨chars, rfl⟩ := exists_chars hsingle
  obtain ⟨f, hf, rfl⟩ := List.mem_map.mp hflag
  rw [flagsOn, flatten_filter_chars] at hc
  have hoccurs : ∀ g ∈ chars, Text.occursIn [g] c.flags = on [g] := by
    intro g hg
    rw [Bool.eq_iff_iff, Text.occursIn_singleton, hc, List.mem_filter]
    exact ⟨fun h => h.2, fun h => ⟨hg, h⟩⟩
  rw [toggleFlag, hoccurs f hf, flagsOn, flatten_filter_chars, flatten_filter_chars]
  by_cases hon : on [f] = true
  · rw [if_pos hon, Text.eraseAll_singleton, hc, List.filter_filter]
    congr 1
    apply List.filter_congr
    intro g _
    by_cases hg : g = f
    · subst hg
      simp [hon]
    · simp [hg]
  · rw [if_neg hon]
    congr 1
    apply List.filter_congr
    intro g hg
    rw [hoccurs g hg]
    by_cases hgf : g = f
    · subst hgf
      simp [hon]
    · simp [hgf]

end Command

end Substitute
