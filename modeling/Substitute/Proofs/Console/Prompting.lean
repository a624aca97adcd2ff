import Substitute.Console.Prompt
import Substitute.Proofs.Steps

/-!
# Keys at a prompt

A prompt takes its keys one at a time, so it does not matter how they are cut into chunks, and the keys behind the one that ends it are left as they are. A key that may open a longer sequence waits; after any keys those that still wait are bound to nothing, and some sequence that is not complete opens with them.
-/

namespace Substitute

variable {s : Settings} {bindings : List Binding}

/-! ### Bound keys -/

private theorem ne_nil_of_keysOfSpec {spec : Text} {keys : List Text} (h : keysOfSpec spec = .ok keys) :
    keys ≠ [] := by
  rw [keysOfSpec] at h
  cases hwords : spec.words with
  | nil => simp [hwords] at h
  | cons name rest =>
    rw [hwords] at h
    obtain ⟨key, -, h⟩ := bind_eq_ok_iff.mp (List.mapM_cons.symm.trans h)
    obtain ⟨keys, -, h⟩ := bind_eq_ok_iff.mp h
    cases h
    exact List.cons_ne_nil key keys

private theorem ne_nil_of_bindingsOf {actions : List (Text × KeyAction)}
    (h : bindingsOf s actions = .ok bindings) : ∀ b ∈ bindings, b.keys ≠ [] := by
  induction actions generalizing bindings with
  | nil =>
    cases h
    exact nofun
  | cons action rest ih =>
    rw [bindingsOf] at h
    split at h
    · exact ih h
    · obtain ⟨keys, hkeys, h⟩ := bind_eq_ok_iff.mp h
      obtain ⟨more, hmore, h⟩ := bind_eq_ok_iff.mp h
      cases h
      exact List.forall_mem_cons.mpr ⟨ne_nil_of_keysOfSpec hkeys, ih hmore⟩

theorem ne_nil_of_keyBindings (h : keyBindings s = .ok bindings) : ∀ b ∈ bindings, b.keys ≠ [] := by
  rw [keyBindings] at h
  split at h
  · exact ne_nil_of_bindingsOf h
  · cases h
    exact nofun

private theorem boundAction?_nil (hbindings : ∀ b ∈ bindings, b.keys ≠ []) :
    boundAction? bindings [] = none := by
  rw [boundAction?, Option.map_eq_none_iff, List.find?_eq_none]
  intro b hb
  simpa using hbindings b (List.mem_reverse.mp hb)

namespace Prompt

variable {p q : Prompt} {keys rest : List Text} {action : PromptAction}

/-! ### Keys that wait -/

/-- Keys that are bound to nothing, though a longer sequence may come of them. -/
def Waits (bindings : List Binding) (keys : List Text) : Prop :=
  boundAction? bindings keys = none ∧ (keys = [] ∨ opensSequence bindings keys = true)

theorem reading?_eq_none_iff : reading? bindings p keys = none ↔ Waits bindings keys := by
  rw [reading?, Waits]
  cases boundAction? bindings keys with
  | some action => simp
  | none => simp [Decidable.or_iff_not_imp_left]

theorem longestMeaning_suffix (bindings : List Binding) (p : Prompt) (keys : List Text) (n : Nat) :
    ∃ taken, 0 < taken ∧ (longestMeaning bindings p keys n).2 = keys.drop taken := by
  induction n with
  | zero => exact ⟨1, Nat.one_pos, rfl⟩
  | succ n ih =>
    rw [longestMeaning]
    split
    · exact ⟨n + 1, Nat.succ_pos n, rfl⟩
    · exact ih

theorem reading?_spec (hbindings : ∀ b ∈ bindings, b.keys ≠ [])
    (h : reading? bindings p keys = some (action, rest)) :
    rest <:+ keys ∧ rest.length < keys.length := by
  have hkeys : keys ≠ [] := by
    rintro rfl
    have hwaits : reading? bindings p [] = none :=
      reading?_eq_none_iff.mpr ⟨boundAction?_nil hbindings, .inl rfl⟩
    exact nomatch hwaits.symm.trans h
  obtain ⟨taken, htaken, hrest⟩ : ∃ taken, 0 < taken ∧ rest = keys.drop taken := by
    rw [reading?] at h
    split at h
    · cases h
      exact ⟨keys.length, List.length_pos_iff.mpr hkeys, List.drop_length.symm⟩
    · split at h
      · exact nomatch h
      · obtain ⟨taken, htaken, hleft⟩ := longestMeaning_suffix bindings p keys keys.length
        refine ⟨taken, htaken, ?_⟩
        rw [← hleft, Option.some.inj h]
  have hlength := List.length_pos_iff.mpr hkeys
  rw [hrest]
  exact ⟨List.drop_suffix _ _, by rw [List.length_drop]; omega⟩

@[simp] theorem waiting_edited (s : Settings) (p : Prompt) (line : Text) (cursor : Nat) :
    (p.edited s line cursor).waiting = p.waiting := by
  rw [edited]
  split <;> rfl

theorem waiting_act {ending : Option Ending} (h : act s p action = .ok (q, ending)) :
    q.waiting = p.waiting := by
  cases action with
  | bound action =>
    obtain ⟨_, -, h⟩ := bind_eq_ok_iff.mp h
    cases h
    rfl
  | edit edit =>
    cases h
    exact waiting_edited _ _ _ _
  | select =>
    cases h
    split <;> rfl
  | finish | nothing =>
    cases h
    rfl

theorem waits_settleKeys (hbindings : ∀ b ∈ bindings, b.keys ≠ []) {fuel : Nat}
    (hfuel : p.waiting.length < fuel) (h : settleKeys s bindings fuel p = .ok (q, none)) :
    Waits bindings q.waiting := by
  induction fuel generalizing p with
  | zero => exact absurd hfuel (Nat.not_lt_zero _)
  | succ fuel ih =>
    rw [settleKeys] at h
    split at h
    · rename_i hreading
      cases h
      exact reading?_eq_none_iff.mp hreading
    · rename_i action rest hreading
      obtain ⟨⟨after, ending⟩, hact, h⟩ := bind_eq_ok_iff.mp h
      cases ending with
      | some ending => exact nomatch h
      | none =>
        refine ih ?_ h
        have hfewer := (reading?_spec hbindings hreading).2
        rw [waiting_act hact]
        exact Nat.lt_of_lt_of_le hfewer (Nat.lt_succ_iff.mp hfuel)

/-- After any keys that do not end the prompt, those that are still to do something wait for more. -/
theorem waits_press (hbindings : ∀ b ∈ bindings, b.keys ≠ []) (hp : Waits bindings p.waiting)
    (h : press s bindings p keys = .ok (q, none)) : Waits bindings q.waiting := by
  induction keys generalizing p with
  | nil =>
    cases h
    exact hp
  | cons key rest ih =>
    obtain ⟨⟨after, ending⟩, hsettle, h⟩ := bind_eq_ok_iff.mp h
    cases ending with
    | some ending => exact nomatch h
    | none => exact ih (waits_settleKeys hbindings (Nat.lt_succ_self _) hsettle) h

/-! ### Keys one after the other -/

/-- Keys may be pressed in parts. Behind the key that ends the prompt they are left. -/
theorem press_append (s : Settings) (bindings : List Binding) (p : Prompt) (keys more : List Text) :
    press s bindings p (keys ++ more) = (do
      match ← press s bindings p keys with
      | (q, some (ending, left)) => return (q, some (ending, left ++ more))
      | (q, none) => press s bindings q more) := by
  induction keys generalizing p with
  | nil => rfl
  | cons key rest ih =>
    rw [List.cons_append, press, press, bind_assoc]
    refine bind_congr fun step => ?_
    obtain ⟨after, _ | ending⟩ := step
    · exact ih after
    · rfl

/-- The key that ends a prompt is the first that does, and only the keys behind it are left. -/
theorem press_left {ending : Ending} {left : List Text}
    (h : press s bindings p keys = .ok (q, some (ending, left))) :
    ∃ before key after, keys = before ++ key :: left ∧
      press s bindings p before = .ok (after, none) ∧
      press s bindings after [key] = .ok (q, some (ending, [])) := by
  induction keys generalizing p with
  | nil => exact nomatch h
  | cons key rest ih =>
    obtain ⟨⟨next, ended⟩, hsettle, h⟩ := bind_eq_ok_iff.mp h
    cases ended with
    | some ended =>
      cases h
      refine ⟨[], key, p, rfl, rfl, ?_⟩
      exact bind_eq_ok_iff.mpr ⟨_, hsettle, rfl⟩
    | none =>
      obtain ⟨before, last, after, rfl, hbefore, hlast⟩ := ih h
      exact ⟨key :: before, last, after, rfl, bind_eq_ok_iff.mpr ⟨_, hsettle, hbefore⟩, hlast⟩

end Prompt

end Substitute
