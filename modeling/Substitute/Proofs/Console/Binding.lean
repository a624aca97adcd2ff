import Substitute.Console.Binding
import Substitute.Settings.Loading
import Substitute.Proofs.Steps

/-!
# Which settings have key bindings

A key specification is only read when its key is bound. The bindings exist when each specification that is looked up names at least one key and nothing but keys. Loading checks no more than that a specification is a text, so settings that were accepted may still fail here.
-/

namespace Substitute

def IsKeyName (name : Text) : Prop :=
  name ∈ keyAliases.map Prod.fst ∨ name ∈ namedKeys ∨ ∃ c, name = [c]

/-- A specification that names one key after another, and at least one. -/
def NamesKeys (spec : Text) : Prop :=
  spec.words ≠ [] ∧ ∀ name ∈ spec.words, IsKeyName name

theorem known_of_alias :
    ∀ pair ∈ keyAliases, namedKeys.contains pair.2 || pair.2.length = 1 := by
  decide +kernel

theorem exists_keyOfName_iff (name : Text) :
    (∃ key, keyOfName name = .ok key) ↔ IsKeyName name := by
  have hfound : ∀ key : Text, (namedKeys.contains key || key.length = 1) = true ↔
      key ∈ namedKeys ∨ ∃ c, key = [c] := by
    intro key
    rw [Bool.or_eq_true, List.contains_iff_mem, decide_eq_true_iff, List.length_eq_one_iff]
  rw [keyOfName, IsKeyName]
  cases hlookup : keyAliases.lookup name with
  | some key =>
    obtain ⟨before, after, hsplit, -⟩ := List.lookup_eq_some_iff.mp hlookup
    have hmem : (name, key) ∈ keyAliases := by
      rw [hsplit]
      exact List.mem_append_right before List.mem_cons_self
    have hknown := known_of_alias _ hmem
    rw [Option.getD_some, if_pos hknown]
    exact iff_of_true ⟨key, rfl⟩ (.inl (List.mem_map_of_mem hmem))
  | none =>
    have hnew : name ∉ keyAliases.map Prod.fst := by
      intro hmem
      obtain ⟨pair, hpair, rfl⟩ := List.mem_map.mp hmem
      exact absurd (List.lookup_eq_none_iff.mp hlookup pair hpair) (by simp)
    rw [Option.getD_none, or_iff_right hnew, ← hfound]
    split
    · rename_i hname
      exact iff_of_true ⟨name, rfl⟩ hname
    · rename_i hname
      exact iff_of_false nofun hname

private theorem exists_keysOfSpec_iff (spec : Text) :
    (∃ keys, keysOfSpec spec = .ok keys) ↔ NamesKeys spec := by
  rw [keysOfSpec, NamesKeys]
  cases spec.words with
  | nil => simp
  | cons name rest =>
    simp only [exists_mapM_iff, exists_keyOfName_iff]
    simp

private theorem exists_bindingsOf_iff (s : Settings) (actions : List (Text × KeyAction)) :
    (∃ bindings, bindingsOf s actions = .ok bindings) ↔
      ∀ name ∈ actions.map Prod.fst, ∀ spec, s.boundKey? name = some spec → NamesKeys spec := by
  induction actions with
  | nil => exact iff_of_true ⟨[], rfl⟩ nofun
  | cons action rest ih =>
    rw [List.map_cons, List.forall_mem_cons, ← ih, bindingsOf]
    cases s.boundKey? action.1 with
    | none => simp
    | some spec =>
      simp only [bind_eq_ok_iff, pure_eq_ok_iff, Option.some.injEq, forall_eq',
        ← exists_keysOfSpec_iff]
      constructor
      · rintro ⟨_, keys, hkeys, more, hmore, -⟩
        exact ⟨⟨keys, hkeys⟩, more, hmore⟩
      · rintro ⟨⟨keys, hkeys⟩, more, hmore⟩
        exact ⟨_, keys, hkeys, more, hmore, rfl⟩

theorem mem_keymapActions_iff (s : Settings) (name : Text) :
    name ∈ (keymapActions s).map Prod.fst ↔ name ∈ s.knownKeymaps := by
  have hbound : (keymapActions s).map Prod.fst =
      "populate".toList :: (s.flags.map Settings.flagKeymapName ++ Settings.actionKeymaps.tail) := by
    simp [keymapActions, Settings.actionKeymaps]
  rw [hbound]
  exact (List.perm_append_comm.cons _).mem_iff

theorem exists_keyBindings_iff (s : Settings) :
    (∃ bindings, keyBindings s = .ok bindings) ↔
      (s.keymapsEnabled = true → ∀ name ∈ s.knownKeymaps, ∀ spec,
        s.boundKey? name = some spec → NamesKeys spec) := by
  rw [keyBindings]
  split
  · rename_i henabled
    simp only [exists_bindingsOf_iff, mem_keymapActions_iff, henabled, true_imp_iff]
  · rename_i hdisabled
    exact iff_of_true ⟨[], rfl⟩ fun henabled => absurd henabled hdisabled

/-- Settings are accepted with a specification that names no key. -/
theorem keyBindings_unknown_key :
    ∃ s, Settings.ofConfig (.map [(.text "keymaps",
        .map [(.text "populate", .text "nosuchkey")])]) = .ok s ∧
      keyBindings s = .error (.invalid "nosuchkey") := by
  exact ⟨_, rfl, rfl⟩

end Substitute
