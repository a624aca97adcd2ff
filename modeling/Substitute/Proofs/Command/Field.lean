import Substitute.Command.Basic

/-!
# How many fields there are

Cutting a text gives at least one field, and one more than the number of cuts at most. So a command text always has one to four fields, and these always make a command.
-/

namespace Substitute

@[simp] theorem Text.length_extendFirst (part : Text) {texts : List Text} (hne : texts ≠ []) :
    (Text.extendFirst part texts).length = texts.length := by
  cases texts with
  | nil => exact absurd rfl hne
  | cons first others => rfl

theorem Text.extendFirst_ne_nil (part : Text) (texts : List Text) :
    Text.extendFirst part texts ≠ [] := by
  cases texts <;> simp [Text.extendFirst]

namespace Field

theorem split_ne_nil (separator : Text) (limit : Option Nat) (t : Text) :
    split separator limit t ≠ [] := by
  fun_cases split separator limit t with
  | case1 => exact List.cons_ne_nil _ _
  | case2 => exact List.cons_ne_nil _ _
  | case3 => exact Text.extendFirst_ne_nil _ _
  | case4 => exact List.cons_ne_nil _ _
  | case5 => exact Text.extendFirst_ne_nil _ _

theorem length_split_le (separator : Text) {limit : Option Nat} {n : Nat} (hlimit : limit = some n)
    (t : Text) : (split separator limit t).length ≤ n + 1 := by
  fun_induction split separator limit t generalizing n with
  | case1 => simp
  | case2 => simp
  | case3 limit c rest _ ih =>
    rw [Text.length_extendFirst _ (split_ne_nil _ _ _)]
    exact ih hlimit
  | case4 limit c rest hzero _ _ ih =>
    subst hlimit
    have hpos : n ≠ 0 := by
      rintro rfl
      exact hzero rfl
    have hrest := ih (n := n - 1) rfl
    rw [List.length_cons]
    omega
  | case5 limit c rest _ _ _ ih =>
    rw [Text.length_extendFirst _ (split_ne_nil _ _ _)]
    exact ih hlimit

end Field

theorem length_splitCommand (t separator : Text) :
    1 ≤ (splitCommand t separator).length ∧ (splitCommand t separator).length ≤ 4 := by
  have hcut : 1 ≤ (Field.split separator (some 3) t).length ∧
      (Field.split separator (some 3) t).length ≤ 4 :=
    ⟨List.length_pos_iff.mpr (Field.split_ne_nil _ _ _), Field.length_split_le separator rfl t⟩
  rw [splitCommand]
  split
  · rename_i range rest hrange
    split
    · have hrest := Field.length_split_le separator (n := 2) rfl (rest.drop 1)
      rw [List.length_cons]
      omega
    · exact hcut
  · exact hcut

theorem exists_ofFields {fields : List Text} (hlow : 1 ≤ fields.length) (hhigh : fields.length ≤ 4)
    (separator : Text) : ∃ c, Command.ofFields fields separator = .ok c := by
  match fields, hlow, hhigh with
  | [_], _, _ => exact ⟨_, rfl⟩
  | [_, _], _, _ => exact ⟨_, rfl⟩
  | [_, _, _], _, _ => exact ⟨_, rfl⟩
  | [_, _, _, _], _, _ => exact ⟨_, rfl⟩

end Substitute
