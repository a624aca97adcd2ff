import Substitute.Proofs.Command.Grammar

/-!
# Joining and splitting

Splitting loses nothing, so joining gives a text back. The other way round, fields survive being joined and split when each of them, where it stands, is closed: the last one may end in a lone backslash, since no separator follows it. A limit on the number of cuts leaves the first fields as they are and joins the others again.
-/

namespace Substitute.Field

variable {mark : Char} {t : Text} {fields : List Text}

/-! ### Fields that are joined -/

private theorem split_eq_singleton_iff {limit : Option Nat} (hlimit : limit ≠ some 0) (mark : Char)
    (t : Text) : split [mark] limit t = [t] ↔ countUnescaped mark t = 0 := by
  rcases split_cases hlimit mark t with
    ⟨first, rest, rfl, hfirst, hlone, hsplit⟩ | ⟨hcount, hsplit⟩
  · -- a backslash that separates is the last character, so there it pairs with nothing and counts
    have hmark : countUnescaped mark (mark :: rest) ≠ 0 := by
      by_cases hslash : mark = '\\'
      · obtain rfl := hlone hslash
        subst hslash
        decide
      · rw [countUnescaped_char hslash, if_pos rfl]
        omega
    refine iff_of_false ?_ ?_
    · intro hsingle
      rw [hsplit] at hsingle
      exact split_ne_nil _ _ _ (List.cons.inj hsingle).2
    · rw [countUnescaped_append hfirst.paired, hfirst.unescaped, Nat.zero_add]
      exact hmark
  · exact iff_of_true hsplit hcount

/-- A first field comes back from the joined text when it is closed, whatever the others do. -/
theorem split_join_cons_iff (hmark : mark ≠ '\\') (first : Text) (hne : fields ≠ []) :
    split [mark] none (join [mark] (first :: fields)) = first :: fields ↔
      Closed mark first ∧ split [mark] none (join [mark] fields) = fields := by
  rw [join_cons _ _ hne, List.append_assoc, List.singleton_append]
  constructor
  · intro hsplit
    have hhead : (split [mark] none (first ++ mark :: join [mark] fields)).headD [] = first := by
      rw [hsplit]
      rfl
    obtain ⟨hfirst, -, hcut⟩ := closed_of_split (by simp) hhead
    rw [hcut] at hsplit
    exact ⟨hfirst, (List.cons.inj hsplit).2⟩
  · rintro ⟨hfirst, hsplit⟩
    rw [split_closed_append (by simp) hmark hfirst, Option.map_none, hsplit]

/-- Fields that are told apart once they are joined: separators stand in them inside escape pairs only, and a lone backslash at the end of the last one only. -/
structure Separable (mark : Char) (fields : List Text) : Prop where
  unescaped : ∀ field ∈ fields, countUnescaped mark field = 0
  paired : ∀ field ∈ fields.dropLast, endsUnpaired field = false

theorem separable_iff : Separable mark fields ↔
    (∀ field ∈ fields, countUnescaped mark field = 0) ∧
      ∀ field ∈ fields.dropLast, endsUnpaired field = false :=
  ⟨fun h => ⟨h.unescaped, h.paired⟩, fun h => ⟨h.1, h.2⟩⟩

theorem separable_singleton_iff : Separable mark [t] ↔ countUnescaped mark t = 0 := by
  simp [separable_iff]

theorem separable_cons_iff (hne : fields ≠ []) :
    Separable mark (t :: fields) ↔ Closed mark t ∧ Separable mark fields := by
  have hlast : (t :: fields).dropLast = t :: fields.dropLast := List.dropLast_cons_of_ne_nil hne
  constructor
  · rintro ⟨hcount, hpaired⟩
    rw [hlast] at hpaired
    rw [List.forall_mem_cons] at hcount hpaired
    exact ⟨⟨hcount.1, hpaired.1⟩, hcount.2, hpaired.2⟩
  · rintro ⟨hfirst, hrest⟩
    refine ⟨List.forall_mem_cons.mpr ⟨hfirst.unescaped, hrest.unescaped⟩, ?_⟩
    rw [hlast]
    exact List.forall_mem_cons.mpr ⟨hfirst.paired, hrest.paired⟩

/-- Under a separator that is no backslash, splitting gives back the fields that were joined exactly when in none of them a separator stands outside escape pairs and none but the last ends in a lone backslash. -/
theorem split_join_eq_iff (hmark : mark ≠ '\\') (hne : fields ≠ []) :
    split [mark] none (join [mark] fields) = fields ↔
      (∀ field ∈ fields, countUnescaped mark field = 0) ∧
        ∀ field ∈ fields.dropLast, endsUnpaired field = false := by
  rw [← separable_iff]
  induction fields with
  | nil => exact absurd rfl hne
  | cons first rest ih =>
    cases rest with
    | nil =>
      have hjoin : join [mark] [first] = first := List.intercalate_singleton
      rw [hjoin, split_eq_singleton_iff (by simp), separable_singleton_iff]
    | cons second more =>
      have hrest : second :: more ≠ [] := List.cons_ne_nil _ _
      rw [split_join_cons_iff hmark first hrest, ih hrest, separable_cons_iff hrest]

theorem split_join_eq_iff_lone :
    let kept : List Text := ["a\\/b", "", "c\\"]
    let lost : List Text := ["a\\", "b"]
    split ['/'] none (join ['/'] kept) = kept ∧ split ['/'] none (join ['/'] lost) ≠ lost := by
  intro kept lost
  have hmark : '/' ≠ '\\' := by decide
  have hkept := split_join_eq_iff hmark (show kept ≠ [] by decide)
  have hlost := split_join_eq_iff hmark (show lost ≠ [] by decide)
  exact ⟨hkept.mpr (by decide), fun h => absurd (hlost.mp h) (by decide)⟩

/-! ### A limit on the cuts -/

/-- The first `n` fields, and the others joined into one more. -/
def joinBeyond (separator : Text) (n : Nat) (fields : List Text) : List Text :=
  if fields.length ≤ n + 1 then fields else fields.take n ++ [join separator (fields.drop n)]

theorem joinBeyond_zero (separator : Text) (hne : fields ≠ []) :
    joinBeyond separator 0 fields = [join separator fields] := by
  match fields, hne with
  | [field], _ => simp [joinBeyond, join, List.intercalate]
  | first :: second :: more, _ => simp [joinBeyond]

theorem joinBeyond_cons (separator : Text) (n : Nat) (first : Text) (fields : List Text) :
    joinBeyond separator (n + 1) (first :: fields) = first :: joinBeyond separator n fields := by
  rw [joinBeyond, joinBeyond, List.length_cons]
  by_cases hfew : fields.length ≤ n + 1
  · rw [if_pos hfew, if_pos (by omega)]
  · rw [if_neg hfew, if_neg (by omega), List.take_succ_cons, List.drop_succ_cons, List.cons_append]

theorem joinBeyond_extendFirst (separator part : Text) (n : Nat) (hne : fields ≠ []) :
    joinBeyond separator (n + 1) (Text.extendFirst part fields) =
      Text.extendFirst part (joinBeyond separator (n + 1) fields) := by
  cases fields with
  | nil => exact absurd rfl hne
  | cons first others => rw [Text.extendFirst, joinBeyond_cons, joinBeyond_cons, Text.extendFirst]

private theorem split_some_eq_joinBeyond (mark : Char) (n : Nat) (t : Text) :
    split [mark] (some n) t = joinBeyond [mark] n (split [mark] none t) := by
  -- the rest is copied as it stands, and cutting it would have lost nothing of it either
  have hzero (t : Text) : split [mark] (some 0) t = joinBeyond [mark] 0 (split [mark] none t) := by
    rw [split_zero, joinBeyond_zero _ (split_ne_nil _ _ _), join_split]
  induction t using pair_induction generalizing n with
  | nil => simp [joinBeyond]
  | lone =>
    cases n with
    | zero => exact hzero _
    | succ n =>
      rw [split_lone (by simp), split_lone (by simp)]
      by_cases hmark : '\\' = mark
      · subst hmark
        simp [joinBeyond]
      · simp [hmark, joinBeyond]
  | pair c rest ih =>
    cases n with
    | zero => exact hzero _
    | succ n =>
      rw [split_pair (by simp), split_pair (by simp), ih,
        joinBeyond_extendFirst _ _ _ (split_ne_nil _ _ _)]
  | char c rest hc ih =>
    cases n with
    | zero => exact hzero _
    | succ n =>
      rw [split_char (by simp) hc, split_char (by simp) hc]
      by_cases hmark : c = mark
      · rw [if_pos hmark, if_pos hmark, Option.map_some, Option.map_none, Nat.add_sub_cancel, ih,
          joinBeyond_cons]
      · rw [if_neg hmark, if_neg hmark, ih, joinBeyond_extendFirst _ _ _ (split_ne_nil _ _ _)]

/-- Splitting loses nothing, at a backslash and under a limit too. Under a limit of `n` cuts the fields are those without a limit if these are `n + 1` at most, and else the first `n` of them and the others joined. -/
theorem split_lossless (mark : Char) (t : Text) :
    (∀ limit, join [mark] (split [mark] limit t) = t) ∧
      ∀ n, let whole := split [mark] none t
        split [mark] (some n) t =
          if whole.length ≤ n + 1 then whole
          else whole.take n ++ [join [mark] (whole.drop n)] :=
  ⟨fun limit => join_split [mark] limit t, fun n => split_some_eq_joinBeyond mark n t⟩

/-- A backslash separates only at the very end, so the limit of one cut is not reached before. -/
example : split ['\\'] (some 1) "a\\b\\" = (["a\\b", ""] : List Text) := by
  decide

end Substitute.Field
