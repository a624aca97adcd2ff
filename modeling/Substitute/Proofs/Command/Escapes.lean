import Substitute.Proofs.Command.Field

/-!
# Where a field ends

A field ends at the first separator outside escape pairs. So a text is a field before a separator exactly when the separator stands in it only inside escape pairs and no backslash is left over to pair with the separator that follows.
-/

namespace Substitute.Field

/-- A text that ends, as a field, at the separator put after it. -/
structure Closed (mark : Char) (t : Text) : Prop where
  unescaped : countUnescaped mark t = 0
  paired : endsUnpaired t = false

variable {mark c : Char} {s t rest : Text} {limit : Option Nat}

/-- A text starts with an escape pair or with a character that is no backslash, unless it is empty or a lone backslash. -/
@[elab_as_elim]
theorem pair_induction {motive : Text → Prop} (nil : motive []) (lone : motive ['\\'])
    (pair : ∀ c rest, motive rest → motive ('\\' :: c :: rest))
    (char : ∀ c rest, c ≠ '\\' → motive rest → motive (c :: rest)) (t : Text) : motive t := by
  induction t using endsUnpaired.induct with
  | case1 => exact nil
  | case2 => exact lone
  | case3 c rest ih => exact pair c rest ih
  | case4 c rest hlone hpair ih =>
    refine char c rest ?_ ih
    rintro rfl
    cases rest with
    | nil => exact hlone rfl rfl
    | cons d more => exact hpair d more rfl rfl

/-! ### The definitions, pair by pair -/

theorem countUnescaped_char (hc : c ≠ '\\') :
    countUnescaped mark (c :: rest) = (if c = mark then 1 else 0) + countUnescaped mark rest := by
  rw [countUnescaped]
  rintro _ _ rfl _
  exact hc rfl

theorem endsUnpaired_char (hc : c ≠ '\\') : endsUnpaired (c :: rest) = endsUnpaired rest := by
  rw [endsUnpaired]
  · rintro rfl _
    exact hc rfl
  · rintro _ _ rfl _
    exact hc rfl

@[simp] theorem split_zero (separator t : Text) : split separator (some 0) t = [t] := by
  rw [split]

@[simp] theorem split_nil (separator : Text) (limit : Option Nat) : split separator limit [] = [[]] := by
  cases limit with
  | none => rfl
  | some n => cases n <;> rfl

theorem split_pair (hlimit : limit ≠ some 0) (c : Char) (rest : Text) :
    split [mark] limit ('\\' :: c :: rest) =
      Text.extendFirst ['\\', c] (split [mark] limit rest) := by
  rw [split]
  exact hlimit

theorem split_char (hlimit : limit ≠ some 0) (hc : c ≠ '\\') (rest : Text) :
    split [mark] limit (c :: rest) =
      if c = mark then [] :: split [mark] (limit.map (· - 1)) rest
      else Text.extendFirst [c] (split [mark] limit rest) := by
  rw [split]
  · simp
  · rintro _ _ rfl _
    exact hc rfl
  · exact hlimit

theorem split_lone (hlimit : limit ≠ some 0) :
    split [mark] limit ['\\'] = if '\\' = mark then [[], []] else [['\\']] := by
  rw [split]
  · simp [Text.extendFirst]
  · simp
  · exact hlimit

/-! ### Putting texts together -/

theorem countUnescaped_append (hs : endsUnpaired s = false) (t : Text) :
    countUnescaped mark (s ++ t) = countUnescaped mark s + countUnescaped mark t := by
  induction s using pair_induction with
  | nil => simp [countUnescaped]
  | lone => simp [endsUnpaired] at hs
  | pair c rest ih => exact ih hs
  | char c rest hc ih =>
    rw [endsUnpaired_char hc] at hs
    rw [List.cons_append, countUnescaped_char hc, countUnescaped_char hc, ih hs]
    omega

theorem endsUnpaired_append (hs : endsUnpaired s = false) (t : Text) :
    endsUnpaired (s ++ t) = endsUnpaired t := by
  induction s using pair_induction with
  | nil => rfl
  | lone => simp [endsUnpaired] at hs
  | pair c rest ih => exact ih hs
  | char c rest hc ih =>
    rw [endsUnpaired_char hc] at hs
    rw [List.cons_append, endsUnpaired_char hc, ih hs]

theorem closed_append_iff (hs : Closed mark s) : Closed mark (s ++ t) ↔ Closed mark t := by
  have hcount : countUnescaped mark (s ++ t) = countUnescaped mark t := by
    rw [countUnescaped_append hs.paired, hs.unescaped, Nat.zero_add]
  have hends : endsUnpaired (s ++ t) = endsUnpaired t := endsUnpaired_append hs.paired t
  constructor
  · intro h
    exact ⟨hcount.symm.trans h.unescaped, hends.symm.trans h.paired⟩
  · intro h
    exact ⟨hcount.trans h.unescaped, hends.trans h.paired⟩

@[simp] theorem closed_nil (mark : Char) : Closed mark [] :=
  ⟨rfl, rfl⟩

theorem countUnescaped_eq_zero (hmark : mark ∉ t) : countUnescaped mark t = 0 := by
  induction t using pair_induction with
  | nil => rfl
  | lone =>
    have hne : '\\' ≠ mark := by
      rintro rfl
      exact hmark List.mem_cons_self
    simp [countUnescaped, hne]
  | pair c rest ih => exact ih fun h => hmark (by simp [h])
  | char c rest hc ih =>
    have hne : c ≠ mark := fun h => hmark (by simp [h])
    rw [countUnescaped_char hc, if_neg hne, ih fun h => hmark (by simp [h])]

theorem endsUnpaired_eq_false (ht : '\\' ∉ t) : endsUnpaired t = false := by
  induction t using pair_induction with
  | nil => rfl
  | lone => exact absurd List.mem_cons_self ht
  | pair c rest ih => exact absurd List.mem_cons_self ht
  | char c rest hc ih =>
    rw [endsUnpaired_char hc, ih fun h => ht (List.mem_cons_of_mem _ h)]

/-! ### Cutting off the first field -/

/-- A closed field is cut off whole at the separator after it. -/
theorem split_closed_append (hlimit : limit ≠ some 0) (hmark : mark ≠ '\\') (ht : Closed mark t)
    (rest : Text) :
    split [mark] limit (t ++ mark :: rest) = t :: split [mark] (limit.map (· - 1)) rest := by
  induction t using pair_induction with
  | nil => rw [List.nil_append, split_char hlimit hmark, if_pos rfl]
  | lone => simpa [endsUnpaired] using ht.paired
  | pair c more ih =>
    rw [List.cons_append, List.cons_append, split_pair hlimit, ih ⟨ht.unescaped, ht.paired⟩]
    rfl
  | char c more hc ih =>
    have hcount := ht.unescaped
    rw [countUnescaped_char hc] at hcount
    have hne : c ≠ mark := by
      rintro rfl
      simp at hcount
    rw [if_neg hne, Nat.zero_add] at hcount
    have hpaired := ht.paired
    rw [endsUnpaired_char hc] at hpaired
    rw [List.cons_append, split_char hlimit hc, if_neg hne, ih ⟨hcount, hpaired⟩]
    rfl

/-- What cutting does: it cuts off a closed field, or finds no separator to cut at. A backslash separates only at the very end. -/
theorem split_cases (hlimit : limit ≠ some 0) (mark : Char) (t : Text) :
    (∃ first rest, t = first ++ mark :: rest ∧ Closed mark first ∧ (mark = '\\' → rest = []) ∧
      split [mark] limit t = first :: split [mark] (limit.map (· - 1)) rest) ∨
    countUnescaped mark t = 0 ∧ split [mark] limit t = [t] := by
  induction t using pair_induction with
  | nil => exact .inr ⟨rfl, split_nil _ _⟩
  | lone =>
    rw [split_lone hlimit]
    by_cases hmark : '\\' = mark
    · subst hmark
      exact .inl ⟨[], [], rfl, closed_nil _, fun _ => rfl, by rw [if_pos rfl, split_nil]⟩
    · exact .inr ⟨by simp [countUnescaped, hmark], if_neg hmark⟩
  | pair c rest ih =>
    rw [split_pair hlimit]
    rcases ih with ⟨first, more, rfl, hfirst, hlone, hsplit⟩ | ⟨hcount, hsplit⟩
    · exact .inl ⟨'\\' :: c :: first, more, rfl, ⟨hfirst.unescaped, hfirst.paired⟩, hlone,
        by rw [hsplit]; rfl⟩
    · exact .inr ⟨hcount, by rw [hsplit]; rfl⟩
  | char c rest hc ih =>
    rw [split_char hlimit hc]
    by_cases hmark : c = mark
    · subst hmark
      exact .inl ⟨[], rest, rfl, closed_nil _, fun h => absurd h hc, if_pos rfl⟩
    · rw [if_neg hmark]
      rcases ih with ⟨first, more, rfl, hfirst, hlone, hsplit⟩ | ⟨hcount, hsplit⟩
      · refine .inl ⟨c :: first, more, rfl, ⟨?_, ?_⟩, hlone, by rw [hsplit]; rfl⟩
        · rw [countUnescaped_char hc, if_neg hmark, hfirst.unescaped]
        · rw [endsUnpaired_char hc, hfirst.paired]
      · refine .inr ⟨?_, by rw [hsplit]; rfl⟩
        rw [countUnescaped_char hc, if_neg hmark, hcount]

/-- When cutting before `rest` gives back the text there, that text is closed and the rest is cut on its own. -/
theorem closed_of_split (hlimit : limit ≠ some 0)
    (hhead : (split [mark] limit (t ++ mark :: rest)).headD [] = t) :
    Closed mark t ∧ (mark = '\\' → rest = []) ∧
      split [mark] limit (t ++ mark :: rest) = t :: split [mark] (limit.map (· - 1)) rest := by
  rcases split_cases hlimit mark (t ++ mark :: rest) with
    ⟨first, after, heq, hfirst, hlone, hsplit⟩ | ⟨-, hsplit⟩
  · rw [hsplit] at hhead
    obtain rfl : first = t := hhead
    obtain ⟨-, rfl⟩ := List.cons.inj (List.append_cancel_left heq)
    exact ⟨hfirst, hlone, hsplit⟩
  · rw [hsplit] at hhead
    have hlength := congrArg List.length (show t ++ mark :: rest = t from hhead)
    simp at hlength

end Substitute.Field
