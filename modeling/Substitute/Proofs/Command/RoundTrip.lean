import Substitute.Proofs.Command.Escapes

/-!
# Commands that their own text reads back as

A text is read as a command when it opens with a range, its letter and a separator. What is read is the command that was written exactly when its range is one, its separator is one that can separate, its dialect is the one its search opens with, and search and replace term are closed fields. The flags come last and may hold anything.
-/

namespace Substitute

/-- A run of range characters and the command letter. -/
def IsRange (t : Text) : Prop :=
  ∃ run, (∀ c ∈ run, isRangeChar c = true) ∧ t = run ++ [commandLetter]

theorem isRange_append (run : Text) (hrun : run.all isRangeChar = true) :
    IsRange (run ++ [commandLetter]) :=
  ⟨run, List.all_eq_true.mp hrun, rfl⟩

private theorem isRangeChar_commandLetter : isRangeChar commandLetter = false := by
  decide

/-! ### Opening a text -/

theorem splitRange?_eq_some_iff {t range rest : Text} :
    splitRange? t = some (range, rest) ↔ IsRange range ∧ t = range ++ rest := by
  constructor
  · intro h
    rw [splitRange?] at h
    split at h
    · rename_i c after hdrop
      split at h
      · rename_i hletter
        obtain ⟨rfl, rfl⟩ := Prod.mk.inj (Option.some.inj h)
        subst hletter
        have hrun : ∀ c ∈ t.takeWhile isRangeChar, isRangeChar c = true :=
          List.all_eq_true.mp List.all_takeWhile
        refine ⟨⟨t.takeWhile isRangeChar, hrun, rfl⟩, ?_⟩
        calc t = t.takeWhile isRangeChar ++ t.dropWhile isRangeChar :=
              List.takeWhile_append_dropWhile.symm
          _ = t.takeWhile isRangeChar ++ [commandLetter] ++ after := by simp [hdrop]
      · simp at h
    · simp at h
  · rintro ⟨⟨run, hrun, rfl⟩, rfl⟩
    have hletter : ¬isRangeChar commandLetter = true := by simp [isRangeChar_commandLetter]
    have hdrop : (run ++ [commandLetter] ++ rest).dropWhile isRangeChar = commandLetter :: rest := by
      rw [List.append_assoc, List.dropWhile_append_of_pos hrun]
      exact List.dropWhile_cons_of_neg hletter
    have htake : (run ++ [commandLetter] ++ rest).takeWhile isRangeChar = run := by
      rw [List.append_assoc, List.takeWhile_append_of_pos hrun, List.singleton_append,
        List.takeWhile_cons_of_neg hletter, List.append_nil]
    rw [splitRange?, hdrop, htake]
    exact if_pos rfl

theorem splitHead?_eq_some_iff {t range rest : Text} {mark : Char} :
    splitHead? t = some (range, mark, rest) ↔
      IsRange range ∧ isSeparatorChar mark = true ∧ t = range ++ mark :: rest := by
  constructor
  · intro h
    rw [splitHead?] at h
    split at h
    · rename_i found c after hrange
      split at h
      · rename_i hmark
        obtain ⟨rfl, hrest⟩ := Prod.mk.inj (Option.some.inj h)
        obtain ⟨rfl, rfl⟩ := Prod.mk.inj hrest
        obtain ⟨hfound, ht⟩ := splitRange?_eq_some_iff.mp hrange
        exact ⟨hfound, hmark, ht⟩
      · simp at h
    · simp at h
  · rintro ⟨hrange, hmark, ht⟩
    rw [splitHead?, splitRange?_eq_some_iff.mpr ⟨hrange, ht⟩]
    exact if_pos hmark

theorem exists_mark {t : Text} (hvalid : isValidSeparator t = true) (hne : t ≠ ['\\']) :
    ∃ mark, t = [mark] ∧ isSeparatorChar mark = true ∧ mark ≠ '\\' := by
  match t, hvalid, hne with
  | [mark], hvalid, hne => exact ⟨mark, rfl, hvalid, fun h => hne (congrArg ([·]) h)⟩

namespace Command

variable {c : Command} {mark : Char}

/-- A command whose own text, with `mark` between its fields, is read as the command again. -/
structure Readable (mark : Char) (c : Command) : Prop where
  range : IsRange c.range
  separator : c.separator = [mark]
  mark_valid : isSeparatorChar mark = true
  mark_ne : mark ≠ '\\'
  dialect : c.dialect = detectDialect c.search
  search : Field.Closed mark c.search
  replace : Field.Closed mark c.replace

theorem serialize_of_separator (hseparator : c.separator = [mark]) :
    c.serialize = c.range ++ mark :: (c.search ++ mark :: (c.replace ++ mark :: c.flags)) := by
  simp [serialize, Field.join, fields, List.intercalate, List.intersperse, hseparator]

theorem eq_make (hdialect : c.dialect = detectDialect c.search) :
    make c.separator c.range c.search c.replace c.flags = c := by
  rw [make, ← hdialect]

/-! ### Writing and reading -/

theorem Readable.splitHead?_serialize (h : c.Readable mark) :
    splitHead? c.serialize =
      some (c.range, mark, c.search ++ mark :: (c.replace ++ mark :: c.flags)) :=
  splitHead?_eq_some_iff.mpr ⟨h.range, h.mark_valid, serialize_of_separator h.separator⟩

theorem Readable.split_fields (h : c.Readable mark) :
    Field.split [mark] (some 2) (c.search ++ mark :: (c.replace ++ mark :: c.flags)) =
      [c.search, c.replace, c.flags] := by
  rw [Field.split_closed_append (by simp) h.mark_ne h.search,
    Option.map_some, Field.split_closed_append (by simp) h.mark_ne h.replace, Option.map_some,
    Field.split_zero]

theorem Readable.parse?_serialize (h : c.Readable mark) : parse? c.serialize = some c := by
  rw [parse?, h.splitHead?_serialize, Option.map_some]
  simp only [h.split_fields, List.headD_cons, List.getD_cons_zero, List.getD_cons_succ]
  rw [← h.separator, eq_make h.dialect]

theorem exists_readable (h : parse? c.serialize = some c) : ∃ mark, c.Readable mark := by
  rw [parse?, Option.map_eq_some_iff] at h
  obtain ⟨⟨range, mark, rest⟩, hhead, hmake⟩ := h
  obtain ⟨hrange, hmark, htext⟩ := splitHead?_eq_some_iff.mp hhead
  have hrange_eq : c.range = range := by rw [← hmake]; rfl
  have hseparator : c.separator = [mark] := by rw [← hmake]; rfl
  have hdialect : c.dialect = detectDialect c.search := by rw [← hmake]; rfl
  have hsearch : (Field.split [mark] (some 2) rest).headD [] = c.search := by rw [← hmake]; rfl
  have hreplace : (Field.split [mark] (some 2) rest).getD 1 [] = c.replace := by rw [← hmake]; rfl
  rw [serialize_of_separator hseparator, hrange_eq] at htext
  obtain ⟨-, rfl⟩ := List.cons.inj (List.append_cancel_left htext)
  -- the replace term and its separator follow the search, so a backslash cannot have cut it off
  obtain ⟨hsearch_closed, hlone, hcut⟩ := Field.closed_of_split (by simp) hsearch
  have hne : mark ≠ '\\' := fun heq => by simpa using hlone heq
  have hsecond : (Field.split [mark] (some 1) (c.replace ++ mark :: c.flags)).headD [] =
      c.replace := by
    rw [hcut, List.getD_cons_succ, ← List.headD_eq_getD] at hreplace
    exact hreplace
  obtain ⟨hreplace_closed, -, -⟩ := Field.closed_of_split (by simp) hsecond
  exact
    ⟨mark, hrange_eq ▸ hrange, hseparator, hmark, hne, hdialect, hsearch_closed, hreplace_closed⟩

theorem exists_readable_iff : (∃ mark, c.Readable mark) ↔ parse? c.serialize = some c :=
  ⟨fun ⟨_, h⟩ => h.parse?_serialize, exists_readable⟩

/-- A command is what its own text is read as exactly when it opens with a range, one character that can separate and is no backslash stands between its fields, its dialect is the one its search opens with, and search and replace term end where the next separator stands. -/
theorem parse?_serialize_iff (c : Command) :
    parse? c.serialize = some c ↔
      IsRange c.range ∧ isValidSeparator c.separator = true ∧ c.separator ≠ ['\\'] ∧
        c.dialect = detectDialect c.search ∧
        ∀ mark ∈ c.separator, Field.Closed mark c.search ∧ Field.Closed mark c.replace := by
  constructor
  · intro h
    obtain ⟨mark, hc⟩ := exists_readable h
    have hvalid : isValidSeparator c.separator = true := by
      rw [hc.separator]
      exact hc.mark_valid
    refine ⟨hc.range, hvalid, ?_, hc.dialect, ?_⟩
    · rw [hc.separator]
      exact fun heq => hc.mark_ne (List.cons.inj heq).1
    · intro other hother
      rw [hc.separator, List.mem_singleton] at hother
      exact hother ▸ ⟨hc.search, hc.replace⟩
  · rintro ⟨hrange, hvalid, hne, hdialect, hclosed⟩
    obtain ⟨mark, hseparator, hmark, hmark_ne⟩ := exists_mark hvalid hne
    obtain ⟨hsearch, hreplace⟩ := hclosed mark (by rw [hseparator]; exact List.mem_singleton_self mark)
    exact Readable.parse?_serialize
      ⟨hrange, hseparator, hmark, hmark_ne, hdialect, hsearch, hreplace⟩

/-- A search may hold its separator in an escape pair, and the flags may hold anything. -/
example : parse? (make "/" "%s" "a\\/b" "" "/g\\").serialize = some (make "/" "%s" "a\\/b" "" "/g\\") := by
  decide

end Command

end Substitute
