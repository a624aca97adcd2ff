import Substitute.Proofs.Command.RoundTrip

/-!
# The texts that are commands

A text is a command when it opens with a run of range characters, the command letter and a character that can separate. What follows is cut at the first two separators outside escape pairs and nothing of it is lost: the command is written as its text, with the separators at the end that the text still lacks.
-/

namespace Substitute

namespace Field

variable {fields : List Text}

theorem join_cons (separator first : Text) (hne : fields ≠ []) :
    join separator (first :: fields) = first ++ separator ++ join separator fields := by
  rw [join, List.intercalate_cons_of_ne_nil hne, join, List.append_assoc]

theorem join_extendFirst (separator part : Text) (hne : fields ≠ []) :
    join separator (Text.extendFirst part fields) = part ++ join separator fields := by
  cases fields with
  | nil => exact absurd rfl hne
  | cons first others =>
    cases others with
    | nil => simp [Text.extendFirst, join, List.intercalate]
    | cons second more =>
      rw [Text.extendFirst, join_cons _ _ (List.cons_ne_nil _ _),
        join_cons _ _ (List.cons_ne_nil _ _), List.append_assoc, List.append_assoc,
        List.append_assoc]

theorem join_split (separator : Text) (limit : Option Nat) (t : Text) :
    join separator (split separator limit t) = t := by
  fun_induction split separator limit t with
  | case1 => simp [join, List.intercalate]
  | case2 => simp [join, List.intercalate]
  | case3 limit c rest _ ih =>
    rw [join_extendFirst _ _ (split_ne_nil _ _ _), ih]
    rfl
  | case4 limit c rest _ _ hseparator ih =>
    rw [join_cons _ _ (split_ne_nil _ _ _), ih, ← hseparator]
    rfl
  | case5 limit c rest _ _ _ ih =>
    rw [join_extendFirst _ _ (split_ne_nil _ _ _), ih]
    rfl

/-- A text is cut at every separator outside escape pairs until the limit is reached. -/
theorem length_split (mark : Char) (n : Nat) (t : Text) :
    (split [mark] (some n) t).length = min n (countUnescaped mark t) + 1 := by
  induction t using pair_induction generalizing n with
  | nil => simp [countUnescaped]
  | lone =>
    cases n with
    | zero => simp
    | succ n =>
      rw [split_lone (by simp)]
      -- a lone backslash is the one place where a backslash separates
      by_cases hmark : '\\' = mark
      · subst hmark
        simp [countUnescaped]
      · simp [hmark, countUnescaped]
  | pair c rest ih =>
    cases n with
    | zero => simp
    | succ n =>
      rw [split_pair (by simp), Text.length_extendFirst _ (split_ne_nil _ _ _), ih]
      rfl
  | char c rest hc ih =>
    cases n with
    | zero => simp
    | succ n =>
      rw [split_char (by simp) hc, countUnescaped_char hc]
      by_cases hmark : c = mark
      · rw [if_pos hmark, if_pos hmark, List.length_cons, Option.map_some, Nat.add_sub_cancel, ih]
        omega
      · rw [if_neg hmark, if_neg hmark, Text.length_extendFirst _ (split_ne_nil _ _ _), ih]
        omega

end Field

/-- A text that opens like a command: range characters, the command letter, and a separator before the rest. -/
structure Opens (t run : Text) (mark : Char) (rest : Text) : Prop where
  run_chars : ∀ c ∈ run, isRangeChar c = true
  mark_valid : isValidSeparator [mark] = true
  text_eq : t = run ++ commandLetter :: mark :: rest

namespace Command

variable {t run rest : Text} {mark : Char}

theorem splitHead?_eq_some_iff_opens :
    splitHead? t = some (run ++ [commandLetter], mark, rest) ↔ Opens t run mark rest := by
  rw [splitHead?_eq_some_iff]
  constructor
  · rintro ⟨⟨run', hrun, heq⟩, hmark, rfl⟩
    obtain rfl : run = run' := List.append_cancel_right heq
    exact ⟨hrun, hmark, by simp⟩
  · rintro ⟨hrun, hmark, rfl⟩
    exact ⟨⟨run, hrun, rfl⟩, hmark, by simp⟩

private theorem exists_opens_of_splitHead? {range : Text} (hhead : splitHead? t = some (range, mark, rest)) :
    ∃ run, Opens t run mark rest := by
  obtain ⟨⟨run, -, rfl⟩, -, -⟩ := splitHead?_eq_some_iff.mp hhead
  exact ⟨run, splitHead?_eq_some_iff_opens.mp hhead⟩

theorem serialize_make_split (range : Text) (mark : Char) (rest : Text) :
    let fields := Field.split [mark] (some 2) rest
    (make [mark] range (fields.headD []) (fields.getD 1 []) (fields.getD 2 [])).serialize =
      range ++ mark :: rest ++
        List.replicate (2 - min 2 (Field.countUnescaped mark rest)) mark := by
  intro fields
  have hjoin : Field.join [mark] fields = rest := Field.join_split [mark] (some 2) rest
  have hlength : fields.length = min 2 (Field.countUnescaped mark rest) + 1 :=
    Field.length_split mark 2 rest
  have hmissing : 2 - min 2 (Field.countUnescaped mark rest) = 3 - fields.length := by omega
  have hmost : fields.length ≤ 3 := by omega
  rw [serialize_of_separator rfl, hmissing, ← hjoin]
  match fields, hlength, hmost with
  | [search], _, _ => simp [make, Field.join, List.intercalate]
  | [search, replace], _, _ => simp [make, Field.join, List.intercalate, List.intersperse]
  | [search, replace, flags], _, _ => simp [make, Field.join, List.intercalate, List.intersperse]

/-- The texts that are read as a command are those that open like one. What is read has the range and the separator that the text opens with, and the dialect that its search opens with; and it is written as the text itself, followed by as many separators as are missing of the two outside escape pairs that end the search and the replace term. -/
theorem parse?_grammar (t : Text) :
    ((parse? t).isSome = true ↔ ∃ run mark rest, Opens t run mark rest) ∧
    ∀ run mark rest, Opens t run mark rest →
      ∃ c, parse? t = some c ∧ c.range = run ++ [commandLetter] ∧ c.separator = [mark] ∧
        c.dialect = detectDialect c.search ∧
        c.serialize =
          t ++ List.replicate (2 - min 2 (Field.countUnescaped mark rest)) mark := by
  refine ⟨⟨fun hread => ?_, ?_⟩, fun run mark rest hopens => ?_⟩
  · rw [parse?, Option.isSome_map, Option.isSome_iff_exists] at hread
    obtain ⟨⟨range, mark, rest⟩, hhead⟩ := hread
    obtain ⟨run, hopens⟩ := exists_opens_of_splitHead? hhead
    exact ⟨run, mark, rest, hopens⟩
  · rintro ⟨run, mark, rest, hopens⟩
    rw [parse?, splitHead?_eq_some_iff_opens.mpr hopens]
    rfl
  · have hread : parse? t = some (make [mark] (run ++ [commandLetter])
        ((Field.split [mark] (some 2) rest).headD []) ((Field.split [mark] (some 2) rest).getD 1 [])
        ((Field.split [mark] (some 2) rest).getD 2 [])) := by
      rw [parse?, splitHead?_eq_some_iff_opens.mpr hopens]
      rfl
    refine ⟨_, hread, rfl, rfl, rfl, ?_⟩
    rw [serialize_make_split, hopens.text_eq, List.append_assoc _ [commandLetter]]
    rfl

/-- A backslash separates, but only as the last character: the one before it pairs with the letter after it. -/
theorem parse?_grammar_backslash :
    Opens "%s\\a\\b\\" "%" '\\' "a\\b\\" ∧
      ∃ c, parse? "%s\\a\\b\\" = some c ∧ c.separator = ['\\'] ∧ c.search = ("a\\b" : Text) ∧
        c.serialize = ("%s\\a\\b\\\\" : Text) := by
  have hopens : Opens "%s\\a\\b\\" "%" '\\' "a\\b\\" :=
    ⟨List.all_eq_true.mp rfl, by decide, rfl⟩
  obtain ⟨c, hread, -, hseparator, -, hwritten⟩ := (parse?_grammar _).2 _ _ _ hopens
  have hknown : parse? "%s\\a\\b\\" = some (make "\\" "%s" "a\\b" [] []) := by decide
  obtain rfl := Option.some.inj (hread.symm.trans hknown)
  exact ⟨hopens, _, hread, hseparator, rfl, hwritten⟩

end Command

end Substitute
