import Substitute.Console.Command
import Substitute.Console.Completion
import Substitute.Proofs.Text.Words

/-!
# What a completion replaces

A completion takes away the characters from its start up to the cursor and puts its text in their place. As long as the text before the cursor ends in a word or in a space, these are the word that is being typed, whole, or nothing. But only a space counts as the end of a word: behind a tab, a line end or any other blank the word before it is still completed, and as many characters as it has are taken away from the cursor backwards, the blank among them.
-/

namespace Substitute

namespace Completion

/-- The text before the cursor that a completion leaves as it is. -/
def kept (c : Completion) (before : Text) : Text :=
  before.take (before.length - c.start.natAbs)

/-- The characters before the cursor that a completion takes away. -/
def replaced (c : Completion) (before : Text) : Text :=
  before.drop (before.length - c.start.natAbs)

/-- A completion begins with a word, as it is or in small letters. -/
def OpensWith (c : Completion) (word : Text) : Prop :=
  word <+: c.text ∨ lowercase word <+: c.text

instance (c : Completion) (word : Text) : Decidable (c.OpensWith word) :=
  inferInstanceAs (Decidable (word <+: c.text ∨ lowercase word <+: c.text))

/-- A completion replaces exactly what it completes: the characters that it takes away stand before the cursor, they are the whole word there, or nothing behind a blank, and it begins with them. -/
structure Exact (c : Completion) (before : Text) : Prop where
  backward : c.start ≤ 0
  inside : c.start.natAbs ≤ before.length
  whole : Text.CutAtWord (c.kept before) (c.replaced before)
  opens : c.OpensWith (c.replaced before)

instance (c : Completion) (before : Text) : Decidable (c.Exact before) :=
  decidable_of_iff (c.start ≤ 0 ∧ c.start.natAbs ≤ before.length ∧
      Text.CutAtWord (c.kept before) (c.replaced before) ∧ c.OpensWith (c.replaced before))
    ⟨fun ⟨backward, inside, whole, opens⟩ => ⟨backward, inside, whole, opens⟩,
      fun ⟨backward, inside, whole, opens⟩ => ⟨backward, inside, whole, opens⟩⟩

variable {c : Completion} {before kept word : Text}

private theorem exact_append (hstart : c.start = -(word.length : Int)) (hcut : Text.CutAtWord kept word)
    (hopens : c.OpensWith word) : c.Exact (kept ++ word) := by
  have hcount : c.start.natAbs = word.length := by omega
  have hlength : (kept ++ word).length - c.start.natAbs = kept.length := by
    rw [hcount, List.length_append, Nat.add_sub_cancel]
  have hkept : c.kept (kept ++ word) = kept := by
    rw [Completion.kept, hlength, List.take_left]
  have hreplaced : c.replaced (kept ++ word) = word := by
    rw [replaced, hlength, List.drop_left]
  refine ⟨by omega, ?_, ?_, ?_⟩
  · rw [hcount, List.length_append]
    exact Nat.le_add_left _ _
  · rwa [hkept, hreplaced]
  · rwa [hreplaced]

/-- Whatever is taken away from the cursor backwards, the character before the cursor is. -/
theorem not_exact_of_endsIn_isBlank (hstart : c.start ≠ 0) (hend : before.endsIn isBlank = true) :
    ¬ c.Exact before := by
  intro hexact
  obtain ⟨front, b, rfl, hb⟩ := Text.exists_of_endsIn hend
  have hlength : (front ++ [b]).length - c.start.natAbs ≤ front.length := by
    rw [List.length_append, List.length_singleton]
    omega
  have hmem : b ∈ c.replaced (front ++ [b]) := by
    rw [replaced, List.drop_append_of_le_length hlength]
    exact List.mem_append_right _ List.mem_cons_self
  exact Bool.false_ne_true ((hexact.whole.solid b hmem).symm.trans hb)

end Completion

/-! ### What is completed -/

/-- What is completed at the cursor. A line of one word is completed as a whole, with any blanks behind it but a space; otherwise it is the last word, and nothing behind a space. -/
def typedWord (before : Text) : Text :=
  let t := before.trimLeft
  if t.words.length ≤ 1 && !([' '].isSuffixOf t) then t
  else if [' '].isSuffixOf t then [] else t.words.getLastD []

variable {r : Registry} {settings : Option Settings} {before : Text} {c : Completion}

private theorem nameCompletions_spec {t : Text} (hslash : ['/'] <+: t) (hmem : c ∈ nameCompletions r t) :
    c.start = -(t.length : Int) ∧ c.OpensWith t := by
  obtain ⟨rest, rfl⟩ := hslash
  obtain ⟨spec, hspec, rfl⟩ := List.mem_map.mp hmem
  have hname : rest <+: spec.name := List.isPrefixOf_iff_prefix.mp (List.mem_filter.mp hspec).2
  exact ⟨rfl, .inl ((List.prefix_append_right_inj ['/']).mpr hname)⟩

/-- Only a text that opens with a slash is completed, and a completion takes away as many characters as what it completes has. -/
theorem completions_spec (hmem : c ∈ completions r settings before) :
    ['/'] <+: before.trimLeft ∧ c.start = -((typedWord before).length : Int) ∧
      c.OpensWith (typedWord before) := by
  simp only [completions] at hmem
  split at hmem
  · exact absurd hmem List.not_mem_nil
  rename_i hslash
  have hslash : ['/'] <+: before.trimLeft := by simpa using hslash
  refine ⟨hslash, ?_⟩
  simp only [typedWord]
  split at hmem
  · rename_i hname
    rw [if_pos hname]
    exact nameCompletions_spec hslash hmem
  rename_i hname
  rw [if_neg hname]
  -- the cases left differ by position only, and all of them go by one word
  generalize (if [' '].isSuffixOf before.trimLeft then [] else before.trimLeft.words.getLastD []) =
    current at hmem ⊢
  generalize (if [' '].isSuffixOf before.trimLeft then before.trimLeft.words.length
    else before.trimLeft.words.length - 1) = position at hmem
  split at hmem
  · obtain ⟨sub, hsub, rfl⟩ := List.mem_map.mp hmem
    exact ⟨rfl, .inr (List.isPrefixOf_iff_prefix.mp (List.mem_filter.mp hsub).2)⟩
  split at hmem
  · obtain ⟨name, hname, rfl⟩ := List.mem_map.mp hmem
    exact ⟨rfl, .inl (List.isPrefixOf_iff_prefix.mp (List.mem_filter.mp hname).2)⟩
  · exact absurd hmem List.not_mem_nil

theorem endsIn_trimLeft (kind : Char → Bool) (hslash : ['/'] <+: before.trimLeft) :
    before.trimLeft.endsIn kind = before.endsIn kind := by
  have hne : before.trimLeft ≠ [] := fun h => by simp [h] at hslash
  conv_rhs => rw [← List.takeWhile_append_dropWhile (p := isBlank) (l := before)]
  exact (Text.endsIn_append kind _ hne).symm

private theorem typedWord_eq_last {kept word : Text} (hslash : ['/'] <+: before.trimLeft)
    (hspace : [' '].isSuffixOf before.trimLeft = false) (ht : before.trimLeft = kept ++ word)
    (hwords : before.trimLeft.words = kept.words ++ [word]) : typedWord before = word := by
  simp only [typedWord, hspace, hwords]
  cases kept with
  | nil => simp [ht, Text.words]
  | cons c more =>
    -- the slash is no blank, so what is kept holds a word of its own
    obtain rfl : '/' = c := by simpa [ht] using hslash
    have hkept : Text.words ('/' :: more) ≠ [] := Text.words_cons_ne_nil (by decide) more
    simp [hkept]

/-- Unless the text ends in a blank other than a space, what is completed is the word at its end. -/
theorem exists_cutAtWord_typedWord (hslash : ['/'] <+: before.trimLeft)
    (hend : before.endsIn isOtherBlank = false) :
    ∃ kept, before = kept ++ typedWord before ∧ Text.CutAtWord kept (typedWord before) := by
  suffices hcut : ∃ kept, before.trimLeft = kept ++ typedWord before ∧
      Text.CutAtWord kept (typedWord before) by
    obtain ⟨kept, ht, hcut⟩ := hcut
    refine ⟨before.takeWhile isBlank ++ kept, ?_, hcut.append_left ?_⟩
    · rw [List.append_assoc, ← ht]
      exact List.takeWhile_append_dropWhile.symm
    · exact List.all_eq_true.mp List.all_takeWhile
  have hblank : before.trimLeft.endsIn isBlank = [' '].isSuffixOf before.trimLeft := by
    rw [Text.endsIn_isBlank_eq, endsIn_trimLeft _ hslash, hend, Bool.false_or]
  cases hspace : [' '].isSuffixOf before.trimLeft with
  | true =>
    have hword : typedWord before = [] := by simp [typedWord, hspace]
    rw [hword]
    exact ⟨before.trimLeft, (List.append_nil _).symm, by simp, .inl (hblank.trans hspace)⟩
  | false =>
    have hne : before.trimLeft ≠ [] := fun h => by simp [h] at hslash
    obtain ⟨kept, word, ht, hcut, hwords⟩ := Text.exists_words_eq_append hne (hblank.trans hspace)
    rw [typedWord_eq_last hslash hspace ht hwords]
    exact ⟨kept, ht, hcut⟩

/-- Behind another blank than a space the word before it is still completed. -/
theorem typedWord_ne_nil (hslash : ['/'] <+: before.trimLeft)
    (hend : before.endsIn isOtherBlank = true) : typedWord before ≠ [] := by
  rw [← endsIn_trimLeft _ hslash] at hend
  have hspace : [' '].isSuffixOf before.trimLeft = false := by
    obtain ⟨front, b, ht, hb⟩ := Text.exists_of_endsIn hend
    rw [isOtherBlank, Bool.and_eq_true, bne_iff_ne] at hb
    rw [Text.isSuffixOf_space_eq, ht, Text.endsIn_append_singleton]
    exact beq_false_of_ne hb.2
  obtain ⟨rest, hrest⟩ := hslash
  simp only [typedWord, hspace]
  split
  · simp [← hrest]
  · have hwords : before.trimLeft.words ≠ [] := hrest ▸ Text.words_cons_ne_nil (by decide) rest
    rcases List.eq_nil_or_concat before.trimLeft.words with hnone | ⟨others, word, hlast⟩
    · exact absurd hnone hwords
    · have hword : word ≠ [] := Text.ne_nil_of_mem_words (t := before.trimLeft) (by simp [hlast])
      simpa [hlast] using hword

/-- A completion replaces exactly what it completes if and only if the text before the cursor does not end in a blank other than a space. -/
theorem completion_exact_iff {text : Text} {cursor : Nat}
    (hmem : c ∈ completions r settings (text.take cursor)) :
    c.Exact (text.take cursor) ↔ Text.endsIn isOtherBlank (text.take cursor) = false := by
  obtain ⟨hslash, hstart, hopens⟩ := completions_spec hmem
  constructor
  · intro hexact
    refine Bool.eq_false_iff.mpr fun hother => ?_
    have hblank : Text.endsIn isBlank (text.take cursor) = true := by
      rw [Text.endsIn_isBlank_eq, hother, Bool.true_or]
    have hback : c.start ≠ 0 := by
      have hlength := List.length_pos_iff.mpr (typedWord_ne_nil hslash hother)
      omega
    exact Completion.not_exact_of_endsIn_isBlank hback hblank hexact
  · intro hend
    obtain ⟨kept, hbefore, hcut⟩ := exists_cutAtWord_typedWord hslash hend
    rw [hbefore]
    exact Completion.exact_append hstart hcut hopens

theorem completion_exact_iff_capitals :
    ∃ s, Settings.ofConfig .null = .ok s ∧
      (let before := "\t/config\u3000SEparators".toList.take 11
       let c : Completion := { text := "set", start := -2, note := [] }
       c ∈ completions ConsoleCommand.registry (some s) before ∧ c.replaced before = "SE".toList ∧
         c.Exact before) ∧
      (let before := "/config\u3000set ".toList.take 12
       let c : Completion := { text := "dashboard", start := 0, note := "section" }
       c ∈ completions ConsoleCommand.registry (some s) before ∧ c.replaced before = [] ∧
         c.Exact before) := by
  refine ⟨_, rfl, ?_, ?_⟩
  · refine ⟨?action, by decide, (completion_exact_iff ?action).mpr (by decide)⟩
    decide
  · refine ⟨?named, by decide, (completion_exact_iff ?named).mpr (by decide)⟩
    decide

/-- Behind a tab the actions that begin with the word before it are offered, and the tab is taken away in place of the word. -/
theorem completions_behind_tab :
    let before := "/config s\t".toList.take 10
    let offered : List Completion :=
      [{ text := "show", start := -1, note := [] }, { text := "set", start := -1, note := [] }]
    (∃ s, Settings.ofConfig .null = .ok s ∧
      completions ConsoleCommand.registry (some s) before = offered) ∧
      ∀ c ∈ offered, c.replaced before = ['\t'] ∧ ¬ c.Exact before := by
  intro before offered
  exact ⟨⟨_, rfl, by decide⟩, by decide⟩

end Substitute
