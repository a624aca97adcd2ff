import Mathlib.Data.List.Induction
import Substitute.Proofs.Command.Field

/-!
# Words between blanks

A text comes apart at its blanks, whatever their kind: a blank ends the word before it and belongs to none. So a text that ends in no blank ends in the last of its words, and every text can be cut before the word at its end, which is empty behind a blank.
-/

namespace Substitute

def isOtherBlank (c : Char) : Bool :=
  isBlank c && c != ' '

namespace Text

/-- Whether the last character is of a kind; the empty text ends in none. -/
def endsIn (kind : Char → Bool) (t : Text) : Bool :=
  t.getLast?.any kind

/-- A text cut before the word at its end. The word holds no blank, and it stands behind a blank or is the whole text. Behind a blank it may be empty. -/
structure CutAtWord (kept word : Text) : Prop where
  solid : ∀ c ∈ word, isBlank c = false
  apart : kept.endsIn isBlank = true ∨ kept = [] ∧ word ≠ []

instance (kept word : Text) : Decidable (CutAtWord kept word) :=
  have : Decidable (∀ c ∈ word, isBlank c = false) := List.decidableBAll (isBlank · = false) word
  decidable_of_iff ((∀ c ∈ word, isBlank c = false) ∧ (kept.endsIn isBlank = true ∨ kept = [] ∧ word ≠ []))
    ⟨fun ⟨solid, apart⟩ => ⟨solid, apart⟩, fun ⟨solid, apart⟩ => ⟨solid, apart⟩⟩

variable {kind : Char → Bool} {t kept word : Text} {c d : Char}

/-! ### The last character -/

@[simp]
theorem endsIn_append_singleton (kind : Char → Bool) (front : Text) (c : Char) :
    endsIn kind (front ++ [c]) = kind c := by
  simp [endsIn]

theorem endsIn_append (kind : Char → Bool) (front : Text) {back : Text} (hne : back ≠ []) :
    endsIn kind (front ++ back) = endsIn kind back := by
  rcases List.eq_nil_or_concat back with rfl | ⟨more, c, rfl⟩
  · exact absurd rfl hne
  · rw [List.concat_eq_append, ← List.append_assoc, endsIn_append_singleton, endsIn_append_singleton]

theorem exists_of_endsIn (hend : t.endsIn kind = true) :
    ∃ front c, t = front ++ [c] ∧ kind c = true := by
  rcases List.eq_nil_or_concat t with rfl | ⟨front, c, rfl⟩
  · exact absurd hend (by simp [endsIn])
  · exact ⟨front, c, List.concat_eq_append, by simpa using hend⟩

theorem isSuffixOf_space_eq (t : Text) : [' '].isSuffixOf t = t.endsIn (· == ' ') := by
  rw [Bool.eq_iff_iff, List.isSuffixOf_iff_suffix, List.singleton_suffix_iff_getLast?_eq_some, endsIn]
  cases t.getLast? <;> simp

theorem endsIn_isBlank_eq (t : Text) :
    t.endsIn isBlank = (t.endsIn isOtherBlank || [' '].isSuffixOf t) := by
  have hkinds : ∀ c, isBlank c = (isOtherBlank c || c == ' ') := by
    intro c
    rw [isOtherBlank]
    rcases eq_or_ne c ' ' with rfl | hc
    · decide
    · rw [bne_iff_ne.mpr hc, beq_false_of_ne hc, Bool.and_true, Bool.or_false]
  rw [isSuffixOf_space_eq, endsIn, endsIn, endsIn]
  cases t.getLast? with
  | none => rfl
  | some c => exact hkinds c

/-! ### Cutting at blanks -/

private theorem extendFirst_append (part : Text) {texts : List Text} (hne : texts ≠ []) (more : List Text) :
    extendFirst part (texts ++ more) = extendFirst part texts ++ more := by
  obtain ⟨first, others, rfl⟩ := List.exists_cons_of_ne_nil hne
  rfl

theorem words_blank_cons (hc : isBlank c = true) (rest : Text) : words (c :: rest) = words rest := by
  rw [words.eq_def]
  simp only [hc, if_true]

@[simp] theorem words_singleton (hc : isBlank c = false) : words [c] = [[c]] := by
  simp [words, hc]

theorem words_cons_blank (hc : isBlank c = false) (hd : isBlank d = true) (rest : Text) :
    words (c :: d :: rest) = [c] :: words (d :: rest) := by
  rw [words.eq_def]
  simp only [hc, hd, if_true, Bool.false_eq_true, if_false]

theorem words_cons_solid (hc : isBlank c = false) (hd : isBlank d = false) (rest : Text) :
    words (c :: d :: rest) = extendFirst [c] (words (d :: rest)) := by
  rw [words.eq_def]
  simp only [hc, hd, Bool.false_eq_true, if_false]

theorem words_cons_ne_nil (hc : isBlank c = false) (rest : Text) : words (c :: rest) ≠ [] := by
  cases rest with
  | nil => simp [words_singleton hc]
  | cons d more =>
    cases hd : isBlank d with
    | true => simp [words_cons_blank hc hd]
    | false => simpa [words_cons_solid hc hd] using extendFirst_ne_nil _ _

theorem words_append_blank {b : Char} (hb : isBlank b = true) (front back : Text) :
    words (front ++ b :: back) = words front ++ words back := by
  induction front with
  | nil => exact words_blank_cons hb back
  | cons c rest ih =>
    cases hc : isBlank c with
    | true => rw [List.cons_append, words_blank_cons hc, words_blank_cons hc, ih]
    | false =>
      cases rest with
      | nil =>
        rw [List.singleton_append, words_cons_blank hc hb, words_blank_cons hb, words_singleton hc,
          List.singleton_append]
      | cons d more =>
        simp only [List.cons_append] at ih ⊢
        cases hd : isBlank d with
        | true => rw [words_cons_blank hc hd, words_cons_blank hc hd, ih, List.cons_append]
        | false =>
          rw [words_cons_solid hc hd, words_cons_solid hc hd, ih,
            extendFirst_append _ (words_cons_ne_nil hd more)]

theorem words_of_solid (hne : word ≠ []) (hsolid : ∀ c ∈ word, isBlank c = false) :
    words word = [word] := by
  induction word with
  | nil => exact absurd rfl hne
  | cons c rest ih =>
    obtain ⟨hc, hrest⟩ := List.forall_mem_cons.mp hsolid
    cases rest with
    | nil => exact words_singleton hc
    | cons d more =>
      rw [words_cons_solid hc (hrest d List.mem_cons_self), ih (List.cons_ne_nil d more) hrest]
      rfl

theorem trim_of_solid (hsolid : ∀ c ∈ word, isBlank c = false) : trim word = word := by
  have hkeeps : ∀ t : Text, (∀ c ∈ t, isBlank c = false) → t.dropWhile isBlank = t := by
    intro t ht
    cases t with
    | nil => rfl
    | cons c rest => exact List.dropWhile_cons_of_neg (by simp [ht c List.mem_cons_self])
  rw [trim, trimLeft, hkeeps word hsolid, trimRight,
    hkeeps _ fun c hc => hsolid c (List.mem_reverse.mp hc), List.reverse_reverse]

theorem ne_nil_of_mem_words (hmem : word ∈ words t) : word ≠ [] := by
  induction t with
  | nil => exact absurd hmem List.not_mem_nil
  | cons c rest ih =>
    cases hc : isBlank c with
    | true => exact ih (words_blank_cons hc rest ▸ hmem)
    | false =>
      cases rest with
      | nil =>
        obtain rfl := List.mem_singleton.mp (words_singleton hc ▸ hmem)
        exact List.cons_ne_nil c []
      | cons d more =>
        cases hd : isBlank d with
        | true =>
          rw [words_cons_blank hc hd] at hmem
          rcases List.mem_cons.mp hmem with rfl | hmem
          · exact List.cons_ne_nil c []
          · exact ih hmem
        | false =>
          obtain ⟨first, others, hwords⟩ := List.exists_cons_of_ne_nil (words_cons_ne_nil hd more)
          rw [words_cons_solid hc hd, hwords] at hmem
          rcases List.mem_cons.mp hmem with rfl | hmem
          · exact List.cons_ne_nil c first
          · exact ih (hwords ▸ List.mem_cons_of_mem first hmem)

/-! ### The word at the end -/

/-- Blanks in front of a text go with what is kept. -/
theorem CutAtWord.append_left {blanks : Text} (hcut : CutAtWord kept word)
    (hblanks : ∀ c ∈ blanks, isBlank c = true) : CutAtWord (blanks ++ kept) word := by
  refine ⟨hcut.solid, ?_⟩
  rcases hcut.apart with hblank | ⟨rfl, hne⟩
  · obtain ⟨front, b, rfl, hb⟩ := exists_of_endsIn hblank
    rw [← List.append_assoc, endsIn_append_singleton]
    exact .inl hb
  · rw [List.append_nil]
    rcases List.eq_nil_or_concat blanks with rfl | ⟨front, b, rfl⟩
    · exact .inr ⟨rfl, hne⟩
    · rw [List.concat_eq_append, endsIn_append_singleton]
      exact .inl (hblanks b (by simp))

private theorem CutAtWord.words_append (hcut : CutAtWord kept word) (hne : word ≠ []) :
    words (kept ++ word) = words kept ++ [word] := by
  rcases hcut.apart with hblank | ⟨rfl, -⟩
  · obtain ⟨front, b, rfl, hb⟩ := exists_of_endsIn hblank
    rw [List.append_assoc, List.singleton_append, words_append_blank hb, words_append_blank hb,
      words_of_solid hne hcut.solid, words, List.append_nil]
  · exact words_of_solid hne hcut.solid

private theorem exists_cutAtWord (hne : t ≠ []) : ∃ kept word, t = kept ++ word ∧ CutAtWord kept word := by
  induction t using List.reverseRecOn with
  | nil => exact absurd rfl hne
  | append_singleton front c ih =>
    cases hc : isBlank c with
    | true => exact ⟨front ++ [c], [], (List.append_nil _).symm, by simp, .inl (by simp [hc])⟩
    | false =>
      rcases eq_or_ne front [] with rfl | hfront
      · exact ⟨[], [c], rfl, by simpa using hc, .inr ⟨rfl, List.cons_ne_nil c []⟩⟩
      · obtain ⟨kept, word, rfl, hsolid, hapart⟩ := ih hfront
        refine ⟨kept, word ++ [c], List.append_assoc _ _ _, ?_, ?_⟩
        · exact List.forall_mem_append.mpr ⟨hsolid, List.forall_mem_singleton.mpr hc⟩
        · exact hapart.imp_right fun ⟨hkept, _⟩ => ⟨hkept, by simp⟩

theorem exists_words_eq_append (hne : t ≠ []) (hend : t.endsIn isBlank = false) :
    ∃ kept word, t = kept ++ word ∧ CutAtWord kept word ∧ words t = words kept ++ [word] := by
  obtain ⟨kept, word, rfl, hcut⟩ := exists_cutAtWord hne
  have hword : word ≠ [] := by
    rintro rfl
    have hblank : kept.endsIn isBlank = true := hcut.apart.resolve_right fun h => h.2 rfl
    rw [List.append_nil, hblank] at hend
    exact Bool.false_ne_true hend.symm
  exact ⟨kept, word, rfl, hcut, hcut.words_append hword⟩

end Text

end Substitute
