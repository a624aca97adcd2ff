import Mathlib.Data.List.Infix
import Substitute.Command.Toggle
import Substitute.Proofs.Command.RoundTrip

/-!
# Toggles keep commands readable

No toggle puts a separator into a field outside an escape pair, or a lone backslash at its end. Flags and ranges take no part in that, a dialect is an escape pair itself, and the separator moves only to characters that the fields do not hold. Where a replace term is restored, the restored text has to be a closed field.
-/

namespace Substitute

theorem Text.occursIn_iff_isInfix (part t : Text) : Text.occursIn part t = true ↔ part <:+: t := by
  induction t with
  | nil => simp [occursIn]
  | cons c rest ih =>
    rw [occursIn, Bool.or_eq_true, List.isPrefixOf_iff_prefix, ih, List.infix_cons_iff]

theorem Text.occursIn_singleton (mark : Char) (t : Text) :
    Text.occursIn [mark] t = true ↔ mark ∈ t := by
  rw [occursIn_iff_isInfix, List.singleton_infix_iff]

@[simp] theorem Text.occursIn_singleton_eq (mark : Char) (t : Text) :
    Text.occursIn [mark] t = decide (mark ∈ t) := by
  rw [Bool.eq_iff_iff, occursIn_singleton, decide_eq_true_iff]

theorem mem_of_mem_candidatesAfter {candidates : List Text} {current t : Text}
    (ht : t ∈ candidatesAfter candidates current) : t ∈ candidates := by
  rw [candidatesAfter] at ht
  split at ht
  · rcases List.mem_append.mp ht with ht | ht
    · exact List.mem_of_mem_drop ht
    · exact List.mem_of_mem_take ht
  · exact ht

theorem Field.closed_of_free {mark : Char} {t : Text} (hfree : Text.occursIn [mark] t = false)
    (hpaired : endsUnpaired t = false) : Closed mark t := by
  have hmem : mark ∉ t := by
    rw [← Text.occursIn_singleton, hfree]
    exact Bool.false_ne_true
  exact ⟨countUnescaped_eq_zero hmem, hpaired⟩

/-! ### Dialects -/

/-- A text that is empty or the marker of a dialect. -/
def IsDialect (t : Text) : Prop :=
  t = [] ∨ t ∈ dialectMarkers

/-- A marker is an escape pair, of a character that cannot separate. -/
theorem exists_letter {marker : Text} (h : marker ∈ dialectMarkers) :
    ∃ letter, marker = ['\\', letter] ∧ isSeparatorChar letter = false := by
  simp only [dialectMarkers, List.mem_cons, List.not_mem_nil, or_false] at h
  rcases h with rfl | rfl | rfl | rfl
  · exact ⟨'v', rfl, by decide⟩
  · exact ⟨'m', rfl, by decide⟩
  · exact ⟨'M', rfl, by decide⟩
  · exact ⟨'V', rfl, by decide⟩

theorem IsDialect.closed {dialect : Text} (h : IsDialect dialect) (mark : Char) :
    Field.Closed mark dialect := by
  rcases h with rfl | h
  · exact Field.closed_nil mark
  · obtain ⟨letter, rfl, -⟩ := exists_letter h
    exact ⟨rfl, rfl⟩

theorem IsDialect.not_mem {dialect : Text} {mark : Char} (h : IsDialect dialect)
    (hmark : isSeparatorChar mark = true) (hne : mark ≠ '\\') : mark ∉ dialect := by
  rcases h with rfl | h
  · exact List.not_mem_nil
  · obtain ⟨letter, rfl, hletter⟩ := exists_letter h
    intro hmem
    rw [List.mem_cons, List.mem_singleton] at hmem
    rcases hmem with heq | rfl
    · exact hne heq
    · exact Bool.false_ne_true (hletter.symm.trans hmark)

theorem exists_detectDialect (search : Text) :
    IsDialect (detectDialect search) ∧ ∃ body, search = detectDialect search ++ body := by
  rw [detectDialect]
  cases hfind : dialectMarkers.find? fun marker => marker.isPrefixOf search with
  | none => exact ⟨.inl rfl, search, rfl⟩
  | some marker =>
    have hopens := List.find?_some hfind
    obtain ⟨body, hbody⟩ := List.isPrefixOf_iff_prefix.mp hopens
    exact ⟨.inr (List.mem_of_find?_eq_some hfind), body, hbody.symm⟩

theorem detectDialect_marker_append {marker : Text} (h : marker ∈ dialectMarkers) (t : Text) :
    detectDialect (marker ++ t) = marker := by
  simp only [dialectMarkers, List.mem_cons, List.not_mem_nil, or_false] at h
  rcases h with rfl | rfl | rfl | rfl <;> simp [detectDialect, dialectMarkers, List.isPrefixOf]

namespace Command

variable {c : Command} {mark : Char}

theorem search_eq_append (hdialect : c.dialect = detectDialect c.search) :
    c.search = c.dialect ++ c.searchBody := by
  obtain ⟨-, body, hbody⟩ := exists_detectDialect c.search
  rw [← hdialect] at hbody
  rw [searchBody, hbody, List.drop_left]

theorem exists_nextDialect {dialects : List Text} (hne : dialects ≠ []) (current : Text) :
    ∃ dialect, nextDialect? dialects current = some dialect := by
  obtain ⟨first, rest, rfl⟩ := List.exists_cons_of_ne_nil hne
  rw [nextDialect?]
  split
  · rename_i i _
    cases (first :: rest)[i + 1]? with
    | none => exact ⟨first, rfl⟩
    | some next => exact ⟨next, rfl⟩
  · exact ⟨first, rfl⟩

theorem nextDialect?_mem {dialects : List Text} {current next : Text}
    (hnext : nextDialect? dialects current = some next) : next ∈ dialects := by
  rw [nextDialect?] at hnext
  split at hnext
  · rename_i i _
    cases hget : dialects[i + 1]? with
    | none =>
      rw [hget, Option.none_or] at hnext
      exact List.mem_of_head? hnext
    | some dialect =>
      rw [hget, Option.some_or] at hnext
      exact Option.some.inj hnext ▸ List.mem_of_getElem? hget
  · exact List.mem_of_head? hnext

theorem isRange_cycleRange (c : Command) : IsRange c.cycleRange.range := by
  rw [cycleRange]
  dsimp only
  split
  · exact isRange_append ['.', ',', '$'] (by decide)
  · split
    · exact isRange_append ['0', ',', '.'] (by decide)
    · exact isRange_append ['%'] (by decide)

/-- What stepping the separator comes to: a candidate that stands in neither field, or the separator that was there. -/
theorem cycleSeparator_cases (c : Command) (candidates : List Text) :
    (∃ separator ∈ candidates, separator.occursIn c.search = false ∧
      separator.occursIn c.replace = false ∧ c.cycleSeparator candidates = { c with separator }) ∨
    c.cycleSeparator candidates = c := by
  rw [cycleSeparator]
  split
  · rename_i separator hfind
    have hmem : separator ∈ candidates :=
      mem_of_mem_candidatesAfter (List.mem_of_find?_eq_some hfind)
    have hfree := List.find?_some hfind
    rw [Bool.and_eq_true, Bool.not_eq_true', Bool.not_eq_true'] at hfree
    exact .inl ⟨separator, hmem, hfree.1, hfree.2, rfl⟩
  · exact .inr rfl

namespace Readable

private theorem search_eq (h : c.Readable mark) : c.search = c.dialect ++ c.searchBody :=
  search_eq_append h.dialect

theorem isDialect (h : c.Readable mark) : IsDialect c.dialect := by
  rw [h.dialect]
  exact (exists_detectDialect c.search).1

theorem searchBody_closed (h : c.Readable mark) : Field.Closed mark c.searchBody := by
  have hsearch := h.search
  rw [h.search_eq] at hsearch
  exact (Field.closed_append_iff (h.isDialect.closed mark)).mp hsearch

theorem withFlags (h : c.Readable mark) (flags : Text) : Readable mark { c with flags } :=
  { h with }

theorem withReplace (h : c.Readable mark) {replace : Text} (hreplace : Field.Closed mark replace) :
    Readable mark { c with replace } :=
  { h with replace := hreplace }

theorem toggleFlag (h : c.Readable mark) (flag : Text) (alphabet : List Text) :
    (c.toggleFlag flag alphabet).Readable mark := by
  rw [Command.toggleFlag]
  split
  · exact h.withFlags _
  · exact h.withFlags _

theorem toggleReplace (h : c.Readable mark) {restore : Text} (hrestore : Field.Closed mark restore) :
    (c.toggleReplace restore).Readable mark := by
  rw [Command.toggleReplace]
  split
  · exact h.withReplace hrestore
  · exact h.withReplace (Field.closed_nil mark)

theorem cycleRange (h : c.Readable mark) : c.cycleRange.Readable mark :=
  { h with range := isRange_cycleRange c }

theorem cycleSeparator_of_ne (h : c.Readable mark) {candidates : List Text}
    (hvalid : ∀ t ∈ candidates, isValidSeparator t = true)
    (hne : (c.cycleSeparator candidates).separator ≠ ['\\']) :
    ∃ mark, (c.cycleSeparator candidates).Readable mark := by
  rcases c.cycleSeparator_cases candidates with ⟨separator, hmem, hsearch, hreplace, hcycle⟩ | hcycle
  · rw [hcycle] at hne ⊢
    obtain ⟨other, rfl, hother, hother_ne⟩ := exists_mark (hvalid separator hmem) hne
    exact ⟨other,
      { h with
        separator := rfl
        mark_valid := hother
        mark_ne := hother_ne
        search := Field.closed_of_free hsearch h.search.paired
        replace := Field.closed_of_free hreplace h.replace.paired }⟩
  · rw [hcycle]
    exact ⟨mark, h⟩

theorem cycleSeparator (h : c.Readable mark) {candidates : List Text}
    (hvalid : ∀ t ∈ candidates, isValidSeparator t = true) (hplain : ∀ t ∈ candidates, '\\' ∉ t) :
    ∃ mark, (c.cycleSeparator candidates).Readable mark := by
  refine h.cycleSeparator_of_ne hvalid ?_
  rcases c.cycleSeparator_cases candidates with ⟨separator, hmem, -, -, hcycle⟩ | hcycle
  · rw [hcycle]
    rintro (rfl : separator = ['\\'])
    exact hplain _ hmem List.mem_cons_self
  · rw [hcycle, h.separator]
    exact fun heq => h.mark_ne (List.cons.inj heq).1

theorem withDialect (h : c.Readable mark) {dialect : Text} (hdialect : IsDialect dialect) :
    (c.withSearch (dialect ++ c.searchBody)).Readable mark :=
  { h with
    dialect := rfl
    search := (Field.closed_append_iff (hdialect.closed mark)).mpr h.searchBody_closed }

end Readable

end Command

end Substitute
