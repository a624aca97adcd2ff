import Substitute.Console.Words

/-!
# Words written on a console line

A word stands on a line as it is or between quotes of either kind, and gaps stand between words. Cutting the line gives back the words that were written, whatever else they hold: backslashes and number signs stand for themselves, and a quoted word may be empty.
-/

namespace Substitute

def gapChars : Text :=
  " \t\r\n"

def quoteChars : Text :=
  "\x27\""

theorem isWordGap_iff (c : Char) : isWordGap c = true ↔ c ∈ gapChars := by
  simp [isWordGap, gapChars, or_assoc]

theorem isGroupQuote_iff (c : Char) : isGroupQuote c = true ↔ c ∈ quoteChars := by
  simp [isGroupQuote, quoteChars, or_comm]

theorem not_blank_of_mem_quoteChars : ∀ quote ∈ quoteChars, quote ∉ gapChars ∧ isBlank quote = false := by
  intro quote hmem
  have hquote : quote = '\x27' ∨ quote = '"' := by simpa [quoteChars] using hmem
  obtain rfl | rfl := hquote <;> decide

/-- How a word is written. -/
inductive Quoting where
  | bare
  | single
  | double
deriving DecidableEq, Repr

namespace Quoting

/-- Whether a word may be written so: bare when it has characters and none of them is a gap or a quote, else without the quote that stands around it. -/
def Allows : Quoting → Text → Prop
  | bare, word => word ≠ [] ∧ ∀ c ∈ word, c ∉ gapChars ∧ c ∉ quoteChars
  | single, word => '\x27' ∉ word
  | double, word => '"' ∉ word

instance (quoting : Quoting) (word : Text) : Decidable (quoting.Allows word) :=
  match quoting with
  | bare => @instDecidableAnd _ _ _ (List.decidableBAll (fun c => c ∉ gapChars ∧ c ∉ quoteChars) word)
  | single => inferInstanceAs (Decidable ('\x27' ∉ word))
  | double => inferInstanceAs (Decidable ('"' ∉ word))

def write : Quoting → Text → Text
  | bare, word => word
  | single, word => '\x27' :: word ++ ['\x27']
  | double, word => '"' :: word ++ ['"']

end Quoting

/-- A word with the way it is written. -/
structure WrittenWord where
  word : Text
  quoting : Quoting
  allowed : quoting.Allows word

def WrittenWord.text (w : WrittenWord) : Text :=
  w.quoting.write w.word

/-- What stands between two words. -/
structure Gap where
  text : Text
  nonempty : text ≠ []
  blank : ∀ c ∈ text, c ∈ gapChars

/-- Words written on a line, at least one, with the gap before each further one. -/
structure WrittenLine where
  first : WrittenWord
  rest : List (Gap × WrittenWord)

namespace WrittenLine

def restText (rest : List (Gap × WrittenWord)) : Text :=
  rest.flatMap fun part => part.1.text ++ part.2.text

def text (l : WrittenLine) : Text :=
  l.first.text ++ restText l.rest

def restWords (l : WrittenLine) : List Text :=
  l.rest.map fun part => part.2.word

def words (l : WrittenLine) : List Text :=
  l.first.word :: l.restWords

def last (l : WrittenLine) : WrittenWord :=
  (l.rest.getLast?.map Prod.snd).getD l.first

end WrittenLine

/-! ### Reading one word -/

variable {before word rest : Text}

private theorem groupedWords?_within (hword : ∀ c ∈ word, c ∉ gapChars ∧ c ∉ quoteChars) :
    groupedWords? (.within before) (word ++ rest) = groupedWords? (.within (before ++ word)) rest := by
  induction word generalizing before with
  | nil => simp
  | cons c more ih =>
    obtain ⟨⟨hgap, hquote⟩, hmore⟩ := List.forall_mem_cons.mp hword
    rw [List.cons_append, groupedWords?, if_neg (by rwa [isWordGap_iff]),
      if_neg (by rwa [isGroupQuote_iff]), ih hmore, List.append_assoc, List.singleton_append]

private theorem groupedWords?_grouped {quote : Char} (hword : quote ∉ word) :
    groupedWords? (.grouped quote before) (word ++ quote :: rest) =
      groupedWords? (.within (before ++ word)) rest := by
  induction word generalizing before with
  | nil => simp [groupedWords?]
  | cons c more ih =>
    have hc : c ≠ quote := fun h => hword (h ▸ List.mem_cons_self)
    have hmore : quote ∉ more := fun h => hword (List.mem_cons_of_mem c h)
    rw [List.cons_append, groupedWords?, if_neg hc, ih hmore, List.append_assoc,
      List.singleton_append]

theorem groupedWords?_quoted {quote : Char} (hquote : quote ∈ quoteChars) (hword : quote ∉ word) :
    groupedWords? .between (quote :: word ++ [quote] ++ rest) = groupedWords? (.within word) rest := by
  have hgap : ¬ isWordGap quote = true := by
    rw [isWordGap_iff]
    exact (not_blank_of_mem_quoteChars quote hquote).1
  rw [List.append_assoc, List.cons_append, List.singleton_append, groupedWords?, if_neg hgap,
    if_pos ((isGroupQuote_iff quote).mpr hquote), groupedWords?_grouped hword, List.nil_append]

theorem groupedWords?_text (w : WrittenWord) (rest : Text) :
    groupedWords? .between (w.text ++ rest) = groupedWords? (.within w.word) rest := by
  obtain ⟨word, quoting, hallowed⟩ := w
  cases quoting with
  | bare =>
    obtain ⟨hne, hword⟩ := hallowed
    obtain ⟨c, more, rfl⟩ := List.exists_cons_of_ne_nil hne
    obtain ⟨⟨hgap, hquote⟩, hmore⟩ := List.forall_mem_cons.mp hword
    rw [WrittenWord.text, Quoting.write, List.cons_append, groupedWords?,
      if_neg (by rwa [isWordGap_iff]), if_neg (by rwa [isGroupQuote_iff]), groupedWords?_within hmore,
      List.singleton_append]
  | single => exact groupedWords?_quoted (by decide) hallowed
  | double => exact groupedWords?_quoted (by decide) hallowed

/-! ### Reading a line -/

private theorem groupedWords?_between {blanks : Text} (hblanks : ∀ c ∈ blanks, c ∈ gapChars) :
    groupedWords? .between (blanks ++ rest) = groupedWords? .between rest := by
  induction blanks with
  | nil => rfl
  | cons c more ih =>
    obtain ⟨hc, hmore⟩ := List.forall_mem_cons.mp hblanks
    rw [List.cons_append, groupedWords?, if_pos ((isWordGap_iff c).mpr hc), ih hmore]

theorem groupedWords?_gap (gap : Gap) :
    groupedWords? (.within word) (gap.text ++ rest) =
      (groupedWords? .between rest).map (word :: ·) := by
  obtain ⟨blanks, hne, hblanks⟩ := gap
  obtain ⟨c, more, rfl⟩ := List.exists_cons_of_ne_nil hne
  obtain ⟨hc, hmore⟩ := List.forall_mem_cons.mp hblanks
  rw [List.cons_append, groupedWords?, if_pos ((isWordGap_iff c).mpr hc), groupedWords?_between hmore]

private theorem groupedWords?_restText (word : Text) (parts : List (Gap × WrittenWord)) :
    groupedWords? (.within word) (WrittenLine.restText parts) =
      some (word :: parts.map fun part => part.2.word) := by
  induction parts generalizing word with
  | nil => rfl
  | cons part more ih =>
    have hsplit : WrittenLine.restText (part :: more) =
        part.1.text ++ (part.2.text ++ WrittenLine.restText more) := by
      simp [WrittenLine.restText]
    rw [hsplit, groupedWords?_gap, groupedWords?_text, ih]
    rfl

/-! ### The ends of a line -/

private theorem WrittenWord.exists_quote_of_quoted {w : WrittenWord} (hquoted : w.quoting ≠ .bare) :
    ∃ front quote, quote ∈ quoteChars ∧ w.text = front ++ [quote] := by
  obtain ⟨word, quoting, hallowed⟩ := w
  cases quoting with
  | bare => exact absurd rfl hquoted
  | single => exact ⟨'\x27' :: word, '\x27', by decide, rfl⟩
  | double => exact ⟨'"' :: word, '"', by decide, rfl⟩

private theorem WrittenLine.exists_text_eq_append_last (l : WrittenLine) :
    ∃ front, l.text = front ++ l.last.text := by
  obtain ⟨first, parts⟩ := l
  rcases List.eq_nil_or_concat parts with rfl | ⟨front, part, rfl⟩
  · exact ⟨[], by simp [text, restText, last]⟩
  · exact ⟨first.text ++ restText front ++ part.1.text, by simp [text, restText, last]⟩

theorem Text.trim_eq_self {first last : Char} {middle : Text} (hfirst : isBlank first = false)
    (hlast : isBlank last = false) : trim (first :: (middle ++ [last])) = first :: (middle ++ [last]) := by
  rw [trim, trimLeft, List.dropWhile_cons_of_neg (by simp [hfirst]), trimRight, ← List.cons_append,
    List.reverse_append, List.reverse_singleton, List.singleton_append,
    List.dropWhile_cons_of_neg (by simp [hlast])]
  simp

/-- Cutting a line gives back the words written on it, however each is quoted. After a slash, and with the last word quoted, such a line calls the command that the first word names in small letters, with the other words as they are. -/
theorem splitWords_text (l : WrittenLine) :
    splitWords l.text = l.words ∧
      (l.last.quoting ≠ .bare → SlashLine.parse? ('/' :: l.text) =
        some { command := lowercase l.first.word, words := l.restWords }) := by
  have hsplit : splitWords l.text = l.words := by
    rw [splitWords, WrittenLine.text, groupedWords?_text, groupedWords?_restText]
    rfl
  refine ⟨hsplit, fun hquoted => ?_⟩
  obtain ⟨front, htext⟩ := l.exists_text_eq_append_last
  obtain ⟨opening, quote, hquote, hlast⟩ := WrittenWord.exists_quote_of_quoted hquoted
  have hblank : isBlank quote = false := (not_blank_of_mem_quoteChars quote hquote).2
  have htrim : Text.trim ('/' :: l.text) = '/' :: l.text := by
    rw [htext, hlast, ← List.append_assoc]
    exact Text.trim_eq_self (by decide) hblank
  rw [SlashLine.parse?, htrim]
  simp only [hsplit]
  rfl

/-- A name in capitals, a bare backslash and number sign, an empty word, and a word with blanks and quotes of the other kind. -/
def quotedLine : WrittenLine where
  first := ⟨"CONFIG", .bare, by decide⟩
  rest :=
    [(⟨" \t", by decide, by simp [gapChars]⟩, ⟨"\\v#", .bare, by decide⟩),
     (⟨"\n", by decide, by simp [gapChars]⟩, ⟨[], .single, by decide⟩),
     (⟨" ", by decide, by simp [gapChars]⟩, ⟨"say 'hi' ", .double, by decide⟩)]

theorem splitWords_text_quotedLine :
    quotedLine.text = "CONFIG \t\\v#\n'' \"say 'hi' \"".toList ∧ quotedLine.last.quoting ≠ .bare ∧
      splitWords quotedLine.text = (["CONFIG", "\\v#", [], "say 'hi' "] : List Text) ∧
      SlashLine.parse? ('/' :: quotedLine.text) =
        some { command := "config", words := ["\\v#", [], "say 'hi' "] } := by
  have hquoted : quotedLine.last.quoting ≠ .bare := by decide
  obtain ⟨hsplit, hparse⟩ := splitWords_text quotedLine
  exact ⟨by decide, hquoted, hsplit, (hparse hquoted).trans (by decide)⟩

end Substitute
